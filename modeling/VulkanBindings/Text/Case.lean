import VulkanBindings.Text.CaseTable

/-!
# Letter case

Case of single characters, with full mappings: `upper 'ß'` is `SS`.  A
character is mapped by itself, so its neighbours never matter.  ASCII letters
are decided first and need no table, which is what `upper_of_ascii`,
`lower_of_ascii` and their companions say.
-/

namespace VulkanBindings.Text

open CodePoints (inStrides shifted?)

/-- Whether `c` is a code point of ASCII. -/
def isAscii (c : Char) : Bool :=
  c.toNat < 128

/-- Whether `c` is an upper case letter. -/
def isUpper (c : Char) : Bool :=
  if isAscii c then c.isUpper else inStrides CaseTable.uppercase c.toNat

/-- Whether `c` is a lower case letter. -/
def isLower (c : Char) : Bool :=
  if isAscii c then c.isLower else inStrides CaseTable.lowercase c.toNat

/-- The image of a character under a table of single shifts and a table of
longer sequences; a character in neither stands for itself. -/
def mapByTables (one : List CodePoints.Shift) (many : List (Nat × List Nat)) (c : Char) :
    List Char :=
  match many.lookup c.toNat with
  | some points => points.map Char.ofNat
  | none => [((shifted? one c.toNat).map Char.ofNat).getD c]

/-- The upper case of `c`, in one or more characters. -/
def upper (c : Char) : List Char :=
  if isAscii c then [c.toUpper] else mapByTables CaseTable.toUpper CaseTable.toUpperMany c

/-- The lower case of `c`, in one or more characters. -/
def lower (c : Char) : List Char :=
  if isAscii c then [c.toLower] else mapByTables CaseTable.toLower CaseTable.toLowerMany c

theorem isUpper_of_ascii {c : Char} (h : isAscii c) : isUpper c = c.isUpper := by
  simp [isUpper, h]

theorem isLower_of_ascii {c : Char} (h : isAscii c) : isLower c = c.isLower := by
  simp [isLower, h]

theorem upper_of_ascii {c : Char} (h : isAscii c) : upper c = [c.toUpper] := by
  simp [upper, h]

theorem lower_of_ascii {c : Char} (h : isAscii c) : lower c = [c.toLower] := by
  simp [lower, h]

/-- The text with `change` made to its first character. -/
def mapFirst (change : Char → List Char) : List Char → List Char
  | [] => []
  | c :: rest => change c ++ rest

end VulkanBindings.Text
