import VulkanBindings.Text.Case
import VulkanBindings.Xml.NameTable

/-!
# Characters and names

Which characters a document may hold, which of them make up names, and names
with an optional scope before a colon.
-/

namespace VulkanBindings.Xml

open Text (isAscii)
open Text.CodePoints (inSpans)

/-- Whether a document may hold `c`: controls other than tab and line ends are
ruled out, and so are the two last code points of the basic plane. -/
def isAllowed (c : Char) : Bool :=
  let point := c.toNat
  (0x20 ≤ point || point == 0x9 || point == 0xA || point == 0xD) &&
    point != 0xFFFE && point != 0xFFFF

/-- Whether `c` is white space between the parts of a tag. -/
def isSpace (c : Char) : Bool :=
  c == ' ' || c == '\t' || c == '\n' || c == '\r'

/-- A name, in the scope of another name or in none. -/
structure Name where
  scope : Option String
  base : String
  deriving DecidableEq

/-- Which characters make up names. -/
structure NameRule where
  /-- Characters that can begin a name although the table has them not. -/
  extra : List Char

namespace NameRule

/-- The rule of the table alone. -/
def common : NameRule :=
  ⟨[]⟩

/-- The rule for texts in the characters of Latin 1, in which the ordinal
indicators and the micro sign count as letters. -/
def latin : NameRule :=
  ⟨['ª', 'µ', 'º']⟩

/-- Whether a name can begin with `c`. -/
def isStart (rule : NameRule) (c : Char) : Bool :=
  if isAscii c then c.isAlpha || c == '_'
  else rule.extra.contains c || inSpans NameTable.starters c.toNat

/-- Whether a name can go on with `c`. -/
def isPart (rule : NameRule) (c : Char) : Bool :=
  rule.isStart c ||
    if isAscii c then c.isDigit || c == '-' || c == '.' else inSpans NameTable.continuers c.toNat

/-- A name without a colon at the start of the text, and what follows it. -/
def plainName? (rule : NameRule) : List Char → Option (String × List Char)
  | [] => none
  | c :: rest =>
    if rule.isStart c then
      some (String.ofList (c :: rest.takeWhile rule.isPart), rest.dropWhile rule.isPart)
    else
      none

/-- A name at the start of the text, and what follows it. -/
def name? (rule : NameRule) (text : List Char) : Option (Name × List Char) := do
  let (first, rest) ← rule.plainName? text
  match rest with
  | ':' :: rest =>
    let (second, rest) ← rule.plainName? rest
    pure (⟨some first, second⟩, rest)
  | _ => pure (⟨none, first⟩, rest)

/-- Whether the whole text is one name without a colon. -/
def isPlainName (rule : NameRule) (text : List Char) : Bool :=
  match rule.plainName? text with
  | some (_, []) => true
  | _ => false

end NameRule

/-- The text after the white space at its start. -/
def skipSpace (text : List Char) : List Char :=
  text.dropWhile isSpace

/-- The text after the white space at its start, of which there is some. -/
def spaced? : List Char → Option (List Char)
  | c :: rest => if isSpace c then some (skipSpace rest) else none
  | [] => none

/-- The text between quotes at the start of the text, and what follows it. -/
def quotedText? : List Char → Option (List Char × List Char)
  | [] => none
  | quote :: rest =>
    if quote = '"' ∨ quote = '\'' then
      match rest.dropWhile (· != quote) with
      | _ :: after => some (rest.takeWhile (· != quote), after)
      | [] => none
    else
      none

end VulkanBindings.Xml
