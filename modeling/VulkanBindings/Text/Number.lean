import VulkanBindings.Text.Case
import VulkanBindings.Text.DigitTable
import VulkanBindings.Text.Fault

/-!
# Digits and numbers

A digit is any character that stands for one of the numbers zero to nine,
superscripts and circled digits included.  Only the digits of a decimal system
have a place value, and a number is a run of these, most significant first.
Where the digits that a text begins with are too many, nothing else about it
matters.

The numbers of a report have their thousands set apart by commas, and stand in
columns.
-/

namespace VulkanBindings.Text

open CodePoints (inSpans)

/-! ## Digits -/

/-- Whether `c` is a digit, of a decimal system or not. -/
def isDigit (c : Char) : Bool :=
  if isAscii c then c.isDigit else inSpans DigitTable.digits c.toNat

/-- The place value of a digit of a decimal system. -/
def digitValue? (c : Char) : Option Nat :=
  if isAscii c then
    if c.isDigit then some (c.toNat - '0'.toNat) else none
  else
    (DigitTable.zeros.find? fun first => first ≤ c.toNat && c.toNat < first + 10).map (c.toNat - ·)

theorem isDigit_of_ascii {c : Char} (h : isAscii c) : isDigit c = c.isDigit := by
  simp [isDigit, h]

/-- Whether the text is a non-empty run of digits. -/
def isDigits (text : String) : Bool :=
  !text.isEmpty && text.toList.all isDigit

/-! ## Reading numbers -/

/-- The number that digits with these place values write. -/
def ofDigits (digits : List Nat) : Nat :=
  digits.foldl (10 * · + ·) 0

/-- The number that a text of digits writes. -/
def number (text : String) : Except Fault Nat :=
  let values := text.toList.map digitValue?
  let count := (values.takeWhile Option.isSome).length
  if count > Fault.digitLimit then
    .error (.tooManyDigits count)
  else
    match values.mapM id with
    | some digits => .ok (ofDigits digits)
    | none => .error (.notANumber text)

/-! ## Numbers in columns -/

/-- A list of digits, least significant first, with a comma after every third
that another follows. -/
def groupDigits : List Char → List Char
  | a :: b :: c :: d :: rest => a :: b :: c :: ',' :: groupDigits (d :: rest)
  | short => short

/-- The number in decimal, with its sign if it is negative and with commas
between the thousands. -/
def grouped (n : Int) : String :=
  let digits := String.ofList (groupDigits (toString n.natAbs).toList.reverse).reverse
  if n < 0 then "-" ++ digits else digits

/-- The text moved to the right end of a column of the given width. -/
def padStart (width : Nat) (text : String) : String :=
  String.ofList (List.replicate (width - text.length) ' ') ++ text

/-- The text moved to the left end of a column of the given width. -/
def padEnd (width : Nat) (text : String) : String :=
  text ++ String.ofList (List.replicate (width - text.length) ' ')

end VulkanBindings.Text
