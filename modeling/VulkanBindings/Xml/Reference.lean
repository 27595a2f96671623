import VulkanBindings.Xml.Name

/-!
# References

Inside text and attribute values a reference stands between an ampersand and a
semicolon.  It names a character by number, one of five fixed entities, or an
entity that the document declares.  `pieces?` splits a text into characters and
references to declared entities; the value of an attribute and the text of an
entity each have their own reading of the pieces.
-/

namespace VulkanBindings.Xml

/-- A character of a text, or a reference to a declared entity. -/
inductive Piece where
  /-- A character that stands in the document as itself. -/
  | literal (c : Char)
  /-- A character given by a reference. -/
  | given (c : Char)
  | entity (name : String)

/-- The number that digits in a base of up to sixteen write. -/
def digitsValue? (base : Nat) (digits : List Char) : Option Nat :=
  if digits.isEmpty then
    none
  else
    digits.foldl
      (fun value c => do
        let value ← value
        let digit ← if c.isDigit then some (c.toNat - '0'.toNat)
          else if 'a' ≤ c && c ≤ 'f' then some (c.toNat - 'a'.toNat + 10)
          else if 'A' ≤ c && c ≤ 'F' then some (c.toNat - 'A'.toNat + 10)
          else none
        if digit < base then some (base * value + digit) else none)
      (some 0)

/-- The character with a number, when a document may hold it. -/
def character? (number : Nat) : Option Char :=
  if h : number.isValidChar then
    let c := Char.ofNatAux number h
    if isAllowed c then some c else none
  else
    none

/-- The characters of the entities that need no declaration. -/
def fixedEntity? : String → Option Char
  | "lt" => some '<'
  | "gt" => some '>'
  | "amp" => some '&'
  | "quot" => some '"'
  | "apos" => some '\''
  | _ => none

/-- What stands between an ampersand and a semicolon, as a piece of text. -/
def reference? (rule : NameRule) : List Char → Option Piece
  | '#' :: 'x' :: digits => (digitsValue? 16 digits >>= character?).map .given
  | '#' :: digits => (digitsValue? 10 digits >>= character?).map .given
  | name =>
    if rule.isPlainName name then
      match fixedEntity? (String.ofList name) with
      | some c => some (.given c)
      | none => some (.entity (String.ofList name))
    else
      none

/-- The pieces read so far, last first, and the characters of a reference that
is still open, last first. -/
structure PieceScan where
  pieces : List Piece
  pending : Option (List Char)

namespace PieceScan

/-- Reads one more character. -/
def step (rule : NameRule) (scan : PieceScan) (c : Char) : Option PieceScan :=
  match scan.pending with
  | none =>
    if c = '&' then some ⟨scan.pieces, some []⟩
    else if isAllowed c then some ⟨.literal c :: scan.pieces, none⟩
    else none
  | some reading =>
    if c = ';' then
      (reference? rule reading.reverse).map fun piece => ⟨piece :: scan.pieces, none⟩
    else some ⟨scan.pieces, some (c :: reading)⟩

end PieceScan

/-- The pieces of a text, when every reference in it is complete. -/
def pieces? (rule : NameRule) (text : List Char) : Option (List Piece) := do
  let scan ← text.foldlM (PieceScan.step rule) ⟨[], none⟩
  match scan.pending with
  | none => pure scan.pieces.reverse
  | some _ => none

/-! ## Values of attributes -/

/-- White space in the value of an attribute is a blank, unless it is given by
a reference. -/
def attributePiece : Piece → Piece
  | .literal c => .literal (if isSpace c then ' ' else c)
  | piece => piece

/-- The pieces of the value of an attribute. -/
def attributeValue? (rule : NameRule) (text : List Char) : Option (List Piece) :=
  if '<' ∈ text then none else (pieces? rule text).map (·.map attributePiece)

/-! ## Texts of entities -/

/-- The characters of the text of an entity: references to characters are
replaced where the entity is declared, others where it is used. -/
def entityPiece : Piece → List Char
  | .literal c => [c]
  | .given c => [c]
  | .entity name => '&' :: name.toList ++ [';']

/-- The text that an entity is declared with. -/
def entityText? (rule : NameRule) (text : List Char) : Option (List Char) :=
  if '%' ∈ text then none else (entityPieces? text).map (·.flatMap entityPiece)
where
  /-- The pieces of a text in which the fixed entities are kept as they are. -/
  entityPieces? (text : List Char) : Option (List Piece) := do
    let scan ← text.foldlM step ⟨[], none⟩
    match scan.pending with
    | none => pure scan.pieces.reverse
    | some _ => none
  /-- Reads one more character; only numbers are resolved. -/
  step (scan : PieceScan) (c : Char) : Option PieceScan :=
    match scan.pending, c with
    | some reading, ';' =>
      if rule.isPlainName reading.reverse then
        some ⟨.entity (String.ofList reading.reverse) :: scan.pieces, none⟩
      else
        scan.step rule c
    | _, _ => scan.step rule c

end VulkanBindings.Xml
