import VulkanBindings.Text.Search

/-!
# Code pages

A code page is an encoding with one byte to a character.  Encodings have many
names, which are looked up in small letters, with an underscore wherever the
name as written has any hyphens and underscores between its words.
-/

namespace VulkanBindings.Xml

/-- The names of an encoding, as they are looked up. -/
structure EncodingNames where
  own : List String
  /-- Names in which a dot will do for an underscore. -/
  others : List String

namespace EncodingNames

/-- The form in which a name is looked up. -/
def lookupForm (name : String) : String :=
  let words := Text.fields '_' (name.map fun c => if c == '-' then '_' else c)
  ("_".intercalate (words.filter fun word => !word.isEmpty)).toLower

/-- Whether a name, as it is looked up, is one of these. -/
def contain (names : EncodingNames) (name : String) : Bool :=
  names.own.contains name || names.others.contains name ||
    names.others.contains (name.map fun c => if c == '.' then '_' else c)

end EncodingNames

/-- An encoding with one byte to a character. -/
structure CodePage where
  names : EncodingNames
  /-- Rows of eight characters, each with the byte that stands for its first one.
  U+FFFD is in the place of a byte that stands for nothing, and a byte in no row
  stands for the character with its own number. -/
  rows : List (Nat × String)

namespace CodePage

/-- The character that a byte stands for. -/
def char? (page : CodePage) (byte : Nat) : Option Char :=
  let c :=
    match page.rows.lookup (byte / 8 * 8) with
    | some row => (row.toList[byte % 8]?).getD '\uFFFD'
    | none => Char.ofNat byte
  if c = '\uFFFD' then none else some c

/-- The text that bytes encode, if every byte stands for a character. -/
def decode? (page : CodePage) (bytes : ByteArray) : Option (List Char) :=
  let chars := ((List.range 256).map page.char?).toArray
  bytes.toList.mapM fun byte => chars[byte.toNat]?.join

end CodePage

end VulkanBindings.Xml
