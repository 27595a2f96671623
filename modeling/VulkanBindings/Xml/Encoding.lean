import VulkanBindings.Xml.CodePageTable
import VulkanBindings.Xml.Name

/-!
# Encodings

How bytes make up the text of a document.  The first bytes tell whether a
character takes one byte at least or two; a declaration then names the encoding
of what follows it, and has to agree with them.
-/

namespace VulkanBindings.Xml

/-- A reason why bytes are not read as a document. -/
inductive DocumentFault where
  | malformed
  /-- Its elements are nested deeper than they are followed. -/
  | tooDeep
  /-- A declared encoding that is known but of no use here, and why. -/
  | unusableEncoding (reason : String)
  | unknownEncoding (name : String)
  deriving DecidableEq

/-- The order of the two bytes of a unit. -/
inductive ByteOrder where
  | big
  | little
  deriving DecidableEq

/-- The encodings of documents. -/
inductive Encoding where
  | utf8
  | utf16 (order : ByteOrder)
  | latin1
  | page (page : CodePage)

namespace Encoding

/-! ## Bytes and characters -/

/-- The number of bytes that a character of ASCII takes. -/
def width : Encoding → Nat
  | utf16 _ => 2
  | _ => 1

/-- Every byte as the character with its number. -/
def bytewise (bytes : ByteArray) : List Char :=
  bytes.toList.map fun byte => Char.ofNat byte.toNat

/-- The units of two bytes each; a single byte at the end is left out. -/
def units (order : ByteOrder) (bytes : ByteArray) : List Nat :=
  let at? (index : Nat) := ((bytes.data[index]?).getD 0).toNat
  (List.range (bytes.size / 2)).map fun index =>
    match order with
    | .big => 256 * at? (2 * index) + at? (2 * index + 1)
    | .little => 256 * at? (2 * index + 1) + at? (2 * index)

/-- Whether a unit is the first of the two that make up a character. -/
def isLeading (unit : Nat) : Bool :=
  0xD800 ≤ unit && unit < 0xDC00

/-- Whether a unit is made to be the second of the two that make up a character. -/
def isTrailing (unit : Nat) : Bool :=
  0xDC00 ≤ unit && unit < 0xE000

/-- The characters that units make up, after the characters `done`, last
first.  Whatever unit follows the first one of a pair is taken for the second;
its last ten bits are all that counts of it. -/
def joinUnits (done : List Char) : List Nat → Option (List Char)
  | [] => some done.reverse
  | unit :: rest =>
    if isLeading unit then
      match rest with
      | second :: rest =>
        let point := 0x10000 + 0x400 * (unit - 0xD800) + second % 0x400
        joinUnits (Char.ofNat point :: done) rest
      | [] => none
    else if isTrailing unit then
      none
    else
      joinUnits (Char.ofNat unit :: done) rest

/-- The text that bytes encode. -/
def decode? (bytes : ByteArray) : Encoding → Option (List Char)
  | utf8 => (String.fromUTF8? bytes).map String.toList
  | utf16 order => if bytes.size % 2 = 0 then joinUnits [] (units order bytes) else none
  | latin1 => some (bytewise bytes)
  | page found => found.decode? bytes

/-- The text of bytes as far as it is ASCII; what stands for other characters
is of no meaning. -/
def heading (bytes : ByteArray) : Encoding → List Char
  | utf16 order => (units order bytes).map Char.ofNat
  | _ => bytewise bytes

/-- The rule for names in documents of an encoding. -/
def nameRule : Encoding → NameRule
  | utf16 _ | latin1 => NameRule.latin
  | _ => NameRule.common

/-! ## Finding the encoding -/

/-- The encoding that the first bytes of a document tell, and the bytes after a
byte order mark. -/
def detected (bytes : ByteArray) : Encoding × ByteArray :=
  match (bytes.extract 0 3).toList with
  | [0xEF, 0xBB, 0xBF] => (utf8, bytes.extract 3 bytes.size)
  | 0xFE :: 0xFF :: _ => (utf16 .big, bytes.extract 2 bytes.size)
  | 0xFF :: 0xFE :: _ => (utf16 .little, bytes.extract 2 bytes.size)
  | 0 :: _ :: _ => (utf16 .big, bytes)
  | _ :: 0 :: _ => (utf16 .little, bytes)
  | _ => (utf8, bytes)

/-- Whether a document may be in the second encoding when its first bytes tell
the first one. -/
def agrees : Encoding → Encoding → Bool
  | utf16 order, utf16 other => order == other
  | utf16 _, _ => false
  | _, utf16 _ => false
  | _, _ => true

/-- The encoding with a name in capitals, out of those that are known by one
name only.  The order of bytes may be left to what the first bytes tell. -/
def standard? (told : Encoding) : String → Option Encoding
  | "UTF-8" => some utf8
  | "US-ASCII" => some (page CodePageTable.ascii)
  | "ISO-8859-1" => some latin1
  | "UTF-16BE" => some (utf16 .big)
  | "UTF-16LE" => some (utf16 .little)
  | "UTF-16" => some (if told.width = 2 then told else utf16 .big)
  | _ => none

/-- Why an encoding is of no use here, if it is one that takes more than a look
at a table. -/
def unusable? (name form : String) : Option String :=
  match form with
  | "idna" => some (failure "Unsupported error handling replace")
  | "undefined" => some (failure "undefined encoding")
  | "punycode" =>
    some "'ascii' codec can't decode byte 0x80 in position 82: ordinal not in range(128)"
  | form =>
    if CodePageTable.wide.contain form then some "multi-byte encodings are not supported" else none
where
  /-- The report that decoding fails. -/
  failure (reason : String) : String :=
    s!"decoding with '{name}' codec failed (UnicodeError: {reason})"

/-- The encoding with a name, in any mix of case, for a document whose first
bytes tell an encoding. -/
def named (told : Encoding) (name : String) : Except DocumentFault Encoding :=
  match standard? told name.toUpper with
  | some encoding => if told.agrees encoding then .ok encoding else .error .malformed
  | none =>
    let form := EncodingNames.lookupForm name
    match CodePageTable.pages.find? (·.names.contain form), unusable? name form with
    | some found, _ => .ok (page found)
    | none, some reason => .error (.unusableEncoding reason)
    | none, none =>
      if CodePageTable.foreign.contain form then .error .malformed
      else .error (.unknownEncoding name)

end Encoding

end VulkanBindings.Xml
