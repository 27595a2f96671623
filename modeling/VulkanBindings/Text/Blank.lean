/-!
# White space

The characters that separate words and lines, in every script, and the
removal of such characters from the ends of a text.  The zero width space and
the byte order mark are not among them.
-/

namespace VulkanBindings.Text

/-- Whether `c` is white space. -/
def isBlank (c : Char) : Bool :=
  let point := c.toNat
  (0x09 ≤ point && point ≤ 0x0D) || (0x1C ≤ point && point ≤ 0x20) || point == 0x85 ||
    point == 0xA0 || point == 0x1680 || (0x2000 ≤ point && point ≤ 0x200A) ||
    point == 0x2028 || point == 0x2029 || point == 0x202F || point == 0x205F || point == 0x3000

namespace Chars

/-- The text without the characters at its start that satisfy `drop`. -/
def trimStartBy (drop : Char → Bool) (text : List Char) : List Char :=
  text.dropWhile drop

/-- The text without the characters at its end that satisfy `drop`. -/
def trimEndBy (drop : Char → Bool) (text : List Char) : List Char :=
  (text.reverse.dropWhile drop).reverse

/-- The text without the characters at either end that satisfy `drop`. -/
def trimBy (drop : Char → Bool) (text : List Char) : List Char :=
  trimEndBy drop (trimStartBy drop text)

end Chars

/-- The text without white space at either end. -/
def trim (text : String) : String :=
  String.ofList (Chars.trimBy isBlank text.toList)

/-- The text without white space at its end. -/
def trimEnd (text : String) : String :=
  String.ofList (Chars.trimEndBy isBlank text.toList)

/-- Whether the text is white space only, or empty. -/
def isAllBlank (text : String) : Bool :=
  text.toList.all isBlank

end VulkanBindings.Text
