import VulkanBindings.Text.Number

/-!
# Case conventions

Names of the native interface are upper case with underscores, those of the
bindings are in camel case.  `camelCase` goes from the first convention to the
second and `screamingSnake` back; both work character by character and look at
the character before.
-/

namespace VulkanBindings.Naming

open Text (isDigit isLower isUpper lower mapFirst upper)

namespace Chars

/-- The camel case of what follows the character `previous`: underscores
vanish, and a character keeps its case only after an underscore or a digit. -/
def camelAfter (previous : Char) : List Char → List Char
  | [] => []
  | c :: rest =>
    (if c = '_' then [] else if previous = '_' || isDigit previous then [c] else lower c) ++
      camelAfter c rest

/-- The camel case of a text; its first character stays as it is. -/
def camelCase : List Char → List Char
  | [] => []
  | c :: rest => c :: camelAfter c rest

/-- The upper case form of what follows the character `previous`: a word begins
at a capital after a small letter or a digit. -/
def snakeAfter (previous : Char) : List Char → List Char
  | [] => []
  | c :: rest =>
    (if isUpper c && (isLower previous || isDigit previous) then ['_'] else []) ++
      upper c ++ snakeAfter c rest

/-- The upper case form of a text, with an underscore before each word; a
capital at the start begins a word too. -/
def screamingSnake : List Char → List Char
  | [] => []
  | c :: rest => (if isUpper c then ['_'] else []) ++ upper c ++ snakeAfter c rest

end Chars

/-- The camel case form of a name: `R8G8B8A8_UNORM` is `R8G8B8A8Unorm`. -/
def camelCase (name : String) : String :=
  String.ofList (Chars.camelCase name.toList)

/-- The upper case form of a name: `ImageUsage` is `_IMAGE_USAGE`. -/
def screamingSnake (name : String) : String :=
  String.ofList (Chars.screamingSnake name.toList)

/-- The name with its first character in lower case. -/
def lowerFirst (name : String) : String :=
  String.ofList (mapFirst lower name.toList)

/-- The name with its first character in upper case. -/
def upperFirst (name : String) : String :=
  String.ofList (mapFirst upper name.toList)

end VulkanBindings.Naming
