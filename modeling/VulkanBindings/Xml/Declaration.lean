import VulkanBindings.Text.Search
import VulkanBindings.Xml.Name

/-!
# The declaration of a document

A document may begin with a declaration of its version, its encoding and
whether it stands alone, in this order.
-/

namespace VulkanBindings.Xml

open Text (Chars.after? Chars.cut?)

/-- What a declaration says about its document. -/
structure Declaration where
  encoding : Option String
  standsAlone : Bool

/-- Whether `c` may stand in the value of a setting of a declaration. -/
def isSettingChar (c : Char) : Bool :=
  c.isAlphanum || c == '.' || c == '-' || c == '_'

/-- The settings of a declaration in order: a name, an equals sign and a quoted
value, each after white space.  `limit` bounds their number. -/
def settings? : (limit : Nat) → List Char → Option (List (String × List Char))
  | 0, _ => none
  | limit + 1, text =>
    match text with
    | [] => some []
    | _ => do
      match ← spaced? text with
      | [] => some []
      | text =>
        let name := text.takeWhile fun c => c != '=' && !isSpace c
        match skipSpace (text.dropWhile fun c => c != '=' && !isSpace c) with
        | '=' :: rest =>
          let (value, rest) ← quotedText? (skipSpace rest)
          if name.isEmpty || !value.all isSettingChar then
            none
          else
            let others ← settings? limit rest
            pure ((String.ofList name, value) :: others)
        | _ => none

/-- Whether a text begins with a letter of ASCII. -/
def beginsWithLetter : List Char → Bool
  | c :: _ => c.isAlpha
  | [] => false

/-- The declaration that settings make up: a version, then perhaps an encoding,
then perhaps whether the document stands alone. -/
def declarationOf? : List (String × List Char) → Option Declaration
  | ("version", _) :: rest => do
    let (encoding, rest) :=
      match rest with
      | ("encoding", value) :: rest => (some value, rest)
      | _ => (none, rest)
    let standsAlone ← standsAlone? rest
    if encoding.all beginsWithLetter then some ⟨encoding.map String.ofList, standsAlone⟩ else none
  | _ => none
where
  /-- Whether the document stands alone, by settings that say nothing else. -/
  standsAlone? : List (String × List Char) → Option Bool
    | [] => some false
    | [("standalone", ['y', 'e', 's'])] => some true
    | [("standalone", ['n', 'o'])] => some false
    | _ => none

/-- The declaration at the start of a text and what follows it.  A text without
a declaration declares nothing; a declaration that is not complete is an error. -/
def declaration? (text : List Char) : Option (Declaration × List Char) :=
  match Chars.after? "<?".toList text >>= NameRule.common.plainName? with
  | some ("xml", rest) => do
    let (settings, rest) ← Chars.cut? "?>".toList rest
    let declaration ← declarationOf? (← settings? (settings.length + 1) settings)
    pure (declaration, rest)
  | _ => some (⟨none, false⟩, text)

end VulkanBindings.Xml
