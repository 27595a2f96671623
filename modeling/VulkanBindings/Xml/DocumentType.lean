import VulkanBindings.Text.Search
import VulkanBindings.Xml.Reference

/-!
# Document types

A document type stands before the root.  It may point to declarations that are
kept elsewhere and it may hold declarations of its own, of entities, attributes,
elements and notations, with comments and processing instructions between them.
Declarations kept elsewhere are never fetched, so only entities and attributes
that are declared inside bear on the document.  Every declaration is taken apart
into tokens, and its grammar is one of tokens.  Nothing here looks into the
texts between quotes; what the declarations define is found in `Definitions`.
-/

namespace VulkanBindings.Xml

open Text (Chars.after? Chars.cut?)

/-! ## Comments and instructions -/

/-- The rest of a comment's text, after its end. -/
def afterComment? (text : List Char) : Option (List Char) := do
  let (comment, rest) ← Chars.cut? ['-', '-'] text
  match rest with
  | '>' :: rest => if comment.all isAllowed then some rest else none
  | _ => none

/-- Whether the target of an instruction is reserved, in any mix of case. -/
def isReservedTarget (target : String) : Bool :=
  target.toLower == "xml"

/-- The rest of an instruction's text, after its end. -/
def afterInstruction? (rule : NameRule) (text : List Char) : Option (List Char) := do
  let (target, rest) ← rule.plainName? text
  if isReservedTarget target then
    none
  else
    match Chars.after? ['?', '>'] rest with
    | some rest => some rest
    | none =>
      let rest ← spaced? rest
      let (data, rest) ← Chars.cut? ['?', '>'] rest
      if data.all isAllowed then some rest else none

/-! ## Tokens -/

/-- A token of a declaration. -/
inductive Token where
  | name (name : Name)
  /-- A name that is marked with how often the element may stand. -/
  | counted
  /-- Characters of names that are no name, since they begin as no name does or
  hold colons where a name has none. -/
  | word
  /-- A name behind a number sign. -/
  | keyword (name : String)
  /-- A text between quotes. -/
  | literal (text : List Char)
  | percent
  | comma
  | bar
  | opening
  /-- The end of a group, which may be marked with how often it may stand. -/
  | closing (count : Option Char)
  deriving DecidableEq

namespace Token

/-- A name without a colon. -/
@[match_pattern]
def plain (base : String) : Token :=
  .name ⟨none, base⟩

/-- Whether a text goes on with white space or one of the marks. -/
def endsBefore (marks : List Char) : List Char → Bool
  | c :: _ => isSpace c || marks.contains c
  | [] => false

/-- Whether a mark says how often something may stand. -/
def isCount (c : Char) : Bool :=
  c == '*' || c == '+' || c == '?'

/-- Characters of names as a token.  What stands behind the colon of a name may
begin with any character of names. -/
def ofWord (rule : NameRule) (word : List Char) : Token :=
  match rule.plainName? word with
  | some (base, []) => .plain base
  | some (scope, ':' :: base) =>
    if base.isEmpty || !base.all rule.isPart then .word
    else .name ⟨some scope, String.ofList base⟩
  | _ => .word

/-- The characters of names at the start of a text as a token, and what follows
it.  Only a name can be counted. -/
def wordAt? (rule : NameRule) (text : List Char) : Option (Token × List Char) :=
  let inWord (c : Char) := rule.isPart c || c == ':'
  let token := ofWord rule (text.takeWhile inWord)
  match token, text.takeWhile inWord, text.dropWhile inWord with
  | _, [], _ | _, _, [] => none
  | .name _, _, c :: rest =>
    if isCount c then some (.counted, rest) else ended (c :: rest) token
  | _, _, rest => ended rest token
where
  /-- A token, where the text after it may follow it. -/
  ended (rest : List Char) (token : Token) : Option (Token × List Char) :=
    if endsBefore ['>', ')', ',', '|', '['] rest then some (token, rest) else none

/-- The token at the start of a text, and what follows it. -/
def next? (rule : NameRule) : List Char → Option (Token × List Char)
  | ',' :: rest => some (.comma, rest)
  | '|' :: rest => some (.bar, rest)
  | '(' :: rest => some (.opening, rest)
  | ')' :: c :: rest =>
    if isCount c then some (.closing (some c), rest)
    else if endsBefore ['>', ')', ',', '|'] (c :: rest) then some (.closing none, c :: rest)
    else none
  | '%' :: rest => if endsBefore [] rest then some (.percent, rest) else none
  | '#' :: rest => do
    let (base, rest) ← rule.plainName? rest
    if endsBefore ['>', ')', '|'] rest then some (.keyword base, rest) else none
  | text =>
    match quotedText? text with
    | some (quoted, rest) =>
      if quoted.all isAllowed && endsBefore ['>', '['] rest then some (.literal quoted, rest)
      else none
    | none => wordAt? rule text

/-- The tokens of a text up to a bracket at the end of a declaration or at the
start of a list of them, the bracket, and what follows it.  `limit` bounds the
number of tokens. -/
def upToBracket? (rule : NameRule) :
    (limit : Nat) → (done : List Token) → List Char → Option (List Token × Char × List Char)
  | 0, _, _ => none
  | limit + 1, done, text =>
    match skipSpace text with
    | '>' :: rest => some (done.reverse, '>', rest)
    | '[' :: rest => some (done.reverse, '[', rest)
    | text => do
      let (token, rest) ← next? rule text
      upToBracket? rule limit (token :: done) rest

end Token

/-! ## Declarations -/

/-- What a declaration says about the document.  Elements and notations are
declared without any consequence. -/
inductive Declared where
  /-- An entity, with the text that is written for it unless that is kept elsewhere. -/
  | entity (name : String) (text : Option (List Char))
  /-- The text that is written for an entity of declarations. -/
  | parameter (text : List Char)
  /-- A reference to an entity of declarations. -/
  | reference
  /-- An attribute of elements with a name: whether its values are free text, and
  the value that is written for an element without it. -/
  | attribute (element name : Name) (isText : Bool) (default : Option (List Char))

namespace Declared

/-- Whether a public identifier may hold `c`. -/
def isPublicChar (c : Char) : Bool :=
  c.isAlphanum || " \n-'()+,./:=?;!*#@$_%".toList.contains c

/-- The tokens after those that say where something is kept. -/
def afterPlace? : List Token → Option (List Token)
  | .plain "SYSTEM" :: .literal _ :: rest => some rest
  | .plain "PUBLIC" :: .literal identifier :: .literal _ :: rest =>
    if identifier.all isPublicChar then some rest else none
  | _ => none

/-- Whether the tokens say where something is kept, and no more. -/
def isPlace (tokens : List Token) : Bool :=
  afterPlace? tokens == some []

/-- What the declaration of an entity says. -/
def ofEntity? : List Token → Option (List Declared)
  | [.plain name, .literal text] => some [.entity name (some text)]
  | [.percent, .plain _, .literal text] => some [.parameter text]
  | .percent :: .plain _ :: place => if isPlace place then some [] else none
  | .plain name :: place =>
    match afterPlace? place with
    | some [] | some [.plain "NDATA", .plain _] => some [.entity name none]
    | _ => none
  | _ => none

/-- Whether the tokens declare a notation. -/
def isNotation : List Token → Bool
  | [.plain _, .plain "PUBLIC", .literal identifier] => identifier.all isPublicChar
  | .plain _ :: place => isPlace place
  | _ => false

/-! ### Elements -/

/-- How far the content of an element has been declared: the groups that are
open, innermost first, each with the mark between its items as far as it is
known, and whether an item comes next. -/
structure ContentScan where
  groups : List (Option Token)
  wantsItem : Bool

/-- Reads one more token; the items of a group all have the same mark between
them. -/
def ContentScan.step : ContentScan → Token → Option ContentScan
  | ⟨groups, true⟩, .opening => some ⟨none :: groups, true⟩
  | ⟨groups, true⟩, .name _ | ⟨groups, true⟩, .counted => some ⟨groups, false⟩
  | ⟨_ :: groups, false⟩, .closing _ => some ⟨groups, false⟩
  | ⟨mark :: groups, false⟩, token =>
    if (token = .comma ∨ token = .bar) ∧ (mark = none ∨ mark = some token) then
      some ⟨some token :: groups, true⟩
    else
      none
  | _, _ => none

/-- Whether the tokens are what follows the start of a group, to its end. -/
def isGroup (tokens : List Token) : Bool :=
  match tokens.foldlM ContentScan.step ⟨[none], true⟩ with
  | some ⟨[], _⟩ => true
  | _ => false

/-- Whether the tokens are what follows the first item of a mixture of text and
elements. -/
def isMixture : List Token → Bool
  | [.closing (some '*')] => true
  | .bar :: .name _ :: rest => isMixture rest
  | _ => false

/-- Whether the tokens declare an element. -/
def isElement : List Token → Bool
  | [.name _, .plain content] => content == "EMPTY" || content == "ANY"
  | [.name _, .opening, .keyword "PCDATA", .closing none] => true
  | .name _ :: .opening :: .keyword "PCDATA" :: rest => isMixture rest
  | .name _ :: .opening :: rest => isGroup rest
  | _ => false

/-! ### Attributes -/

/-- The tokens after the items of a list of choices. -/
def afterChoices? (isChoice : Token → Bool) : List Token → Option (List Token)
  | item :: .bar :: rest => if isChoice item then afterChoices? isChoice rest else none
  | item :: .closing none :: rest => if isChoice item then some rest else none
  | _ => none

/-- Whether a token is a name without a colon. -/
def isPlain : Token → Bool
  | .plain _ => true
  | _ => false

/-- Whether a token is made up of characters of names. -/
def isWord : Token → Bool
  | .name _ | .word => true
  | _ => false

/-- The types of attributes whose values are words of some kind. -/
def wordTypes : List String :=
  ["ID", "IDREF", "IDREFS", "ENTITY", "ENTITIES", "NMTOKEN", "NMTOKENS"]

/-- Whether the values of an attribute are free text, by its type, and the tokens
after the type. -/
def attributeType? : List Token → Option (Bool × List Token)
  | .plain "NOTATION" :: .opening :: rest => (afterChoices? isPlain rest).map (false, ·)
  | .plain type :: rest =>
    if type = "CDATA" then some (true, rest)
    else if type ∈ wordTypes then some (false, rest)
    else none
  | .opening :: rest => (afterChoices? isWord rest).map (false, ·)
  | _ => none

/-- The value for an element without the attribute, and the tokens after what is
said about it. -/
def attributeDefault? : List Token → Option (Option (List Char) × List Token)
  | .keyword "IMPLIED" :: rest | .keyword "REQUIRED" :: rest => some (none, rest)
  | .keyword "FIXED" :: .literal text :: rest | .literal text :: rest => some (some text, rest)
  | _ => none

/-- What a list of attributes of an element says.  `limit` bounds their number. -/
def ofAttributes? (element : Name) : (limit : Nat) → List Token → Option (List Declared)
  | _, [] => some []
  | limit + 1, .name name :: rest => do
    let (isText, rest) ← attributeType? rest
    let (default, rest) ← attributeDefault? rest
    pure (.attribute element name isText default :: (← ofAttributes? element limit rest))
  | _, _ => none

/-! ### Lists of declarations -/

/-- What a declaration says, by the word it begins with and its tokens. -/
def ofTokens? (kind : String) (tokens : List Token) : Option (List Declared) :=
  match kind, tokens with
  | "ENTITY", _ => ofEntity? tokens
  | "ATTLIST", .name element :: rest => ofAttributes? element rest.length rest
  | "ELEMENT", _ => if isElement tokens then some [] else none
  | "NOTATION", _ => if isNotation tokens then some [] else none
  | _, _ => none

/-- What the declarations up to a bracket say, after `done`, and what follows the
bracket.  `limit` bounds their number. -/
def upToBracket? (rule : NameRule) :
    (limit : Nat) → (done : List Declared) → List Char → Option (List Declared × List Char)
  | 0, _, _ => none
  | limit + 1, done, text =>
    match skipSpace text with
    | ']' :: rest => some (done, rest)
    | '<' :: '!' :: '-' :: '-' :: rest => do
      upToBracket? rule limit done (← afterComment? rest)
    | '<' :: '?' :: rest => do
      upToBracket? rule limit done (← afterInstruction? rule rest)
    | '%' :: rest => do
      match ← rule.plainName? rest with
      | (_, ';' :: rest) => upToBracket? rule limit (done ++ [.reference]) rest
      | _ => none
    | '<' :: '!' :: rest => do
      let kind := String.ofList (rest.takeWhile Char.isAlpha)
      match ← Token.upToBracket? rule limit [] (← spaced? (rest.dropWhile Char.isAlpha)) with
      | (tokens, '>', rest) => upToBracket? rule limit (done ++ (← ofTokens? kind tokens)) rest
      | _ => none
    | _ => none

end Declared

/-- A document type. -/
structure DocumentType where
  /-- Whether there are declarations that are kept elsewhere. -/
  isPartial : Bool
  /-- What the declarations inside say, in order. -/
  declared : List Declared

namespace DocumentType

/-- The document type without any declarations. -/
def empty : DocumentType :=
  ⟨false, []⟩

/-- Whether some declarations are kept elsewhere, by the tokens at the start of a
document type. -/
def isPartial? : List Token → Option Bool
  | [.name _] => some false
  | .name _ :: place => if Declared.isPlace place then some true else none
  | _ => none

end DocumentType

/-- The document type at the start of a text, after the word that begins it, and
what follows it. -/
def documentType? (rule : NameRule) (limit : Nat) (text : List Char) :
    Option (DocumentType × List Char) := do
  let (tokens, bracket, rest) ← Token.upToBracket? rule limit [] (← spaced? text)
  let isPartial ← DocumentType.isPartial? tokens
  if bracket = '>' then
    pure (⟨isPartial, []⟩, rest)
  else
    let (declared, rest) ← Declared.upToBracket? rule limit [] rest
    match skipSpace rest with
    | '>' :: rest => pure (⟨isPartial, declared⟩, rest)
    | _ => none

end VulkanBindings.Xml
