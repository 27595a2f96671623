import VulkanBindings.Xml.DocumentType

/-!
# Markup

A document is a sequence of pieces of markup: stretches of text, tags,
comments, processing instructions, a document type.  `next?` takes the piece at
the start of a text and `markup?` takes a whole text apart.  Nothing here looks
at how tags nest, at what is declared or at namespaces.
-/

namespace VulkanBindings.Xml

open Text (Chars.after? Chars.cut? Chars.occurs)

/-- An attribute as it is written: its name and the pieces of its value. -/
structure Attribute where
  name : Name
  value : List Piece

/-- A piece of markup. -/
inductive Markup where
  | text (pieces : List Piece)
  /-- Text in which no character has a special meaning. -/
  | verbatim (text : List Char)
  | opening (name : Name) (attributes : List Attribute) (closed : Bool)
  | closing (name : Name)
  /-- A comment or a processing instruction, which says nothing to a reader. -/
  | remark
  | documentType (type : DocumentType)

/-- The attributes of a tag, whether the tag closes its element at once, and
what follows the tag.  `limit` bounds the number of attributes. -/
def attributes? (rule : NameRule) : (limit : Nat) → (done : List Attribute) → List Char →
    Option (List Attribute × Bool × List Char)
  | 0, _, _ => none
  | limit + 1, done, text =>
    match skipSpace text with
    | '>' :: rest => some (done.reverse, false, rest)
    | '/' :: '>' :: rest => some (done.reverse, true, rest)
    | _ => do
      let text ← spaced? text
      let (name, rest) ← rule.name? text
      match skipSpace rest with
      | '=' :: rest =>
        let (value, rest) ← quotedText? (skipSpace rest)
        let value ← attributeValue? rule value
        attributes? rule limit (⟨name, value⟩ :: done) rest
      | _ => none

/-- The piece of markup at the start of a text that is not empty, and what
follows it. -/
def next? (rule : NameRule) (limit : Nat) : List Char → Option (Markup × List Char)
  | '<' :: '/' :: rest => do
    let (name, rest) ← rule.name? rest
    match skipSpace rest with
    | '>' :: rest => some (.closing name, rest)
    | _ => none
  | '<' :: '?' :: rest => do
    pure (.remark, ← afterInstruction? rule rest)
  | '<' :: '!' :: rest =>
    match Chars.after? ['-', '-'] rest with
    | some rest => do pure (.remark, ← afterComment? rest)
    | none =>
      match Chars.after? "[CDATA[".toList rest with
      | some rest => do
        let (text, rest) ← Chars.cut? "]]>".toList rest
        if text.all isAllowed then some (.verbatim text, rest) else none
      | none => do
        let (type, rest) ← documentType? rule limit (← Chars.after? "DOCTYPE".toList rest)
        pure (.documentType type, rest)
  | '<' :: rest => do
    let (name, rest) ← rule.name? rest
    let (attributes, closed, rest) ← attributes? rule limit [] rest
    pure (.opening name attributes closed, rest)
  | text =>
    let run := text.takeWhile (· != '<')
    if Chars.occurs "]]>".toList run then
      none
    else do
      pure (.text (← pieces? rule run), text.dropWhile (· != '<'))

/-- The markup of a text, after the pieces `done`, last first.  `limit` bounds
the number of pieces. -/
def markupOnto? (rule : NameRule) :
    (limit : Nat) → (done : List Markup) → List Char → Option (List Markup)
  | _, done, [] => some done.reverse
  | 0, _, _ => none
  | limit + 1, done, text => do
    let (markup, rest) ← next? rule (limit + 1) text
    markupOnto? rule limit (markup :: done) rest

/-- The markup of a text; every piece takes at least one of its characters. -/
def markup? (rule : NameRule) (text : List Char) : Option (List Markup) :=
  markupOnto? rule text.length [] text

end VulkanBindings.Xml
