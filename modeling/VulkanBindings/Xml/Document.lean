import VulkanBindings.Text.Blank
import VulkanBindings.Xml.Declaration
import VulkanBindings.Xml.Expansion
import VulkanBindings.Xml.Namespace
import VulkanBindings.Xml.Node

/-!
# Documents

A document is well formed when its tags nest, around a single root; text and
references stand inside the root only, and every name has a namespace where it
needs one.  `body?` reads what follows the declaration of a well-formed document
and is `none` on any other text.  The texts of entities follow the common rule
for names, whatever rule the document follows, and they must not inflate it.
Elements have the attributes that are defined for them besides those that are
written.
-/

namespace VulkanBindings.Xml

open Text (isBlank)

/-! ## Entities -/

/-- What happens as a document is read, once references are resolved. -/
inductive Event where
  | text (run : List Char)
  | opening (name : Name) (attributes : List (Name × String)) (closed : Bool)
  | closing (name : Name)

/-- The events of markup inside the root, given those of each entity and how far
references in attributes are followed. -/
def eventsWith? (definitions : Definitions) (depth : Nat)
    (ofEntity : String → Option (List Event)) (markup : List Markup) : Option (List Event) := do
  let parts ← markup.mapM fun
    | .text pieces => do
      let parts ← pieces.mapM fun
        | .literal c | .given c => some [.text [c]]
        | .entity name => ofEntity name
      pure parts.flatten
    | .verbatim text => some [.text text]
    | .opening name attributes closed => do
      let written ← attributes.mapM fun written => do
        pure (written.name, ← definitions.textOf? depth written.value)
      let attributes := (definitions.attributesOf name written).map fun (name, value) =>
        (name, String.ofList value)
      pure [.opening name attributes closed]
    | .closing name => some [.closing name]
    | .remark => some []
    | .documentType _ => none
  pure parts.flatten

/-- How many of the elements that events open they leave open, or `none` when
they close an element that they did not open. -/
def leftOpen? (events : List Event) : Option Nat :=
  events.foldlM
    (fun (level : Nat) event =>
      match event, level with
      | .opening _ _ false, level => some (level + 1)
      | .closing _, level + 1 => some level
      | .closing _, 0 => none
      | _, level => some level)
    0

/-- The events of markup inside the root.  An entity stands for the events of
its text, which has to be known and has to close what it opens.  References are
followed at most `depth` deep. -/
def events? (definitions : Definitions) : (depth : Nat) → List Markup → Option (List Event)
  | 0, _ => none
  | depth + 1, markup =>
    eventsWith? definitions (depth + 1)
      (fun name => do
        let text ← (definitions.entities.lookup name).join
        let events ← events? definitions depth (← markup? .common text)
        if leftOpen? events = some 0 then some events else none)
      markup

/-! ## Elements -/

/-- An element whose closing tag has not been read: its expanded name and
attributes, the scopes inside it, its content so far, last first, and the text
since the last element inside it, last character first. -/
structure Frame where
  name : Name
  tag : String
  attributes : List (String × String)
  scopes : Scopes
  content : List Content
  run : List Char

namespace Frame

/-- The element that an opening tag begins. -/
def opened? (scopes : Scopes) (name : Name) (attributes : List (Name × String)) :
    Option Frame := do
  let scopes ← scopes.inside? attributes
  pure ⟨name, ← elementName? scopes name, ← expandedAttributes? scopes attributes, scopes, [], []⟩

/-- The content up to here, last first: the open run of text ends, and goes
into the content unless it is white space only. -/
def settled (frame : Frame) : List Content :=
  if frame.run.all isBlank then frame.content
  else .text (String.ofList frame.run.reverse) :: frame.content

/-- The element, closed here. -/
def closed (frame : Frame) : Node :=
  ⟨frame.tag, frame.attributes, frame.settled.reverse⟩

/-- The frame with more text. -/
def withText (frame : Frame) (run : List Char) : Frame :=
  { frame with run := run.reverse ++ frame.run }

/-- The frame with an element added to its content. -/
def withNode (frame : Frame) (node : Node) : Frame :=
  { frame with content := node.toContent :: frame.settled, run := [] }

end Frame

/-- How far the reading of the root has come: inside open elements, innermost
first, or after its end. -/
inductive Progress where
  | within (frame : Frame) (outer : List Frame)
  | done (root : Node)

namespace Progress

/-- Closes the innermost element. -/
def close (frame : Frame) : List Frame → Progress
  | [] => .done frame.closed
  | parent :: outer => .within (parent.withNode frame.closed) outer

/-- Reads one more event. -/
def step (progress : Progress) (event : Event) : Option Progress :=
  match progress, event with
  | .within frame outer, .text run => some (.within (frame.withText run) outer)
  | .within frame outer, .opening name attributes closed => do
    let inner ← Frame.opened? frame.scopes name attributes
    pure (if closed then close inner (frame :: outer) else .within inner (frame :: outer))
  | .within frame outer, .closing name =>
    if name = frame.name then some (close frame outer) else none
  | .done _, _ => none

end Progress

/-! ## Whole documents -/

/-- Whether markup may stand outside the root: remarks and white space that is
not given by references. -/
def isOutside : Markup → Bool
  | .remark => true
  | .text pieces => pieces.all fun
    | .literal c => isSpace c
    | _ => false
  | _ => false

/-- The document type before the root, and the markup from the root on.  At most
one document type stands there. -/
def prologue? : (type : Option DocumentType) → List Markup → Option (DocumentType × List Markup)
  | _, [] => none
  | type, .opening name attributes closed :: rest =>
    some (type.getD .empty, .opening name attributes closed :: rest)
  | none, .documentType type :: rest => prologue? (some type) rest
  | type, markup :: rest => if isOutside markup then prologue? type rest else none

/-- Reads markup from the root on, to the end of the document. -/
def root? (definitions : Definitions) (markup : List Markup) : Option Node := do
  let progress ← markup.foldlM step none
  match progress with
  | some (.done root) => some root
  | _ => none
where
  /-- Reads one more piece of markup; nothing is open before the root. -/
  step (progress : Option Progress) (markup : Markup) : Option (Option Progress) := do
    match progress with
    | some (.done root) => if isOutside markup then some (some (.done root)) else none
    | some progress =>
      let events ← events? definitions definitions.depth [markup]
      pure (some (← events.foldlM Progress.step progress))
    | none =>
      match ← events? definitions definitions.depth [markup] with
      | [.opening name attributes closed] =>
        let frame ← Frame.opened? Scopes.initial name attributes
        pure (some (if closed then Progress.close frame [] else .within frame []))
      | _ => none

/-- Texts with line ends of every kind turned into newlines, put after the
characters `done`, last first. -/
def joinLinesOnto (done : List Char) : List Char → List Char
  | [] => done.reverse
  | '\r' :: '\n' :: rest => joinLinesOnto ('\n' :: done) rest
  | '\r' :: rest => joinLinesOnto ('\n' :: done) rest
  | c :: rest => joinLinesOnto (c :: done) rest

/-- The text with line ends of every kind turned into newlines. -/
def joinLines (text : List Char) : List Char :=
  joinLinesOnto [] text

/-- The root of a document whose declaration has been read and says whether the
document stands alone.  Line ends are joined in what the document holds as it is
written, not in what references give. -/
def body? (rule : NameRule) (standsAlone : Bool) (text : List Char) : Option Node := do
  let (type, markup) ← prologue? none (← markup? rule (joinLines text))
  let definitions ← type.definitions? rule standsAlone
  if isInflated definitions (writtenSize text) markup then none else root? definitions markup

end VulkanBindings.Xml
