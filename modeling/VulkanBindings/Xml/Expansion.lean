import VulkanBindings.Xml.Definitions
import VulkanBindings.Xml.Markup

/-!
# Expansion of entities

A short document stands for a long text when its entities refer to one another
many times over.  The number of bytes that entities add to a document is found
here without writing them out, and a document that grows too long in proportion
to what is written is inflated.
-/

namespace VulkanBindings.Xml

namespace Markup

/-- The entities that markup refers to, in its text or in the values of
attributes. -/
def entities : Markup → List String
  | text pieces => entitiesIn pieces
  | opening _ attributes _ => attributes.flatMap fun written => entitiesIn written.value
  | _ => []

end Markup

/-- The number of bytes of a text. -/
def writtenSize (text : List Char) : Nat :=
  text.foldl (fun size c => size + c.utf8Size) 0

/-- The number of bytes that each entity stands for, as far as it is known. -/
abbrev Sizes := List (String × Nat)

namespace Sizes

/-- What entities add up to. -/
def total (sizes : Sizes) (names : List String) : Nat :=
  names.foldl (fun size name => size + (sizes.lookup name).getD 0) 0

/-- The sizes with that of one more entity, and before it of all that it refers
to, at most `depth` deep. -/
def measured (entities : Entities) : (depth : Nat) → Sizes → String → Sizes
  | 0, sizes, _ => sizes
  | depth + 1, sizes, name =>
    match sizes.lookup name, entities.lookup name with
    | none, some (some text) =>
      let names := ((markup? .common text).getD []).flatMap Markup.entities
      let sizes := names.foldl (measured entities depth) sizes
      (name, writtenSize text + sizes.total names) :: sizes
    | _, _ => sizes

end Sizes

/-- The number of bytes that entities add to markup and to what is defined for
it. -/
def addedSize (definitions : Definitions) (markup : List Markup) : Nat :=
  let names := definitions.drawn ++ markup.flatMap Markup.entities
  (names.foldl (Sizes.measured definitions.entities definitions.entities.length) []).total names

/-- The size up to which a document may grow in any proportion. -/
def freeSize : Nat := 8 * 1024 * 1024

/-- How many times its size a longer document may grow to. -/
def growthLimit : Nat := 100

/-- Whether a document of the given size grows too much by its entities. -/
def isInflated (definitions : Definitions) (size : Nat) (markup : List Markup) : Bool :=
  let grown := size + addedSize definitions markup
  freeSize ≤ grown && growthLimit * size < grown

end VulkanBindings.Xml
