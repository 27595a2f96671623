import VulkanBindings.Xml.Document
import VulkanBindings.Xml.Encoding

/-!
# Documents as they are given

A document in a file is decoded by the encoding that it declares, and one that
is given as text is read whatever encoding it declares.  The declaration itself
is ASCII, so it can be read before the encoding is known.
-/

namespace VulkanBindings.Xml

/-- A part of a document, which is malformed without it. -/
def needed {α : Type} : Option α → Except DocumentFault α
  | some part => .ok part
  | none => .error .malformed

/-- The root of a document in bytes.  Its encoding is chosen by what the first
bytes tell and the name that it declares. -/
def readDocument (choose : Encoding → Option String → Except DocumentFault Encoding)
    (bytes : ByteArray) : Except DocumentFault Node := do
  let (told, bytes) := Encoding.detected bytes
  let heading := told.heading bytes
  let (declaration, rest) ← needed (declaration? heading)
  let encoding ← choose told declaration.encoding
  let start := (heading.length - rest.length) * told.width
  let text ← needed (encoding.decode? (bytes.extract start bytes.size))
  needed (body? encoding.nameRule declaration.standsAlone text)

/-- The root of a document that is given as the bytes of a file. -/
def fileDocument : ByteArray → Except DocumentFault Node :=
  readDocument fun told declared =>
    match declared with
    | none => .ok told
    | some name => told.named name

/-- Refuses an element in which more than `limit` are nested in one another. -/
def requireShallow (limit : Nat) (node : Node) : Except DocumentFault Node :=
  if node.depth > limit then .error .tooDeep else .ok node

/-- The root of a document that is given as text. -/
def document? (text : String) : Option Node :=
  match readDocument (fun told _ => .ok told) text.toUTF8 with
  | .ok root => some root
  | .error _ => none

end VulkanBindings.Xml
