/-!
# Elements and their content

What remains of a document once it has been read: elements with attributes and
mixed content.  Content is in document order.  Comments, processing
instructions and the difference between literal and referenced characters are
gone, and so are runs of text that are white space only.
-/

namespace VulkanBindings.Xml

/-- A piece of the content of an element: a run of text or an element. -/
inductive Content where
  | text (run : String)
  | element (tag : String) (attributes : List (String × String)) (content : List Content)

/-- An element. -/
structure Node where
  tag : String
  attributes : List (String × String)
  content : List Content

namespace Content

/-- The element that a piece of content is, if it is one. -/
def node? : Content → Option Node
  | text _ => none
  | element tag attributes content => some ⟨tag, attributes, content⟩

/-- The run of text that a piece of content is, if it is one. -/
def run? : Content → Option String
  | text run => some run
  | element .. => none

mutual

/-- How many elements are nested in a piece of content, with the piece itself. -/
def depth : Content → Nat
  | text _ => 0
  | element _ _ content => deepest 0 content + 1

/-- The depth of the deepest piece of content, or `best` if that is more. -/
def deepest (best : Nat) : List Content → Nat
  | [] => best
  | first :: rest => deepest (max best first.depth) rest

end

end Content

namespace Node

/-- The element as a piece of content. -/
def toContent (node : Node) : Content :=
  .element node.tag node.attributes node.content

@[simp] theorem node?_toContent (node : Node) : node.toContent.node? = some node := rfl

/-- How many elements are nested in an element, with the element itself. -/
def depth (node : Node) : Nat :=
  node.toContent.depth

/-- The value of an attribute. -/
def attribute? (node : Node) (label : String) : Option String :=
  node.attributes.lookup label

/-- The elements directly inside, in document order. -/
def children (node : Node) : List Node :=
  node.content.filterMap Content.node?

/-- The runs of text directly inside, joined. -/
def text (node : Node) : String :=
  String.join (node.content.filterMap Content.run?)

/-- The first element directly inside with the given tag. -/
def find? (node : Node) (tag : String) : Option Node :=
  node.children.find? (·.tag == tag)

end Node

end VulkanBindings.Xml
