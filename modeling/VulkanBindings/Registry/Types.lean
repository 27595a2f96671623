import VulkanBindings.Registry.Spec

/-!
# The types section

Every type element adds to the spec what its category asks for.  A type of
flags without an enum of its own brings an empty one along; the storage type of
all flags and one struct are left out; types that come from elsewhere and
function pointers only take part in the order.
-/

namespace VulkanBindings.Registry

open Naming (typeName)
open Xml (Node)

/-- The storage type of all flags. -/
def flagsStorage : String := "Flags"

/-- The structs that have no wrapper. -/
def droppedStructs : List String := ["Rect3D"]

/-- How the declaration of a handle begins. -/
def handleDeclaration : String := "VK_DEFINE"

/-- Reads a type that is declared elsewhere. -/
def readRequired (node : Node) (spec : Spec) : Except Fault Spec := do
  let _ ← requireAttribute node "requires"
  let name ← requireAttribute node "name"
  spec.declare .required name ∅

/-- Reads a scalar type. -/
def readScalar (node : Node) (spec : Spec) : Except Fault Spec := do
  let underlying := (← requireChild node "type").text
  let name := typeName (← requireChild node "name").text
  if name == flagsStorage then
    pure spec
  else
    let spec ← spec.declare .scalar name (NameSet.ofList [underlying])
    pure { spec with scalars := spec.scalars.set name "" }

/-- Adds an enum of bits without members, for a type of flags that names none. -/
def declareBits (spec : Spec) (name : String) : Except Fault Spec := do
  let spec ← spec.declare .enum name ∅
  pure ({ spec with enums := spec.enums.set name (.bare true "" "") }.wrap name)

/-- Reads a type of flags. -/
def readFlags (node : Node) (spec : Spec) : Except Fault Spec := do
  let name := typeName (← requireChild node "name").text
  let (bits, spec) ←
    match node.attribute? "requires" with
    | some required => pure (typeName required, spec)
    | none => do
      let bits ← Naming.flagBits name
      pure (bits, ← declareBits spec bits)
  let spec ← spec.declare .flags name (NameSet.ofList [bits])
  pure ({ spec with flags := spec.flags.set name "" }.wrap name)

/-- The value that a define ends with. -/
def versionOf? (node : Node) : Option String := do
  let run ← (← node.content.getLast?).run?
  if Text.isAllBlank run then none else some (Text.trim run)

/-- The first line of a text from its first number sign on. -/
def conditionOf? (text : String) : Option String := do
  let (_, rest) ← Text.cut? "#" text
  pure (Text.trimEnd (String.ofList (("#" ++ rest).toList.takeWhile (· != '\n'))))

/-- Whether a define holds the version of the registry. -/
def definesVersion (node : Node) : Bool :=
  match node.children with
  | first :: _ => first.tag == "name" && first.text == Fault.versionDefine
  | [] => false

/-- Reads a define; only the version and the condition for handles count. -/
def readDefine (node : Node) (spec : Spec) : Except Fault Spec :=
  if definesVersion node then
    match versionOf? node with
    | some version => .ok { spec with version := version }
    | none => .error .versionWithoutValue
  else if node.attribute? "name" == some Fault.handleDefine then
    match conditionOf? node.text with
    | some condition => .ok { spec with typesafeCheck := condition }
    | none => .error .handleDefineWithoutCondition
  else
    .ok spec

/-- Reads the type of a function pointer. -/
def readCallback (node : Node) (spec : Spec) : Except Fault Spec :=
  match node.children with
  | first :: _ =>
    if first.tag == "name" then spec.declare .callback first.text ∅
    else .error .callbackWithoutName
  | [] => .error .callbackWithoutName

/-- Reads a handle. -/
def readHandle (node : Node) (spec : Spec) : Except Fault Spec := do
  let declaration := (← requireChild node "type").text
  let name := typeName (← requireChild node "name").text
  if !Text.beginsWith handleDeclaration declaration then
    throw (.handleNotDeclared name)
  let spec ← spec.declare .handle name ∅
  pure ({ spec with handles := spec.handles.set name ⟨[], ""⟩ }.wrap name)

/-- Reads the members of an aggregate, and the types that they are made of. -/
def readMembers (node : Node) : Except Fault (List Member × NameSet) :=
  node.children.foldlM
    (fun (members, needs) child => do
      if child.tag == "member" then
        let (member, needs) ← Member.read child needs
        pure (members ++ [member], needs)
      else if child.tag == "validity" || child.tag == "comment" then
        pure (members, needs)
      else
        throw (unexpectedChild node child))
    ([], ∅)

/-- Reads a struct or a union.  A member that points to the aggregate's own type
does not have to come after it. -/
def readAggregate (kind : EntityKind) (node : Node) (spec : Spec) : Except Fault Spec := do
  let name := typeName (← requireAttribute node "name")
  let returnedOnly ←
    match node.attribute? "returnedonly" with
    | none => pure false
    | some "true" => pure true
    | some value => throw (.invalidReturnedOnly value name)
  if droppedStructs.contains name then
    pure spec
  else
    spec.requireNew name
    let (members, needs) ← readMembers node
    let spec := spec.withEntity kind name (needs.erase name)
    pure ({ spec with structs := spec.structs.set name ⟨returnedOnly, members, ""⟩ }.wrap name)

/-- Reads a type element. -/
def readType (node : Node) (spec : Spec) : Except Fault Spec :=
  match node.attribute? "category" with
  | none => readRequired node spec
  | some "enum" | some "include" => .ok spec
  | some "basetype" => readScalar node spec
  | some "bitmask" => readFlags node spec
  | some "define" => readDefine node spec
  | some "funcpointer" => readCallback node spec
  | some "handle" => readHandle node spec
  | some "struct" => readAggregate .struct node spec
  | some "union" => readAggregate .union node spec
  | some category => .error (.unknownCategory category (entityOf node))

/-- Reads the types section. -/
def readTypes (node : Node) (spec : Spec) : Except Fault Spec :=
  node.children.foldlM
    (fun spec child =>
      if child.tag == "comment" then .ok spec
      else if child.tag == "type" then readType child spec
      else .error (unexpectedChild node child))
    spec

end VulkanBindings.Registry
