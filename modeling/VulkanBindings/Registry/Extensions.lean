import VulkanBindings.Registry.Spec

/-!
# The extensions section

An enabled extension puts its guard on the commands and types that it requires,
and contributes enumerators to enums that are already known.  A guard that is
put on a type of flags also covers its enum of bits as long as that is empty.
-/

namespace VulkanBindings.Registry

open Naming (commandName extensionTag typeName)
open Xml (Node)

/-- How an extension says that it is not part of the interface. -/
def disabledSupport : String := "disabled"

/-- Puts a guard on a type of flags, and on its enum of bits if that is empty. -/
def guardFlags (spec : Spec) (name guard : String) : Except Failure Spec := do
  let spec := { spec with flags := spec.flags.set name guard }
  let bits ← spec.backing name
  match spec.enums.get? bits with
  | some enumeration =>
    if enumeration.members.isEmpty then
      pure { spec with enums := spec.enums.set bits { enumeration with guard := guard } }
    else
      pure spec
  | none => pure spec

/-- Puts a guard on a type. -/
def guardType (spec : Spec) (name guard : String) : Except Failure Spec :=
  if spec.enums.contains name then
    .ok { spec with enums := spec.enums.modify name fun entry => { entry with guard := guard } }
  else if spec.flags.contains name then
    guardFlags spec name guard
  else if spec.scalars.contains name then
    .ok { spec with scalars := spec.scalars.set name guard }
  else if spec.structs.contains name then
    .ok { spec with structs := spec.structs.modify name fun entry => { entry with guard := guard } }
  else if spec.handles.contains name then
    .ok { spec with handles := spec.handles.modify name fun entry => { entry with guard := guard } }
  else if spec.hasEntity name then
    .ok spec
  else
    .error (.registry (.unknownType name))

/-- Puts a guard on a command. -/
def guardCommand (spec : Spec) (name guard : String) : Except Fault Spec :=
  if spec.commands.contains name then
    .ok { spec with
      commands := spec.commands.modify name fun entry => { entry with guard := guard } }
  else
    .error (.unknownCommand name)

/-- Adds an enumerator to the enum that it extends.  One with a value spells its
name out in full; any other carries the tag of its extension. -/
def contribute (spec : Spec) (node : Node) (extended tag : String) : Except Failure Spec := do
  let name := typeName extended
  match spec.enums.get? name with
  | none => throw (.registry (.unknownEnum extended))
  | some enumeration =>
    let symbolic := (node.attribute? "value").isNone
    let rawName ← requireAttribute node "name"
    let enumeration ← enumeration.add rawName (if symbolic then tag else "") symbolic
    pure { spec with enums := spec.enums.set name enumeration }

/-- Reads one item that an extension requires. -/
def readItem (parent : Node) (guard tag : String) (spec : Spec) (node : Node) :
    Except Failure Spec := do
  if node.tag == "command" then
    guardCommand spec (commandName (← requireAttribute node "name")) guard
  else if node.tag == "type" then
    guardType spec (typeName (← requireAttribute node "name")) guard
  else if node.tag == "enum" then
    match node.attribute? "extends" with
    | some extended => contribute spec node extended tag
    | none => pure spec
  else if node.tag == "usage" || node.tag == "comment" then
    pure spec
  else
    throw (.registry (unexpectedChild parent node))

/-- Reads one element of an enabled extension. -/
def readRequirement (node : Node) (guard tag : String) (spec : Spec) (child : Node) :
    Except Failure Spec :=
  if child.tag == "require" then child.children.foldlM (readItem child guard tag) spec
  else .error (.registry (unexpectedChild node child))

/-- Reads an extension. -/
def readExtension (node : Node) (spec : Spec) : Except Failure Spec := do
  let name ← requireAttribute node "name"
  let tag ← extensionTag name
  if tag ∉ spec.tags then
    throw (.registry (.unknownTag name tag))
  if node.attribute? "supported" == some disabledSupport then
    pure spec
  else
    node.children.foldlM (readRequirement node ((node.attribute? "protect").getD "") tag) spec

/-- Reads one element of the extensions section. -/
def readExtensionsChild (node : Node) (spec : Spec) (child : Node) : Except Failure Spec :=
  if child.tag == "comment" then .ok spec
  else if child.tag == "extension" then readExtension child spec
  else .error (.registry (unexpectedChild node child))

/-- Reads the extensions section. -/
def readExtensions (node : Node) (spec : Spec) : Except Failure Spec :=
  node.children.foldlM (readExtensionsChild node) spec

end VulkanBindings.Registry
