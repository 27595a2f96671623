import VulkanBindings.Registry.Spec

/-!
# The enums section

Every group of enumerators becomes an enum.  The native names of its members
begin with the name of the group in upper case, without the vendor tag that the
group itself may end with; the result codes are the exception and begin with
the mark of the interface only.
-/

namespace VulkanBindings.Registry

open Naming (screamingSnake tagOfStart typeName)
open Xml (Node)

/-- The groups that are no enums. -/
def skippedGroups : List String := ["API Constants"]

/-- Where the name of a bit ends. -/
def bitEnding : String := "Bit"

/-- What the native enumerators of a group begin with. -/
def stemOf (words : String) : String :=
  "VK" ++ screamingSnake words ++ "_"

/-- The start of a group's enumerators without the tag before its end. -/
def dropTag (stem tag : String) : String :=
  if tag.isEmpty then stem
  else String.ofList (stem.toList.take (stem.length - (tag.length + 1)))

/-- The enum that a group declares, before its members, and the vendor tag that
its members carry. -/
def groupOf (node : Node) (name : String) (tags : NameSet) :
    Except Fault (Enumeration × String) := do
  if name == resultEnum then
    pure (.bare false Naming.resultStart "", "")
  else
    let kind ← requireAttribute node "type"
    let group ←
      if kind == "bitmask" then
        match Text.cut? "FlagBits" name with
        | some (before, _) => pure (Enumeration.bare true (stemOf before) bitEnding)
        | none => throw (.enumWithoutFlagBits name)
      else if kind == "enum" then
        pure (Enumeration.bare false (stemOf name) "")
      else
        throw (.invalidEnumType kind name)
    let tag := tagOfStart tags group.stem
    pure ({ group with stem := dropTag group.stem tag }, tag)

/-- Reads one element of a group into its enum. -/
def readEnumerator (node : Node) (tag : String) (group : Enumeration) (child : Node) :
    Except Failure Enumeration := do
  if child.tag == "enum" then
    group.add (← requireAttribute child "name") tag false
  else if child.tag == "unused" || child.tag == "comment" then
    pure group
  else
    throw (.registry (unexpectedChild node child))

/-- Reads the members of a group into its enum. -/
def readEnumerators (node : Node) (tag : String) (group : Enumeration) :
    Except Failure Enumeration :=
  node.children.foldlM (readEnumerator node tag) group

/-- Reads a group of enumerators. -/
def readEnums (node : Node) (spec : Spec) : Except Failure Spec := do
  let rawName ← requireAttribute node "name"
  if skippedGroups.contains rawName then
    pure spec
  else
    let name := typeName rawName
    let (group, tag) ← groupOf node name spec.tags
    spec.requireNew name
    let group ← readEnumerators node tag group
    let spec := spec.withEntity .enum name ∅
    pure ({ spec with enums := spec.enums.set name group }.wrap name)

end VulkanBindings.Registry
