import VulkanBindings.Order.Worklist
import VulkanBindings.Registry.Command
import VulkanBindings.Registry.Enumeration

/-!
# What a registry says

A `Spec` is all that is learned from one registry: its entities in the order of
the document, each with the names that it needs, and what is known about each
kind of entity, by name.
-/

namespace VulkanBindings.Registry

/-- The kinds of entities. -/
inductive EntityKind where
  | command
  | enum
  | flags
  | callback
  | handle
  | required
  | scalar
  | struct
  | union
  deriving DecidableEq

namespace EntityKind

/-- The word for a kind. -/
def text : EntityKind → String
  | command => "command"
  | enum => "enum"
  | flags => "flags"
  | callback => "funcpointer"
  | handle => "handle"
  | required => "required"
  | scalar => "scalar"
  | struct => "struct"
  | union => "union"

end EntityKind

/-- A named thing of the registry, and the names that come before it. -/
structure Entity extends Order.Item where
  kind : EntityKind

namespace Entity

/-- The single name that an entity needs: what is behind a type of flags or a
scalar type. -/
def backing (entity : Entity) : Except Failure String :=
  match entity.needs.names with
  | [single] => .ok single
  | _ => .error (.notSingle entity.name)

end Entity

/-- A handle and the commands that are its methods. -/
structure Handle where
  commands : List String
  guard : String

/-- A struct or a union. -/
structure Aggregate where
  /-- Whether applications only ever receive it. -/
  returnedOnly : Bool
  members : List Member
  guard : String

/-- Everything learned from a registry. -/
structure Spec where
  entities : List Entity
  commands : Table Command
  enums : Table Enumeration
  /-- The guards of the types of flags. -/
  flags : Table String
  handles : Table Handle
  /-- The guards of the scalar types. -/
  scalars : Table String
  /-- The structs and the unions. -/
  structs : Table Aggregate
  /-- The vendor tags. -/
  tags : NameSet
  /-- The types that the bindings wrap in types of their own. -/
  wrapped : NameSet
  license : String
  version : String
  /-- The condition under which handles are distinct pointer types. -/
  typesafeCheck : String

namespace Spec

/-- The tags that need no declaration. -/
def fixedTags : NameSet := NameSet.ofList ["EXT", "KHR"]

/-- What is known before a registry has been read. -/
def initial : Spec :=
  { entities := []
    commands := ∅
    enums := ∅
    flags := ∅
    handles := ∅
    scalars := ∅
    structs := ∅
    tags := fixedTags
    wrapped := ∅
    license := ""
    version := ""
    typesafeCheck := "" }

/-- The entity of the given name. -/
def entity? (spec : Spec) (name : String) : Option Entity :=
  spec.entities.find? (·.name == name)

/-- Whether an entity has the given name. -/
def hasEntity (spec : Spec) (name : String) : Bool :=
  (spec.entity? name).isSome

/-- Refuses a name that an entity already has. -/
def requireNew (spec : Spec) (name : String) : Except Fault Unit :=
  if spec.hasEntity name then .error (.duplicateEntity name) else .ok ()

/-- The spec with one more entity. -/
def withEntity (spec : Spec) (kind : EntityKind) (name : String) (needs : NameSet) : Spec :=
  { spec with entities := spec.entities ++ [{ name, needs, kind }] }

/-- The spec with one more entity, whose name has to be new. -/
def declare (spec : Spec) (kind : EntityKind) (name : String) (needs : NameSet) :
    Except Fault Spec := do
  spec.requireNew name
  pure (spec.withEntity kind name needs)

/-- The spec with more names needed by the entity of the given name. -/
def addNeeds (spec : Spec) (name : String) (needs : NameSet) : Spec :=
  { spec with
    entities := spec.entities.map fun entity =>
      if entity.name = name then { entity with needs := entity.needs.union needs } else entity }

/-- The spec with one more wrapped type. -/
def wrap (spec : Spec) (name : String) : Spec :=
  { spec with wrapped := spec.wrapped.insert name }

/-- What is behind the type of flags or the scalar type of the given name. -/
def backing (spec : Spec) (name : String) : Except Failure String :=
  match spec.entity? name with
  | some entity => entity.backing
  | none => .error (.notSingle name)

end Spec

end VulkanBindings.Registry
