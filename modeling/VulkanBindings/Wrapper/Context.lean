import VulkanBindings.Analysis.Roles

/-!
# What writing the bindings needs to know

Next to the registry itself: the roles of all parameters, and for each type the
text of a default value.
-/

namespace VulkanBindings.Wrapper

open Analysis (Analyzed)
open Registry (Command Entity Enumeration Handle Aggregate Spec)

/-- A registry, its entities in an order in which they can be written. -/
structure Context where
  spec : Spec
  /-- The entities, each after what it needs. -/
  entities : List Entity
  analyzed : Table Analyzed
  defaults : Table String

namespace Context

/-- The entry of a name in a table that should have one. -/
def find {α : Type} (table : Table α) (lookup : Lookup) (name : String) : Except Failure α :=
  match table.get? name with
  | some entry => .ok entry
  | none => .error (.missing lookup name)

/-- The enum of the given name. -/
def enum (context : Context) (name : String) : Except Failure Enumeration :=
  find context.spec.enums .enums name

/-- The guard of the type of flags of the given name. -/
def flagsGuard (context : Context) (name : String) : Except Failure String :=
  find context.spec.flags .flags name

/-- The guard of the scalar type of the given name. -/
def scalarGuard (context : Context) (name : String) : Except Failure String :=
  find context.spec.scalars .scalars name

/-- The handle of the given name. -/
def handle (context : Context) (name : String) : Except Failure Handle :=
  find context.spec.handles .handles name

/-- The struct or union of the given name. -/
def aggregate (context : Context) (name : String) : Except Failure Aggregate :=
  find context.spec.structs .structs name

/-- The command of the given name, with the roles of its parameters. -/
def command (context : Context) (name : String) : Except Failure Analyzed :=
  find context.analyzed .commands name

end Context

/-- The default value of an enum: its first enumerator, if it has one. -/
def enumDefault (name : String) (enumeration : Enumeration) : String :=
  match enumeration.members with
  | first :: _ => s!"{name}::{first.name}"
  | [] => s!"{name}()"

/-- The default value of an entity's type, if it is a type. -/
def defaultOf (spec : Spec) (entity : Entity) : Except Failure (Option String) :=
  match entity.kind with
  | .enum => do
    pure (some (enumDefault entity.name (← Context.find spec.enums .enums entity.name)))
  | .flags | .handle | .struct | .union => .ok (some s!"{entity.name}()")
  | .callback => .ok (some "nullptr")
  | .required | .scalar => .ok (some "0")
  | .command => .ok none

/-- The default values of all types. -/
def defaultsOf (spec : Spec) (entities : List Entity) : Except Failure (Table String) :=
  entities.foldlM
    (fun defaults entity => do
      match ← defaultOf spec entity with
      | some text => pure (defaults.set entity.name text)
      | none => pure defaults)
    ∅

/-- Reads a registry and checks it. -/
def readChecked (root : Xml.Node) : Except Failure Spec := do
  let spec ← Spec.ofRegistry root
  spec.validate
  pure spec

/-- What writing the bindings of a registry needs to know, once its entities are
in order. -/
def contextOf (spec : Spec) (entities : List Entity) : Except Failure Context := do
  let analyzed ← Analysis.analyzeAll spec
  pure { spec, entities, analyzed, defaults := ← defaultsOf spec entities }

/-- Reads a registry, checks it, orders its entities and analyzes its commands. -/
def prepare (root : Xml.Node) : Except Failure Context := do
  let spec ← readChecked root
  let entities ← spec.ordered
  contextOf spec entities

end VulkanBindings.Wrapper
