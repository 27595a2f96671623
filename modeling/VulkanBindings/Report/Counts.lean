import VulkanBindings.Registry.Spec

/-!
# Counts of entities

How many entities of each category the bindings have, and how many of them are
under a guard.
-/

namespace VulkanBindings.Report

open Registry (Entity Spec)

/-- The categories that are counted. -/
inductive Category where
  | enums
  | flags
  | scalars
  | handles
  | structs
  | unions
  /-- Commands that are free functions. -/
  | commands
  /-- Commands that are methods of a handle. -/
  | methods
  deriving DecidableEq

/-- The number of entities of a category, and how they divide.  The numbers are
signed, as a summary can be told for figures that nobody has counted. -/
structure Count where
  total : Int
  plain : Int
  guarded : Int
  deriving DecidableEq

namespace Count

/-- The count of entities with the given guards. -/
def ofGuards (guards : List String) : Count :=
  let guarded : Int := guards.countP (!·.isEmpty)
  ⟨guards.length, guards.length - guarded, guarded⟩

end Count

/-- The counts of all categories. -/
structure Counts where
  enums : Count
  flags : Count
  scalars : Count
  handles : Count
  structs : Count
  unions : Count
  commands : Count
  methods : Count
  deriving DecidableEq

/-- The category and the guard of an entity, if it is counted. -/
def categoryOf (spec : Spec) (entity : Entity) : Except Failure (Option (Category × String)) :=
  let name := entity.name
  match entity.kind with
  | .enum => row .enums .enums (spec.enums.get? name) (·.guard)
  | .flags => row .flags .flags (spec.flags.get? name) id
  | .scalar => row .scalars .scalars (spec.scalars.get? name) id
  | .handle => row .handles .handles (spec.handles.get? name) (·.guard)
  | .struct => row .structs .structs (spec.structs.get? name) (·.guard)
  | .union => row .unions .structs (spec.structs.get? name) (·.guard)
  | .command =>
    match spec.commands.get? name with
    | some command =>
      .ok (some (if command.isMethod then .methods else .commands, command.guard))
    | none => .error (.missing .commands name)
  | .callback | .required => .ok none
where
  /-- The row for an entity that a table should know. -/
  row {α : Type} (category : Category) (lookup : Lookup) (entry : Option α) (guard : α → String) :
      Except Failure (Option (Category × String)) :=
    match entry with
    | some entry => .ok (some (category, guard entry))
    | none => .error (.missing lookup entity.name)

/-- The counts of a list of entities. -/
def countEntities (spec : Spec) (entities : List Entity) : Except Failure Counts := do
  let rows := (← entities.mapM (categoryOf spec)).filterMap id
  let count category := Count.ofGuards ((rows.filter (·.1 == category)).map (·.2))
  pure
    { enums := count .enums
      flags := count .flags
      scalars := count .scalars
      handles := count .handles
      structs := count .structs
      unions := count .unions
      commands := count .commands
      methods := count .methods }

end VulkanBindings.Report
