import VulkanBindings.Wrapper.Aggregate
import VulkanBindings.Wrapper.Enum
import VulkanBindings.Wrapper.Handle

/-!
# The bindings of all entities

Every entity is written in its place in the order, and the functions that turn
enumerators and flags into text follow after all of them.  The enum of result
codes is written ahead of everything, by the header itself.
-/

namespace VulkanBindings.Wrapper

open Registry (Entity resultEnum)

/-- Whether an entity is the enum of result codes. -/
def isResultEnum (entity : Entity) : Bool :=
  entity.kind == .enum && entity.name == resultEnum

/-- The bindings of an entity.  Methods are written with their handle; types from
elsewhere and function pointers have no bindings. -/
def entityLines (context : Context) (entity : Entity) : Except Failure (List String) := do
  let name := entity.name
  match entity.kind with
  | .command => freeFunctionLines context.spec (← context.command name)
  | .enum => pure (enumLines name (← context.enum name))
  | .flags =>
    let bits ← entity.backing
    pure (flagsLines name (← context.flagsGuard name) bits)
  | .handle => handleLines context name (← context.handle name)
  | .scalar =>
    let underlying ← entity.backing
    pure (scalarLines name (← context.scalarGuard name) underlying)
  | .struct => structLines context.defaults name (← context.aggregate name)
  | .union => unionLines context.defaults context.spec.wrapped name (← context.aggregate name)
  | .callback | .required => pure []

/-- The lines of a block with a blank line after it; no block leaves no line. -/
def spacedBlock (lines : List String) : List String :=
  if lines.isEmpty then [] else lines ++ [""]

/-- The bindings of all entities but the enum of result codes. -/
def typeLines (context : Context) : Except Failure (List String) := do
  let blocks ← (context.entities.filter (!isResultEnum ·)).mapM fun entity => do
    pure (spacedBlock (← entityLines context entity))
  pure blocks.flatten

/-- The function that turns values of an entity's type into text, if it has
one. -/
def toStringLines (context : Context) (entity : Entity) : Except Failure (List String) := do
  let name := entity.name
  match entity.kind with
  | .enum => pure (enumToStringLines name (← context.enum name))
  | .flags =>
    let bits ← entity.backing
    pure (flagsToStringLines name (← context.flagsGuard name) bits (← context.enum bits))
  | _ => pure []

/-- The functions that turn enumerators and flags into text, but for those of the
result codes. -/
def allToStringLines (context : Context) : Except Failure (List String) := do
  let blocks ← (context.entities.filter (!isResultEnum ·)).mapM fun entity => do
    pure (spacedBlock (← toStringLines context entity))
  pure blocks.flatten

end VulkanBindings.Wrapper
