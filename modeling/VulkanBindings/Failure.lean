import VulkanBindings.Registry.Fault
import VulkanBindings.NameSet
import VulkanBindings.Table

/-!
# Failures of a generation

A run that turns a registry into bindings fails in one of six ways: the
registry has a defect, its entities cannot be ordered, a text cannot be used,
an array has more values than can be written, a name has no value in a table
that should hold it, or a backing type is not the single one expected.  The last
two are ruled out by what reading a registry establishes, with one exception: the
enum behind a flags type.
-/

namespace VulkanBindings

/-- What stands in the way of an order: each entity that could not be placed,
with the names that it still waited for. -/
structure Deadlock where
  unresolved : Table NameSet

namespace Deadlock

/-- The most entities that a message names. -/
def shownEntities : Nat := 10

/-- The blocked entities, by name. -/
def sorted (deadlock : Deadlock) : List (String × NameSet) :=
  deadlock.unresolved.rows.mergeSort fun left right => decide (left.1 ≤ right.1)

/-- What is said about one blocked entity. -/
def detail (row : String × NameSet) : String :=
  s!"{row.1} waits on " ++ ", ".intercalate row.2.names

/-- The message for a deadlock. -/
def message (deadlock : Deadlock) : String :=
  let count := deadlock.unresolved.size
  let details := "; ".intercalate ((deadlock.sorted.take shownEntities).map detail)
  let more := if count > shownEntities then s!" (+{count - shownEntities} more)" else ""
  s!"Cannot order {count} entities: {details}{more}"

end Deadlock

/-- The tables that a generation looks names up in. -/
inductive Lookup where
  | enums
  | flags
  | scalars
  | handles
  | structs
  | commands
  deriving DecidableEq

/-- A reason why a generation fails. -/
inductive Failure where
  | registry (fault : Registry.Fault)
  | deadlock (deadlock : Deadlock)
  | text (fault : Text.Fault)
  | arrayTooLong (count : Nat)
  | missing (lookup : Lookup) (name : String)
  | notSingle (name : String)

instance : MonadLift (Except Registry.Fault) (Except Failure) where
  monadLift result := result.mapError Failure.registry

instance : MonadLift (Except Text.Fault) (Except Failure) where
  monadLift result := result.mapError Failure.text

instance : MonadLift (Except Deadlock) (Except Failure) where
  monadLift result := result.mapError Failure.deadlock

end VulkanBindings
