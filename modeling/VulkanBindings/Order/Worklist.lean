import Std.Data.HashMap
import VulkanBindings.Failure
import VulkanBindings.Order.Heap

/-!
# Placing items after what they need

Items are placed one by one.  An item is ready when every name it needs is
listed: available from the start, or the name of an item already placed.  Of
the ready items the earliest in the input goes next.

The worklist counts the names that each item still misses and remembers which
items wait for which name, so a step touches only those that waited for the
name just listed.  `positions` is the resulting order of positions in the
input, or a report of the items that can never be placed.
-/

namespace VulkanBindings.Order

/-- Something to be placed: its name, and the names that come before it. -/
structure Item where
  name : String
  needs : NameSet

/-- The state of the placement. -/
structure Worklist where
  /-- Positions of the items that are ready and not yet placed. -/
  ready : Heap
  /-- How many names each item still misses. -/
  unmet : Array Nat
  /-- The positions of the items that miss a name. -/
  waiting : Std.HashMap String (List Nat)
  /-- The names that count as placed. -/
  listed : NameSet
  /-- The positions placed so far, last first. -/
  placed : List Nat

namespace Worklist

/-- The worklist before any item has been entered. -/
def initial (available : NameSet) : Worklist :=
  ⟨.empty, #[], ∅, available, []⟩

/-- Enters the next item of the input. -/
def enter (available : NameSet) (work : Worklist) (item : Item) : Worklist :=
  let position := work.unmet.size
  let missing := item.needs.diff available
  { work with
    ready := if missing.isEmpty then work.ready.insert position else work.ready
    unmet := work.unmet.push missing.size
    waiting := missing.names.foldl
      (fun waiting name => waiting.insert name (position :: waiting.getD name [])) work.waiting }

/-- The worklist before the first placement. -/
def start (available : NameSet) (items : List Item) : Worklist :=
  items.foldl (enter available) (initial available)

/-- Notes that a name which the item at `position` misses has been listed.  The
item is ready when it was the last one. -/
def settle (state : Heap × Array Nat) (position : Nat) : Heap × Array Nat :=
  match state.2[position]? with
  | none | some 0 => state
  | some 1 => (state.1.insert position, state.2.setIfInBounds position 0)
  | some (missing + 2) => (state.1, state.2.setIfInBounds position (missing + 1))

/-- Places the item of the given name at `position`, which has been taken out of
the ready items.  Nothing waits any more for a name that is already listed. -/
def place (work : Worklist) (position : Nat) (name : String) (ready : Heap) : Worklist :=
  let work := { work with ready := ready, placed := position :: work.placed }
  if name ∈ work.listed then
    work
  else
    let (ready, unmet) := (work.waiting.getD name []).foldl settle (work.ready, work.unmet)
    { work with
      ready := ready
      unmet := unmet
      waiting := work.waiting.erase name
      listed := work.listed.insert name }

/-! ## Every placement brings the end nearer -/

/-- The sum of counts. -/
def total : List Nat → Nat
  | [] => 0
  | count :: counts => count + total counts

/-- How many steps can still follow: one for each ready item, and one for each
name that an item misses. -/
def remaining (ready : Heap) (unmet : Array Nat) : Nat :=
  ready.size + total unmet.toList

theorem total_set {counts : List Nat} {position old : Nat} (new : Nat)
    (h : counts[position]? = some old) :
    total (counts.set position new) + old = total counts + new := by
  induction counts generalizing position with
  | nil => simp at h
  | cons count counts ih =>
    cases position with
    | zero => simp at h; subst h; simp [total]; omega
    | succ position =>
      simp only [List.getElem?_cons_succ] at h
      have := ih h
      simp only [List.set_cons_succ, total]
      omega

theorem remaining_settle (state : Heap × Array Nat) (position : Nat) :
    remaining (settle state position).1 (settle state position).2 ≤ remaining state.1 state.2 := by
  unfold settle
  split
  · exact Nat.le_refl _
  · exact Nat.le_refl _
  · rename_i h
    have hs := total_set 0 (by simpa using h : state.2.toList[position]? = some 1)
    simp only [remaining, Heap.size_insert, Array.toList_setIfInBounds]
    omega
  · rename_i missing h
    have hs := total_set (missing + 1)
      (by simpa using h : state.2.toList[position]? = some (missing + 2))
    simp only [remaining, Array.toList_setIfInBounds]
    omega

theorem remaining_foldl_settle (positions : List Nat) (state : Heap × Array Nat) :
    remaining (positions.foldl settle state).1 (positions.foldl settle state).2 ≤
      remaining state.1 state.2 := by
  induction positions generalizing state with
  | nil => exact Nat.le_refl _
  | cons position positions ih =>
    exact Nat.le_trans (ih (settle state position)) (remaining_settle state position)

theorem remaining_place (work : Worklist) (position : Nat) (name : String) (ready : Heap) :
    remaining (work.place position name ready).ready (work.place position name ready).unmet ≤
      remaining ready work.unmet := by
  simp only [place]
  split
  · exact Nat.le_refl _
  · exact remaining_foldl_settle _ (ready, work.unmet)

/-! ## Placing all that can be placed -/

/-- Places ready items until none is left. -/
def run (items : Array Item) (work : Worklist) : Worklist :=
  match _taken : work.ready.pop? with
  | none => work
  | some (position, ready) =>
    match items[position]? with
    | none => run items { work with ready := ready }
    | some item => run items (work.place position item.name ready)
termination_by remaining work.ready work.unmet
decreasing_by
  · have := Heap.size_pop _taken
    simp only [remaining]; omega
  · have := Heap.size_pop _taken
    have := remaining_place work position item.name ready
    simp only [remaining] at *; omega

/-- The items that were not placed, each with the names that never came. -/
def deadlock (items : List Item) (work : Worklist) : Deadlock :=
  let blocked := (items.zip work.unmet.toList).filter fun (_, missing) => missing > 0
  ⟨Table.ofList (blocked.map fun (item, _) => (item.name, item.needs.diff work.listed))⟩

end Worklist

/-- The positions of the items in an order in which each follows what it needs,
the earliest ready item first. -/
def positions (available : NameSet) (items : List Item) : Except Deadlock (List Nat) :=
  let work := (Worklist.start available items).run items.toArray
  if work.placed.length = items.length then .ok work.placed.reverse
  else .error (work.deadlock items)

end VulkanBindings.Order
