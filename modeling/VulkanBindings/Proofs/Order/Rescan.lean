import VulkanBindings.Order.Worklist

/-!
# Rescanning

The order that the worklist finds can be said without counters and heaps: scan
the items that remain from the front, place the first one that is ready, and
start again.  `rescan` does just that.  It stops when no item is ready, and what
remains then is stuck.

The items are scanned together with their positions in the input.  `first_ready`
describes one scan, and `perm_rescan` says that every position is either placed
or stuck.
-/

namespace VulkanBindings.Order

/-- Whether an item needs nothing but listed names. -/
def Item.isReady (listed : NameSet) (item : Item) : Bool :=
  item.needs.names.all fun name => decide (name ∈ listed)

theorem Item.isReady_iff {listed : NameSet} {item : Item} :
    item.isReady listed = true ↔ ∀ name ∈ item.needs, name ∈ listed := by
  simp [isReady, NameSet.mem_iff]

/-- What rescanning comes to. -/
structure Rescan where
  /-- The positions of the placed items, in order. -/
  order : List Nat
  /-- The items that are left over, with their positions. -/
  stuck : List (Item × Nat)

/-- Places the first item that is ready, and scans the rest from the front. -/
def rescan (listed : NameSet) (remaining : List (Item × Nat)) : Rescan :=
  match _found : remaining.find? (·.1.isReady listed) with
  | none => ⟨[], remaining⟩
  | some (item, position) =>
    let rest := rescan (listed.insert item.name) (remaining.eraseP (·.1.isReady listed))
    ⟨position :: rest.order, rest.stuck⟩
termination_by remaining.length
decreasing_by
  have hmem := List.mem_of_find?_eq_some _found
  have hready := List.find?_some _found
  have hpos := List.length_pos_of_mem hmem
  rw [List.length_eraseP_of_mem hmem hready]
  omega

/-! ## One scan -/

/-- The item that a scan finds splits what remains: nothing before it is ready,
and taking it out leaves both sides. -/
theorem first_ready {listed : NameSet} {remaining : List (Item × Nat)} {found : Item × Nat}
    (h : remaining.find? (·.1.isReady listed) = some found) :
    ∃ before after, remaining = before ++ found :: after ∧
      remaining.eraseP (·.1.isReady listed) = before ++ after ∧
      found.1.isReady listed = true ∧ ∀ entry ∈ before, entry.1.isReady listed = false := by
  obtain ⟨hready, before, after, rfl, hbefore⟩ := List.find?_eq_some_iff_append.1 h
  have hnone : ∀ entry ∈ before, entry.1.isReady listed = false := by
    intro entry hentry
    simpa using hbefore entry hentry
  refine ⟨before, after, rfl, ?_, hready, hnone⟩
  rw [List.eraseP_append_right]
  · simp [hready]
  · intro entry hentry
    simp [hnone entry hentry]

theorem rescan_of_none {listed : NameSet} {remaining : List (Item × Nat)}
    (h : remaining.find? (·.1.isReady listed) = none) :
    rescan listed remaining = ⟨[], remaining⟩ := by
  rw [rescan]
  split
  · rfl
  · rename_i hfound
    rw [h] at hfound
    cases hfound

theorem rescan_of_some {listed : NameSet} {remaining : List (Item × Nat)} {item : Item}
    {position : Nat} (h : remaining.find? (·.1.isReady listed) = some (item, position)) :
    rescan listed remaining =
      let rest := rescan (listed.insert item.name) (remaining.eraseP (·.1.isReady listed))
      ⟨position :: rest.order, rest.stuck⟩ := by
  rw [rescan]
  split
  · rename_i hfound
    rw [h] at hfound
    cases hfound
  · rename_i hfound
    rw [h] at hfound
    cases hfound
    rfl

/-! ## Nothing is lost -/

/-- Every position that remained is either placed or stuck. -/
theorem perm_rescan (listed : NameSet) (remaining : List (Item × Nat)) :
    ((rescan listed remaining).order ++ (rescan listed remaining).stuck.map (·.2)).Perm
      (remaining.map (·.2)) := by
  fun_induction rescan listed remaining with
  | case1 listed remaining hnone => simp
  | case2 listed remaining item position hfound rest ih =>
    obtain ⟨before, after, hsplit, herase, -, -⟩ := first_ready hfound
    refine (ih.cons position).trans ?_
    rw [herase, hsplit, List.map_append, List.map_append, List.map_cons]
    exact List.perm_middle.symm

theorem length_rescan (listed : NameSet) (remaining : List (Item × Nat)) :
    (rescan listed remaining).order.length + (rescan listed remaining).stuck.length =
      remaining.length := by
  have h := (perm_rescan listed remaining).length_eq
  simpa using h

end VulkanBindings.Order
