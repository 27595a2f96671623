import VulkanBindings.Proofs.Order.Tracking

/-!
# What a deadlock reports

An item can be placed in some order of the input if each of its needs is available or the
name of another such item.  `Provided` says this of names, as the least set that is closed
under it, and `Derivable` of items.  Neither mentions an order.

A run of the worklist ends when nothing is ready.  Until then it lists only provided names
(`Lists.place`), and when it ends, it has listed all of them (`mem_listed_run_start`): the
names that it lists do not depend on the order of the input, though the order of the
placements does.  So the report of a deadlock holds exactly the items that are not derivable,
each with its needs that nothing provides (`get?_unresolved`), and it reads the same for
every order of the input (`message_congr`).
-/

namespace VulkanBindings.Order

/-! ## What can be placed at all -/

/-- The names that are available, or that an item has whose needs are all such names. -/
inductive Provided (available : NameSet) (items : List Item) : String → Prop where
  | available {name : String} (h : name ∈ available) : Provided available items name
  | item {item : Item} (hmem : item ∈ items)
      (hneeds : ∀ name ∈ item.needs, Provided available items name) :
      Provided available items item.name

/-- An item of the input each of whose needs is available or the name of a derivable item. -/
def Derivable (available : NameSet) (items : List Item) (item : Item) : Prop :=
  item ∈ items ∧ ∀ name ∈ item.needs, Provided available items name

section Provided

variable {available : NameSet} {items other : List Item} {name : String} {item : Item}

theorem provided_iff : Provided available items name ↔
    name ∈ available ∨ ∃ item, Derivable available items item ∧ item.name = name := by
  constructor
  · intro h
    cases h with
    | available h => exact .inl h
    | item hmem hneeds => exact .inr ⟨_, ⟨hmem, hneeds⟩, rfl⟩
  · rintro (h | ⟨item, ⟨hmem, hneeds⟩, rfl⟩)
    · exact .available h
    · exact .item hmem hneeds

theorem Provided.mono (h : Provided available items name)
    (hitems : ∀ item ∈ items, item ∈ other) : Provided available other name := by
  induction h with
  | available h => exact .available h
  | item hmem hneeds ih => exact .item (hitems _ hmem) ih

/-- What is provided does not depend on the order of the items. -/
theorem provided_congr (hperm : items.Perm other) :
    Provided available items name ↔ Provided available other name :=
  ⟨fun h => h.mono fun _ hmem => hperm.mem_iff.1 hmem,
   fun h => h.mono fun _ hmem => hperm.mem_iff.2 hmem⟩

theorem derivable_congr (hperm : items.Perm other) :
    Derivable available items item ↔ Derivable available other item := by
  simp only [Derivable, hperm.mem_iff, provided_congr hperm]

end Provided

/-! ## A run to its end -/

namespace Worklist

variable {available : NameSet} {items other : List Item} {work : Worklist}

/-- A run ends when no item is ready. -/
theorem pop?_run (items : Array Item) (work : Worklist) : (run items work).ready.pop? = none := by
  fun_induction run items work with
  | case1 work hpop => exact hpop
  | case2 work position ready hpop hitem ih => exact ih
  | case3 work position ready hpop item hitem ih => exact ih

/-- What the heap yields is the position of an item of the input. -/
theorem Tracks.exists_item (h : Tracks items work) {position : Nat} {ready : Heap}
    (hpop : work.ready.pop? = some (position, ready)) : ∃ item, items[position]? = some item ∧
      item.isReady work.listed = true := by
  have hleast : position ∈ work.ready.toList :=
    (Heap.toList_pop hpop).mem_iff.2 List.mem_cons_self
  exact ((h.ready position).1 hleast).2

theorem Tracks.run (h : Tracks items work) : Tracks items (run items.toArray work) := by
  fun_induction Worklist.run items.toArray work with
  | case1 work hpop => exact h
  | case2 work position ready hpop hitem ih =>
    obtain ⟨item, hsome, -⟩ := h.exists_item hpop
    rw [List.getElem?_toArray, hsome] at hitem
    cases hitem
  | case3 work position ready hpop item hitem ih => exact ih (h.place hpop item.name)

/-- The listed names are those that are available and those of the placed items, and all of
them are provided. -/
structure Lists (available : NameSet) (items : List Item) (work : Worklist) : Prop where
  initial : ∀ name ∈ available, name ∈ work.listed
  placed : ∀ position ∈ work.placed, ∀ item, items[position]? = some item →
    item.name ∈ work.listed
  provided : ∀ name ∈ work.listed, Provided available items name

/-- Placing an item lists its name, which is provided because the item was ready. -/
theorem Lists.place (h : Lists available items work) (htracks : Tracks items work)
    {position : Nat} {ready : Heap} (hpop : work.ready.pop? = some (position, ready))
    {item : Item} (hitem : items[position]? = some item) :
    Lists available items (work.place position item.name ready) := by
  obtain ⟨first, hfirst, hready⟩ := htracks.exists_item hpop
  have hsame : first = item := Option.some.inj (hfirst.symm.trans hitem)
  subst hsame
  constructor
  · intro name hname
    rw [listed_place, NameSet.mem_insert]
    exact .inr (h.initial name hname)
  · intro earlier hearlier other hother
    rw [placed_place, List.mem_cons] at hearlier
    rw [listed_place, NameSet.mem_insert]
    rcases hearlier with rfl | hearlier
    · have heq : first = other := Option.some.inj (hfirst.symm.trans hother)
      exact .inl (by rw [heq])
    · exact .inr (h.placed earlier hearlier other hother)
  · intro name hname
    rw [listed_place, NameSet.mem_insert] at hname
    rcases hname with rfl | hname
    · have hneeds := Item.isReady_iff.1 hready
      exact .item (List.mem_of_getElem? hfirst) fun need hneed =>
        h.provided need (hneeds need hneed)
    · exact h.provided name hname

theorem Lists.run (h : Lists available items work) (htracks : Tracks items work) :
    Lists available items (run items.toArray work) := by
  fun_induction Worklist.run items.toArray work with
  | case1 work hpop => exact h
  | case2 work position ready hpop hitem ih =>
    obtain ⟨item, hsome, -⟩ := htracks.exists_item hpop
    rw [List.getElem?_toArray, hsome] at hitem
    cases hitem
  | case3 work position ready hpop item hitem ih =>
    rw [List.getElem?_toArray] at hitem
    exact ih (h.place htracks hpop hitem) (htracks.place hpop item.name)

theorem lists_start (available : NameSet) (items : List Item) :
    Lists available items (start available items) := by
  obtain ⟨hlisted, hplaced⟩ := foldl_enter_keeps available items (initial available)
  have hlisted : (start available items).listed = available := hlisted
  have hplaced : (start available items).placed = [] := hplaced
  constructor
  · intro name hname
    rw [hlisted]
    exact hname
  · intro position hposition
    simp [hplaced] at hposition
  · intro name hname
    rw [hlisted] at hname
    exact .available hname

/-- Where nothing is ready, every item without a missing name has been placed. -/
theorem Tracks.mem_placed_iff (h : Tracks items work) (hpop : work.ready.pop? = none)
    {position : Nat} {item : Item} (hitem : items[position]? = some item) :
    position ∈ work.placed ↔ item.isReady work.listed = true := by
  constructor
  · intro hplaced
    obtain ⟨other, hother, hready⟩ := h.placed position hplaced
    have hsame : other = item := Option.some.inj (hother.symm.trans hitem)
    rwa [hsame] at hready
  · intro hready
    by_contra hnot
    have hheap := (h.ready position).2 ⟨hnot, item, hitem, hready⟩
    rw [Heap.toList_of_pop_none hpop] at hheap
    cases hheap

/-- A run from the start lists exactly the provided names. -/
theorem mem_listed_run_start {name : String} :
    name ∈ ((start available items).run items.toArray).listed ↔
      Provided available items name := by
  have htracks := (tracks_start available items).run
  have hlists := (lists_start available items).run (tracks_start available items)
  have hpop := pop?_run items.toArray (start available items)
  constructor
  · intro hname
    exact hlists.provided name hname
  · -- What is closed under the rule for names holds all provided names.
    intro hprovided
    induction hprovided with
    | available h => exact hlists.initial _ h
    | @item item hmem hneeds ih =>
      obtain ⟨position, hposition⟩ := List.getElem?_of_mem hmem
      have hready := Item.isReady_iff.2 ih
      have hplaced := (htracks.mem_placed_iff hpop hposition).2 hready
      exact hlists.placed position hplaced item hposition

/-- At the end of a run the items without a missing name are the derivable ones. -/
theorem isReady_run_start {item : Item} (hmem : item ∈ items) :
    item.isReady ((start available items).run items.toArray).listed = true ↔
      Derivable available items item := by
  rw [Item.isReady_iff]
  simp only [mem_listed_run_start, Derivable, hmem, true_and]

theorem listed_run_start_congr (hperm : items.Perm other) :
    ((start available items).run items.toArray).listed =
      ((start available other).run other.toArray).listed := by
  ext name
  rw [mem_listed_run_start, mem_listed_run_start, provided_congr hperm]

/-! ## Who is left over -/

/-- Nothing is stuck when every position has been placed. -/
theorem stuck_eq_nil_iff (available : NameSet) (items : List Item) :
    (rescan available items.zipIdx).stuck = [] ↔
      ∀ position < items.length, position ∈ (rescan available items.zipIdx).order := by
  have hperm := perm_rescan available items.zipIdx
  rw [List.zipIdx_map_snd, ← List.range_eq_range'] at hperm
  constructor
  · intro hstuck position hlt
    rw [hstuck, List.map_nil, List.append_nil] at hperm
    exact hperm.mem_iff.2 (List.mem_range.2 hlt)
  · intro hall
    have hnodup := hperm.nodup_iff.2 List.nodup_range
    rw [List.eq_nil_iff_forall_not_mem]
    intro entry hentry
    have hstuck : entry.2 ∈ (rescan available items.zipIdx).stuck.map (·.2) :=
      List.mem_map_of_mem hentry
    have hlt := List.mem_range.1 (hperm.mem_iff.1 (List.mem_append_right _ hstuck))
    exact (List.nodup_append.1 hnodup).2.2 entry.2 (hall entry.2 hlt) entry.2 hstuck rfl

/-- Nothing is stuck when every item is derivable. -/
theorem stuck_eq_nil_iff_derivable (available : NameSet) (items : List Item) :
    (rescan available items.zipIdx).stuck = [] ↔
      ∀ item ∈ items, Derivable available items item := by
  have htracks := (tracks_start available items).run
  have hpop := pop?_run items.toArray (start available items)
  rw [stuck_eq_nil_iff, ← placed_run_start]
  simp only [List.mem_reverse]
  constructor
  · intro hall item hmem
    obtain ⟨position, hposition⟩ := List.getElem?_of_mem hmem
    have hlt := (List.getElem?_eq_some_iff.1 hposition).1
    exact (isReady_run_start hmem).1
      ((htracks.mem_placed_iff hpop hposition).1 (hall position hlt))
  · intro hall position hlt
    have hposition := List.getElem?_eq_getElem hlt
    have hmem := List.getElem_mem hlt
    exact (htracks.mem_placed_iff hpop hposition).2 ((isReady_run_start hmem).2 (hall _ hmem))

/-! ## The rows of the report -/

/-- The rows of the report of a run: the items that miss a name. -/
theorem deadlock_run_start (available : NameSet) (items : List Item) :
    ((start available items).run items.toArray).deadlock items =
      ⟨Table.ofList ((items.filter fun item =>
          !item.isReady ((start available items).run items.toArray).listed).map fun item =>
        (item.name, item.needs.diff ((start available items).run items.toArray).listed))⟩ := by
  have hunmet := (tracks_start available items).run.unmet
  generalize (start available items).run items.toArray = work at hunmet ⊢
  have hcounts : ∀ item : Item,
      decide (item.missing work.listed > 0) = !item.isReady work.listed := by
    intro item
    have hzero : item.missing work.listed = 0 ↔ item.isReady work.listed = true :=
      Item.missing_eq_zero_iff
    cases hready : item.isReady work.listed with
    | true => simp [hzero.2 hready]
    | false =>
      have hne : item.missing work.listed ≠ 0 := fun h => by simp [hzero.1 h] at hready
      simp [Nat.pos_of_ne_zero hne]
  have hzip : items.zip work.unmet.toList =
      items.map fun item => (item, item.missing work.listed) := by
    rw [hunmet, List.map_prod_left_eq_zip]
  simp only [deadlock, hzip, List.filter_map, List.map_map, Function.comp_def, hcounts]

section Rows

variable (hdistinct : (items.map (·.name)).Nodup)
include hdistinct

theorem nodup_blocked (keep : Item → Bool) (needs : Item → NameSet) :
    (((items.filter keep).map fun item => (item.name, needs item)).map (·.1)).Nodup := by
  rw [List.map_map]
  exact hdistinct.sublist (List.filter_sublist.map _)

theorem rows_unresolved (available : NameSet) :
    (((start available items).run items.toArray).deadlock items).unresolved.rows =
      (items.filter fun item =>
          !item.isReady ((start available items).run items.toArray).listed).map fun item =>
        (item.name, item.needs.diff ((start available items).run items.toArray).listed) := by
  rw [deadlock_run_start]
  exact Table.rows_ofList (nodup_blocked hdistinct _ _)

theorem nodup_unresolved (available : NameSet) :
    (((start available items).run items.toArray).deadlock items).unresolved.keys.Nodup := by
  rw [Table.keys, rows_unresolved hdistinct]
  exact nodup_blocked hdistinct _ _

/-- The report holds the items that are not derivable, each with its needs that nothing
provides. -/
theorem get?_unresolved (available : NameSet) (name : String) (waits : NameSet) :
    (((start available items).run items.toArray).deadlock items).unresolved.get? name =
        some waits ↔
      ∃ item ∈ items, item.name = name ∧ ¬ Derivable available items item ∧
        ∀ need, need ∈ waits ↔ need ∈ item.needs ∧ ¬ Provided available items need := by
  have hrow : (((start available items).run items.toArray).deadlock items).unresolved.get? name =
      some waits ↔ (name, waits) ∈
        (((start available items).run items.toArray).deadlock items).unresolved.rows :=
    ⟨Table.mem_rows_of_get?, Table.get?_of_mem_rows (nodup_unresolved hdistinct available)⟩
  have hdiff : ∀ item : Item,
      item.needs.diff ((start available items).run items.toArray).listed = waits ↔
        ∀ need, need ∈ waits ↔ need ∈ item.needs ∧ ¬ Provided available items need := by
    intro item
    constructor
    · rintro rfl need
      rw [NameSet.mem_diff, mem_listed_run_start]
    · intro hwaits
      ext need
      rw [NameSet.mem_diff, mem_listed_run_start, hwaits]
  rw [hrow, rows_unresolved hdistinct]
  simp only [List.mem_map, List.mem_filter, Prod.mk.injEq, hdiff]
  constructor
  · rintro ⟨item, ⟨hmem, hready⟩, hname, hwaits⟩
    refine ⟨item, hmem, hname, fun hderivable => ?_, hwaits⟩
    rw [(isReady_run_start hmem).2 hderivable] at hready
    cases hready
  · rintro ⟨item, hmem, hname, hnot, hwaits⟩
    refine ⟨item, ⟨hmem, ?_⟩, hname, hwaits⟩
    rw [Bool.not_eq_true', ← Bool.not_eq_true, isReady_run_start hmem]
    exact hnot

/-- Items in another order leave the same rows, in another order. -/
theorem perm_rows_unresolved (available : NameSet) (hperm : items.Perm other) :
    (((start available items).run items.toArray).deadlock items).unresolved.rows.Perm
      (((start available other).run other.toArray).deadlock other).unresolved.rows := by
  have hother := (hperm.map (·.name)).nodup_iff.1 hdistinct
  rw [rows_unresolved hdistinct, rows_unresolved hother, listed_run_start_congr hperm]
  exact (hperm.filter _).map _

end Rows

end Worklist

/-! ## The message -/

/-- The sorted rows of a report do not depend on the order in which they came. -/
theorem sorted_congr {deadlock other : Deadlock}
    (hperm : deadlock.unresolved.rows.Perm other.unresolved.rows)
    (hdistinct : deadlock.unresolved.keys.Nodup) : deadlock.sorted = other.sorted := by
  have htrans : ∀ a b c : String × NameSet,
      decide (a.1 ≤ b.1) = true → decide (b.1 ≤ c.1) = true → decide (a.1 ≤ c.1) = true := by
    intro a b c hab hbc
    simp only [decide_eq_true_eq] at *
    exact String.le_trans hab hbc
  have htotal : ∀ a b : String × NameSet,
      (decide (a.1 ≤ b.1) || decide (b.1 ≤ a.1)) = true := by
    intro a b
    simpa using String.le_total a.1 b.1
  have hleft : deadlock.sorted.Perm deadlock.unresolved.rows := List.mergeSort_perm _ _
  have hright : other.sorted.Perm other.unresolved.rows := List.mergeSort_perm _ _
  refine List.Perm.eq_of_pairwise ?_ (List.pairwise_mergeSort htrans htotal _)
    (List.pairwise_mergeSort htrans htotal _) (hleft.trans (hperm.trans hright.symm))
  -- Two rows of one name are one row.
  intro a b ha hb hab hba
  have hname : a.1 = b.1 := String.le_antisymm (by simpa using hab) (by simpa using hba)
  have ha' := Table.get?_of_mem_rows hdistinct (hleft.mem_iff.1 ha : (a.1, a.2) ∈ _)
  have hb' := Table.get?_of_mem_rows hdistinct
    (hperm.mem_iff.2 (hright.mem_iff.1 hb) : (b.1, b.2) ∈ _)
  rw [hname, hb'] at ha'
  exact Prod.ext hname (Option.some.inj ha').symm

theorem message_congr {deadlock other : Deadlock}
    (hperm : deadlock.unresolved.rows.Perm other.unresolved.rows)
    (hdistinct : deadlock.unresolved.keys.Nodup) : deadlock.message = other.message := by
  have hsize : deadlock.unresolved.size = other.unresolved.size := hperm.length_eq
  unfold Deadlock.message
  rw [sorted_congr hperm hdistinct, hsize]

/-! ## The report of the worklist -/

/-- The worklist fails when an item is not derivable, with the report of its last state. -/
theorem positions_eq_error_iff {available : NameSet} {items : List Item} {deadlock : Deadlock} :
    positions available items = .error deadlock ↔
      (∃ item ∈ items, ¬ Derivable available items item) ∧
        ((Worklist.start available items).run items.toArray).deadlock items = deadlock := by
  have hlength := length_order_eq_iff available items
  rw [Worklist.stuck_eq_nil_iff_derivable, ← Worklist.placed_run_start, List.length_reverse]
    at hlength
  simp only [positions]
  split
  · rename_i hall
    have hderivable := hlength.1 hall
    constructor
    · intro h
      cases h
    · rintro ⟨⟨item, hmem, hnot⟩, -⟩
      exact absurd (hderivable item hmem) hnot
  · rename_i hnot
    have hleft : ∃ item ∈ items, ¬ Derivable available items item := by
      by_contra hnone
      refine hnot (hlength.2 fun item hmem => ?_)
      by_contra hstuck
      exact hnone ⟨item, hmem, hstuck⟩
    simp [hleft]

/-- Of items with different names the worklist places all if each of them is derivable, and
otherwise reports a deadlock.  The report holds exactly the items that are not derivable, each
with those of its needs, at least one, that are neither available nor the name of a derivable
item.  The items in any other order are all placed as well, or reported in the same words. -/
theorem deadlock_exact {items : List Item} (hdistinct : (items.map (·.name)).Nodup)
    (available : NameSet) :
    ((∃ deadlock, positions available items = .error deadlock) ↔
      ∃ item ∈ items, ¬ Derivable available items item) ∧
    (∀ deadlock, positions available items = .error deadlock → ∀ name waits,
      (deadlock.unresolved.get? name = some waits ↔
        ∃ item ∈ items, item.name = name ∧ ¬ Derivable available items item ∧
          ∀ need, need ∈ waits ↔ need ∈ item.needs ∧ need ∉ available ∧
            ∀ provider, Derivable available items provider → provider.name ≠ need) ∧
      (deadlock.unresolved.get? name = some waits → ∃ need, need ∈ waits)) ∧
    ∀ other, items.Perm other →
      match positions available items, positions available other with
      | .ok _, .ok _ => True
      | .error deadlock, .error again =>
        (∀ name, deadlock.unresolved.get? name = again.unresolved.get? name) ∧
          deadlock.message = again.message
      | _, _ => False := by
  have hprovided : ∀ need, ¬ Provided available items need ↔ need ∉ available ∧
      ∀ provider, Derivable available items provider → provider.name ≠ need := by
    intro need
    rw [provided_iff, not_or, not_exists]
    simp only [not_and, ne_eq]
  refine ⟨?_, ?_, ?_⟩
  · constructor
    · rintro ⟨deadlock, hdeadlock⟩
      exact (positions_eq_error_iff.1 hdeadlock).1
    · intro hleft
      exact ⟨_, positions_eq_error_iff.2 ⟨hleft, rfl⟩⟩
  · intro deadlock hdeadlock name waits
    obtain ⟨-, rfl⟩ := positions_eq_error_iff.1 hdeadlock
    have hrows := Worklist.get?_unresolved hdistinct available name waits
    refine ⟨by simpa only [hprovided] using hrows, fun hwaits => ?_⟩
    obtain ⟨item, hmem, -, hnot, hneeds⟩ := hrows.1 hwaits
    by_contra hnone
    refine hnot ⟨hmem, fun need hneed => ?_⟩
    by_contra hunprovided
    exact hnone ⟨need, (hneeds need).2 ⟨hneed, hunprovided⟩⟩
  · intro other hperm
    have hleft : (∃ item ∈ items, ¬ Derivable available items item) ↔
        ∃ item ∈ other, ¬ Derivable available other item := by
      simp only [hperm.mem_iff, derivable_congr hperm]
    cases hpositions : positions available items with
    | ok order =>
      cases hagain : positions available other with
      | ok again => trivial
      | error again =>
        have hstuck := hleft.2 (positions_eq_error_iff.1 hagain).1
        rw [positions_eq_error_iff.2 ⟨hstuck, rfl⟩] at hpositions
        cases hpositions
    | error deadlock =>
      obtain ⟨hstuck, rfl⟩ := positions_eq_error_iff.1 hpositions
      rw [positions_eq_error_iff.2 ⟨hleft.1 hstuck, rfl⟩]
      have hrows := Worklist.perm_rows_unresolved hdistinct available hperm
      have hkeys := Worklist.nodup_unresolved hdistinct available
      refine ⟨fun name => ?_, message_congr hrows hkeys⟩
      exact Table.get?_congr hrows hkeys name

/-- Two items that need each other, one that needs the second of them, and one that can be
placed. -/
def sampleBlocked : List Item :=
  [⟨"Surface", .ofList ["Window"]⟩, ⟨"Window", .ofList ["Surface"]⟩,
   ⟨"Frame", .ofList ["Pixel", "Window"]⟩, ⟨"Pixel", .ofList ["Flags"]⟩]

theorem sample_deadlock_exact :
    (sampleBlocked.map (·.name)).Nodup ∧
      (∃ item ∈ sampleBlocked, ¬ Derivable (.ofList ["Flags"]) sampleBlocked item) ∧
      ∃ deadlock again, positions (.ofList ["Flags"]) sampleBlocked = .error deadlock ∧
        positions (.ofList ["Flags"]) sampleBlocked.reverse = .error again ∧
        deadlock.message = again.message := by
  have hdistinct : (sampleBlocked.map (·.name)).Nodup := by decide
  -- Neither of the first two can be the earlier one to be provided.
  have hcycle : ∀ name, Provided (.ofList ["Flags"]) sampleBlocked name →
      name ≠ "Surface" ∧ name ≠ "Window" := by
    intro name hname
    induction hname with
    | available h =>
      obtain rfl := List.mem_singleton.1 ((NameSet.mem_ofList).1 h)
      decide
    | @item item hmem _ ih =>
      have hcases : item = ⟨"Surface", .ofList ["Window"]⟩ ∨
          item = ⟨"Window", .ofList ["Surface"]⟩ ∨ item.name = "Frame" ∨ item.name = "Pixel" := by
        simp only [sampleBlocked, List.mem_cons, List.not_mem_nil, or_false] at hmem
        rcases hmem with rfl | rfl | rfl | rfl <;> simp
      rcases hcases with rfl | rfl | hframe | hpixel
      · exact absurd rfl (ih "Window" (by decide)).2
      · exact absurd rfl (ih "Surface" (by decide)).1
      · rw [hframe]
        decide
      · rw [hpixel]
        decide
  have hstuck : ∃ item ∈ sampleBlocked, ¬ Derivable (.ofList ["Flags"]) sampleBlocked item := by
    refine ⟨⟨"Surface", .ofList ["Window"]⟩, List.mem_cons_self, fun hderivable => ?_⟩
    exact (hcycle "Window" (hderivable.2 "Window" (by decide))).2 rfl
  obtain ⟨hfails, -, hagain⟩ := deadlock_exact hdistinct (.ofList ["Flags"])
  obtain ⟨deadlock, hdeadlock⟩ := hfails.2 hstuck
  have hreverse := hagain sampleBlocked.reverse (List.reverse_perm _).symm
  rw [hdeadlock] at hreverse
  cases hother : positions (.ofList ["Flags"]) sampleBlocked.reverse with
  | ok order =>
    rw [hother] at hreverse
    exact hreverse.elim
  | error again =>
    rw [hother] at hreverse
    exact ⟨hdistinct, hstuck, deadlock, again, hdeadlock, rfl, hreverse.2⟩

end VulkanBindings.Order
