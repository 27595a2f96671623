import Mathlib.Tactic.ByContra
import VulkanBindings.Proofs.Order.Rescan

/-!
# The worklist keeps in step with rescanning

`Tracks` says what the parts of a worklist stand for, once some items have been
placed: the counters count the names still missing, the waiting lists hold the
items that need a name not yet listed, and the heap holds the items that a scan
would find ready.  Entering the input establishes it (`tracks_start`) and each
placement keeps it (`Tracks.place`).

So the least position in the heap is the first ready item of a scan, and
`Tracks.run_eq` says that the worklist places what rescanning places, in the
same order.  The report of a deadlock is then what rescanning is stuck with.
-/

namespace VulkanBindings.Order

/-! ## How many names an item misses -/

namespace Item

/-- How many names the item still misses. -/
def missing (listed : NameSet) (item : Item) : Nat :=
  (item.needs.diff listed).size

theorem missing_eq_zero_iff {listed : NameSet} {item : Item} :
    item.missing listed = 0 ↔ item.isReady listed = true := by
  simp only [missing, NameSet.size, List.length_eq_zero_iff, isReady_iff]
  rw [List.eq_nil_iff_forall_not_mem]
  constructor
  · intro h name hname
    by_contra hnot
    exact h name (NameSet.mem_diff.2 ⟨hname, hnot⟩)
  · intro h name hname
    obtain ⟨hneeds, hnot⟩ := NameSet.mem_diff.1 hname
    exact hnot (h name hneeds)

theorem missing_pos {listed : NameSet} {item : Item} {name : String} (hneeds : name ∈ item.needs)
    (h : name ∉ listed) : 0 < item.missing listed := by
  refine Nat.pos_of_ne_zero fun hzero => ?_
  exact h (isReady_iff.1 (missing_eq_zero_iff.1 hzero) name hneeds)

/-- Listing a new name brings every item that needs it one name nearer. -/
theorem missing_insert {listed : NameSet} {item : Item} {name : String} (h : name ∉ listed) :
    item.missing (listed.insert name) =
      if name ∈ item.needs then item.missing listed - 1 else item.missing listed := by
  have hdiff : (item.needs.diff (listed.insert name)) = (item.needs.diff listed).erase name := by
    ext other
    simp only [NameSet.mem_diff, NameSet.mem_insert, NameSet.mem_erase, not_or]
    rw [and_assoc]
    exact and_congr_right fun _ => and_comm
  simp only [missing, hdiff]
  split
  · rename_i hneeds
    exact NameSet.size_erase_of_mem (NameSet.mem_diff.2 ⟨hneeds, h⟩)
  · rename_i hneeds
    exact NameSet.size_erase_of_not_mem fun hmem => hneeds (NameSet.mem_diff.1 hmem).1

/-- A new name makes those items ready that miss it and nothing else. -/
theorem isReady_insert_iff {listed : NameSet} {item : Item} {name : String} (h : name ∉ listed) :
    item.isReady (listed.insert name) = true ↔
      item.isReady listed = true ∨ (name ∈ item.needs ∧ item.missing listed = 1) := by
  rw [← missing_eq_zero_iff, ← missing_eq_zero_iff, missing_insert h]
  split
  · rename_i hneeds
    have hpos := missing_pos hneeds h
    constructor
    · intro hzero
      exact .inr ⟨hneeds, by omega⟩
    · rintro (hzero | ⟨-, hone⟩) <;> omega
  · rename_i hneeds
    exact (or_iff_left fun hone => hneeds hone.1).symm

end Item

namespace Worklist

/-! ## Settling the items that waited for a name -/

theorem getElem?_set_pred {counts : Array Nat} {position count : Nat}
    (h : counts[position]? = some (count + 1)) (other : Nat) :
    (counts.setIfInBounds position count)[other]? =
      if other = position then counts[other]?.map (· - 1) else counts[other]? := by
  rw [Array.getElem?_setIfInBounds]
  split
  · rename_i heq
    subst heq
    have hlt : position < counts.size := (Array.getElem?_eq_some_iff.1 h).1
    rw [if_pos hlt, if_pos rfl, h]
    rfl
  · rename_i hne
    rw [if_neg (Ne.symm hne)]

theorem settle_unmet (state : Heap × Array Nat) (position other : Nat) :
    (settle state position).2[other]? =
      if other = position then state.2[other]?.map (· - 1) else state.2[other]? := by
  unfold settle
  split
  · rename_i h
    split
    · rename_i heq
      simp [heq, h]
    · rfl
  · rename_i h
    split
    · rename_i heq
      simp [heq, h]
    · rfl
  · rename_i h
    exact getElem?_set_pred h other
  · rename_i missing h
    exact getElem?_set_pred h other

theorem mem_settle (state : Heap × Array Nat) (position other : Nat) :
    other ∈ (settle state position).1.toList ↔
      other ∈ state.1.toList ∨ (other = position ∧ state.2[position]? = some 1) := by
  unfold settle
  split
  · rename_i h
    simp [h]
  · rename_i h
    simp [h]
  · rename_i h
    simp [h]
  · rename_i missing h
    simp [h]

theorem isHeap_settle {state : Heap × Array Nat} (h : state.1.IsHeap) (position : Nat) :
    (settle state position).1.IsHeap := by
  unfold settle
  split
  · exact h
  · exact h
  · exact h.insert position
  · exact h

theorem nodup_settle {state : Heap × Array Nat} {position : Nat} (h : state.1.toList.Nodup)
    (hready : state.2[position]? = some 1 → position ∉ state.1.toList) :
    (settle state position).1.toList.Nodup := by
  unfold settle
  split
  · exact h
  · exact h
  · rename_i hone
    rw [Heap.insert, (Heap.toList_merge _ _).nodup_iff, List.nodup_append]
    refine ⟨h, by simp [Heap.toList], ?_⟩
    intro other hother new hnew heq
    simp only [Heap.toList, List.append_nil, List.mem_singleton] at hnew
    subst heq hnew
    exact hready hone hother
  · exact h

/-- What settling a list of different positions does: each counter in the list
drops by one, and the positions whose counter was at one become ready. -/
structure Settled (positions : List Nat) (state result : Heap × Array Nat) : Prop where
  unmet : ∀ other, result.2[other]? =
    if other ∈ positions then state.2[other]?.map (· - 1) else state.2[other]?
  ready : ∀ other, other ∈ result.1.toList ↔
    other ∈ state.1.toList ∨ (other ∈ positions ∧ state.2[other]? = some 1)
  isHeap : result.1.IsHeap
  nodup : result.1.toList.Nodup

theorem settled_foldl {positions : List Nat} {state : Heap × Array Nat}
    (hpositions : positions.Nodup) (hheap : state.1.IsHeap) (hnodup : state.1.toList.Nodup)
    (hready : ∀ other ∈ positions, state.2[other]? = some 1 → other ∉ state.1.toList) :
    Settled positions state (positions.foldl settle state) := by
  induction positions generalizing state with
  | nil =>
    exact ⟨by simp, by simp, hheap, hnodup⟩
  | cons position positions ih =>
    obtain ⟨hnot, hrest⟩ := List.nodup_cons.1 hpositions
    have hsame : ∀ other ∈ positions, (settle state position).2[other]? = state.2[other]? := by
      intro other hother
      rw [settle_unmet, if_neg]
      rintro rfl
      exact hnot hother
    have hfirst := hready position List.mem_cons_self
    have step := ih hrest (isHeap_settle hheap position) (nodup_settle hnodup hfirst) (by
      intro other hother hone hmem
      rw [hsame other hother] at hone
      rcases (mem_settle state position other).1 hmem with hmem | ⟨rfl, -⟩
      · exact hready other (List.mem_cons_of_mem _ hother) hone hmem
      · exact hnot hother)
    refine ⟨?_, ?_, step.isHeap, step.nodup⟩
    · intro other
      rw [List.foldl_cons, step.unmet, settle_unmet]
      by_cases heq : other = position
      · subst heq
        simp [hnot]
      · simp [heq]
    · intro other
      rw [List.foldl_cons, step.ready, mem_settle]
      by_cases heq : other = position
      · subst heq
        simp [hnot]
      · simp only [heq, false_and, or_false, List.mem_cons, false_or]
        constructor
        · rintro (hmem | ⟨hmem, hone⟩)
          · exact .inl hmem
          · exact .inr ⟨hmem, by rw [← hsame other hmem]; exact hone⟩
        · rintro (hmem | ⟨hmem, hone⟩)
          · exact .inl hmem
          · exact .inr ⟨hmem, by rw [hsame other hmem]; exact hone⟩

/-! ## Entering the names that an item misses -/

theorem getD_waiting {names : List String} (hnames : names.Nodup) (position : Nat)
    (waiting : Std.HashMap String (List Nat)) (name : String) :
    (names.foldl (fun waiting name => waiting.insert name (position :: waiting.getD name []))
        waiting).getD name [] =
      if name ∈ names then position :: waiting.getD name [] else waiting.getD name [] := by
  induction names generalizing waiting with
  | nil => simp
  | cons first names ih =>
    obtain ⟨hnot, hrest⟩ := List.nodup_cons.1 hnames
    rw [List.foldl_cons, ih hrest, Std.HashMap.getD_insert]
    by_cases heq : first = name
    · subst heq
      simp [hnot]
    · simp [heq, Ne.symm heq]

/-! ## What the parts of a worklist stand for -/

/-- The worklist stands for the placement of `items` that has come as far as its
list of placed positions says. -/
structure Tracks (items : List Item) (work : Worklist) : Prop where
  isHeap : work.ready.IsHeap
  nodup : work.ready.toList.Nodup
  /-- The heap holds the items that are ready and not yet placed. -/
  ready : ∀ position, position ∈ work.ready.toList ↔ position ∉ work.placed ∧
    ∃ item, items[position]? = some item ∧ item.isReady work.listed = true
  /-- What is placed was ready. -/
  placed : ∀ position ∈ work.placed,
    ∃ item, items[position]? = some item ∧ item.isReady work.listed = true
  unmet : work.unmet.toList = items.map (·.missing work.listed)
  /-- The items that wait for a name are those that need it. -/
  waiting : ∀ name, name ∉ work.listed → (work.waiting.getD name []).Nodup ∧
    ∀ position, position ∈ work.waiting.getD name [] ↔
      ∃ item, items[position]? = some item ∧ name ∈ item.needs

theorem tracks_initial (available : NameSet) : Tracks [] (initial available) where
  isHeap := trivial
  nodup := List.nodup_nil
  ready := by simp [initial, Heap.toList]
  placed := by simp [initial]
  unmet := rfl
  waiting := by simp [initial]

/-- What an item at a position of a longer input is like: an item that was there
before, or the last one. -/
theorem exists_append_item {items : List Item} {item : Item} {position : Nat}
    {P : Item → Prop} :
    (∃ other, (items ++ [item])[position]? = some other ∧ P other) ↔
      (∃ other, items[position]? = some other ∧ P other) ∨
        (position = items.length ∧ P item) := by
  rcases Nat.lt_trichotomy position items.length with hlt | heq | hgt
  · rw [List.getElem?_append_left hlt]
    simp [Nat.ne_of_lt hlt]
  · subst heq
    simp
  · have hnone : items[position]? = none := List.getElem?_eq_none (Nat.le_of_lt hgt)
    rw [List.getElem?_append_right (Nat.le_of_lt hgt), hnone,
      List.getElem?_eq_none (by simp only [List.length_singleton]; omega)]
    simp [Nat.ne_of_gt hgt]

theorem Tracks.size_unmet {items : List Item} {work : Worklist} (h : Tracks items work) :
    work.unmet.size = items.length := by
  have hlength := congrArg List.length h.unmet
  simpa using hlength

theorem Tracks.lt_of_ready {items : List Item} {work : Worklist} (h : Tracks items work)
    {position : Nat} (hmem : position ∈ work.ready.toList) : position < items.length := by
  obtain ⟨-, item, hitem, -⟩ := (h.ready position).1 hmem
  exact (List.getElem?_eq_some_iff.1 hitem).1

/-- Entering an item keeps the worklist in step, as long as nothing is placed. -/
theorem Tracks.enter {items : List Item} {work : Worklist} (h : Tracks items work)
    (hplaced : work.placed = []) (item : Item) :
    Tracks (items ++ [item]) (enter work.listed work item) := by
  have hsize := h.size_unmet
  have hready : (item.needs.diff work.listed).isEmpty = item.isReady work.listed := by
    rw [Bool.eq_iff_iff, ← Item.missing_eq_zero_iff, Item.missing, NameSet.size]
    exact List.isEmpty_iff.trans List.length_eq_zero_iff.symm
  have hfresh : work.unmet.size ∉ work.ready.toList := by
    intro hmem
    have := h.lt_of_ready hmem
    omega
  constructor
  · simp only [Worklist.enter]
    split
    · exact h.isHeap.insert _
    · exact h.isHeap
  · simp only [Worklist.enter]
    split
    · rw [Heap.insert, (Heap.toList_merge _ _).nodup_iff, List.nodup_append]
      refine ⟨h.nodup, by simp [Heap.toList], ?_⟩
      intro other hother new hnew heq
      simp only [Heap.toList, List.append_nil, List.mem_singleton] at hnew
      subst heq hnew
      exact hfresh hother
    · exact h.nodup
  · intro position
    have hold := h.ready position
    simp only [Worklist.enter, hplaced, List.not_mem_nil, not_false_eq_true, true_and,
      hready, exists_append_item] at hold ⊢
    split
    · rename_i hitem
      rw [Heap.mem_insert, hold, hsize]
      exact or_congr_right (and_iff_left hitem).symm
    · rename_i hitem
      rw [hold]
      exact (or_iff_left fun hlast => hitem hlast.2).symm
  · simp [Worklist.enter, hplaced]
  · simp only [Worklist.enter, Array.toList_push, h.unmet, List.map_append, List.map_cons,
      List.map_nil, Item.missing]
  · intro name hname
    obtain ⟨hnodup, hmem⟩ := h.waiting name hname
    have hmissing : name ∈ (item.needs.diff work.listed).names ↔ name ∈ item.needs := by
      rw [← NameSet.mem_iff, NameSet.mem_diff]
      exact and_iff_left hname
    simp only [Worklist.enter]
    rw [getD_waiting (item.needs.diff work.listed).nodup_names]
    simp only [hmissing, exists_append_item]
    split
    · rename_i hneeds
      refine ⟨List.nodup_cons.2 ⟨?_, hnodup⟩, fun position => ?_⟩
      · rw [hmem]
        rintro ⟨other, hother, -⟩
        have := (List.getElem?_eq_some_iff.1 hother).1
        omega
      · rw [List.mem_cons, hmem, hsize, or_comm]
        exact or_congr_right (and_iff_left hneeds).symm
    · rename_i hneeds
      refine ⟨hnodup, fun position => ?_⟩
      rw [hmem]
      exact (or_iff_left fun hlast => hneeds hlast.2).symm

theorem tracks_foldl_enter (items : List Item) {done : List Item} {work : Worklist}
    {available : NameSet} (h : Tracks done work) (hplaced : work.placed = [])
    (hlisted : work.listed = available) :
    Tracks (done ++ items) (items.foldl (Worklist.enter available) work) := by
  induction items generalizing done work with
  | nil => simpa using h
  | cons item items ih =>
    subst hlisted
    rw [List.foldl_cons, List.append_cons]
    exact ih (h.enter hplaced item) hplaced rfl

/-- Before the first placement the worklist is in step. -/
theorem tracks_start (available : NameSet) (items : List Item) :
    Tracks items (start available items) :=
  tracks_foldl_enter items (tracks_initial available) rfl rfl

theorem foldl_enter_keeps (available : NameSet) (items : List Item) (work : Worklist) :
    (items.foldl (Worklist.enter available) work).listed = work.listed ∧
      (items.foldl (Worklist.enter available) work).placed = work.placed := by
  induction items generalizing work with
  | nil => exact ⟨rfl, rfl⟩
  | cons item items ih => exact ih (Worklist.enter available work item)

/-! ## Placing an item -/

/-- Taking the least position out of the heap and placing it, without listing its
name yet. -/
theorem Tracks.take {items : List Item} {work : Worklist} (h : Tracks items work)
    {position : Nat} {ready : Heap} (hpop : work.ready.pop? = some (position, ready)) :
    Tracks items { work with ready := ready, placed := position :: work.placed } := by
  have hperm := Heap.toList_pop hpop
  obtain ⟨hnot, hnodup⟩ := List.nodup_cons.1 (hperm.nodup_iff.1 h.nodup)
  refine ⟨(h.isHeap.pop hpop).1, hnodup, ?_, ?_, h.unmet, h.waiting⟩
  · intro other
    have hmem : other ∈ work.ready.toList ↔ other = position ∨ other ∈ ready.toList := by
      rw [hperm.mem_iff, List.mem_cons]
    rw [h.ready] at hmem
    simp only [List.mem_cons, not_or]
    constructor
    · intro hother
      obtain ⟨hplaced, hitem⟩ := hmem.2 (.inr hother)
      refine ⟨⟨?_, hplaced⟩, hitem⟩
      rintro rfl
      exact hnot hother
    · rintro ⟨⟨hne, hplaced⟩, hitem⟩
      exact (hmem.1 ⟨hplaced, hitem⟩).resolve_left hne
  · intro other hother
    rcases List.mem_cons.1 hother with rfl | hother
    · exact ((h.ready other).1 (hperm.mem_iff.2 List.mem_cons_self)).2
    · exact h.placed other hother

theorem Tracks.unmet_eq_some {items : List Item} {work : Worklist} (h : Tracks items work)
    {position count : Nat} : work.unmet[position]? = some count ↔
      ∃ item, items[position]? = some item ∧ item.missing work.listed = count := by
  rw [← Array.getElem?_toList, h.unmet, List.getElem?_map, Option.map_eq_some_iff]

/-- Listing a new name and settling the items that waited for it. -/
theorem Tracks.list {items : List Item} {work : Worklist} (h : Tracks items work)
    {name : String} (hname : name ∉ work.listed) {result : Heap × Array Nat}
    (hresult : (work.waiting.getD name []).foldl settle (work.ready, work.unmet) = result) :
    Tracks items
      { work with
        ready := result.1
        unmet := result.2
        waiting := work.waiting.erase name
        listed := work.listed.insert name } := by
  obtain ⟨hnodup, hwaiting⟩ := h.waiting name hname
  -- An item that still misses a name is neither in the heap nor placed.
  have hmissing : ∀ position, work.unmet[position]? = some 1 →
      position ∉ work.ready.toList ∧ position ∉ work.placed := by
    intro position hone
    obtain ⟨item, hitem, hcount⟩ := h.unmet_eq_some.1 hone
    have hnot : ¬ ∃ other, items[position]? = some other ∧ other.isReady work.listed = true := by
      rintro ⟨other, hother, hr⟩
      rw [hitem] at hother
      cases hother
      rw [Item.missing_eq_zero_iff.2 hr] at hcount
      cases hcount
    exact ⟨fun hmem => hnot ((h.ready position).1 hmem).2,
      fun hmem => hnot (h.placed position hmem)⟩
  have settled : Settled (work.waiting.getD name []) (work.ready, work.unmet) result := by
    rw [← hresult]
    exact settled_foldl hnodup h.isHeap h.nodup fun position _ hone => (hmissing position hone).1
  constructor
  · exact settled.isHeap
  · exact settled.nodup
  · intro position
    rw [settled.ready, h.ready, hwaiting, h.unmet_eq_some]
    simp only [Item.isReady_insert_iff hname]
    constructor
    · rintro (⟨hplaced, item, hitem, hr⟩ | ⟨⟨item, hitem, hneeds⟩, other, hother, hone⟩)
      · exact ⟨hplaced, item, hitem, .inl hr⟩
      · rw [hitem] at hother
        cases hother
        have hunmet := h.unmet_eq_some.2 ⟨item, hitem, hone⟩
        exact ⟨(hmissing position hunmet).2, item, hitem, .inr ⟨hneeds, hone⟩⟩
    · rintro ⟨hplaced, item, hitem, hr | ⟨hneeds, hone⟩⟩
      · exact .inl ⟨hplaced, item, hitem, hr⟩
      · exact .inr ⟨⟨item, hitem, hneeds⟩, item, hitem, hone⟩
  · intro position hposition
    obtain ⟨item, hitem, hr⟩ := h.placed position hposition
    exact ⟨item, hitem, (Item.isReady_insert_iff hname).2 (.inl hr)⟩
  · apply List.ext_getElem?
    intro position
    rw [Array.getElem?_toList, settled.unmet, ← Array.getElem?_toList, h.unmet, List.getElem?_map,
      List.getElem?_map]
    cases hitem : items[position]? with
    | none => simp
    | some item =>
      have hmem : position ∈ work.waiting.getD name [] ↔ name ∈ item.needs := by
        rw [hwaiting, hitem]
        simp
      simp only [hmem, Option.map_some, Item.missing_insert hname]
      split <;> rfl
  · intro other hother
    obtain ⟨hne, hlisted⟩ := not_or.1 (mt NameSet.mem_insert.2 hother)
    simp only [Std.HashMap.getD_erase, beq_iff_eq, Ne.symm hne, if_false]
    exact h.waiting other hlisted

theorem listed_place (work : Worklist) (position : Nat) (name : String) (ready : Heap) :
    (work.place position name ready).listed = work.listed.insert name := by
  simp only [place]
  split
  · rename_i hmem
    ext other
    rw [NameSet.mem_insert]
    refine ⟨.inr, ?_⟩
    rintro (rfl | hother)
    · exact hmem
    · exact hother
  · rfl

theorem placed_place (work : Worklist) (position : Nat) (name : String) (ready : Heap) :
    (work.place position name ready).placed = position :: work.placed := by
  simp only [place]
  split <;> rfl

/-- Placing the least position of the heap keeps the worklist in step. -/
theorem Tracks.place {items : List Item} {work : Worklist} (h : Tracks items work)
    {position : Nat} {ready : Heap} (hpop : work.ready.pop? = some (position, ready))
    (name : String) : Tracks items (work.place position name ready) := by
  have htaken := h.take hpop
  simp only [Worklist.place]
  split
  · exact htaken
  · rename_i hname
    exact htaken.list hname rfl

/-! ## A whole run -/

/-- The items that are not placed, with their positions, in the order of the
input. -/
def leftOver (items : List Item) (placed : List Nat) : List (Item × Nat) :=
  items.zipIdx.filter fun entry => decide (entry.2 ∉ placed)

theorem mem_leftOver {items : List Item} {placed : List Nat} {item : Item} {position : Nat} :
    (item, position) ∈ leftOver items placed ↔
      items[position]? = some item ∧ position ∉ placed := by
  simp [leftOver, List.mk_mem_zipIdx_iff_getElem?]

theorem leftOver_nil (items : List Item) : leftOver items [] = items.zipIdx := by
  simp [leftOver]

theorem leftOver_increasing (items : List Item) (placed : List Nat) :
    (leftOver items placed).Pairwise fun entry other => entry.2 < other.2 := by
  refine List.Pairwise.filter _ ?_
  rw [← List.pairwise_map, List.zipIdx_map_snd]
  exact List.pairwise_lt_range'

/-- Placing one more position takes its item out of what is left over. -/
theorem leftOver_cons {items : List Item} {placed : List Nat} {position : Nat}
    {found : Item × Nat} {before after : List (Item × Nat)}
    (hsplit : leftOver items placed = before ++ found :: after) (hfound : found.2 = position) :
    leftOver items (position :: placed) = before ++ after := by
  have hincreasing := leftOver_increasing items placed
  rw [hsplit, List.pairwise_append] at hincreasing
  obtain ⟨-, hafter, hbefore⟩ := hincreasing
  have hfilter : leftOver items (position :: placed) =
      (leftOver items placed).filter fun entry => decide (entry.2 ≠ position) := by
    simp only [leftOver, List.filter_filter, List.mem_cons, not_or]
    congr 1
    funext entry
    exact Bool.decide_and _ _
  rw [hfilter, hsplit, List.filter_append, List.filter_cons_of_neg (by simp [hfound])]
  congr 1
  · refine List.filter_eq_self.2 fun entry hentry => ?_
    have hlt := hbefore entry hentry found List.mem_cons_self
    exact decide_eq_true (by omega)
  · refine List.filter_eq_self.2 fun entry hentry => ?_
    have hlt := (List.pairwise_cons.1 hafter).1 entry hentry
    exact decide_eq_true (by omega)

/-- The least position of the heap is that of the first item which a scan of what
is left over finds ready. -/
theorem Tracks.find?_eq {items : List Item} {work : Worklist} (h : Tracks items work)
    {position : Nat} {ready : Heap} (hpop : work.ready.pop? = some (position, ready))
    {item : Item} (hitem : items[position]? = some item) :
    (leftOver items work.placed).find? (·.1.isReady work.listed) = some (item, position) := by
  have hleast : position ∈ work.ready.toList :=
    (Heap.toList_pop hpop).mem_iff.2 List.mem_cons_self
  obtain ⟨hnot, other, hother, hr⟩ := (h.ready position).1 hleast
  rw [hitem] at hother
  cases hother
  have hmem := mem_leftOver.2 ⟨hitem, hnot⟩
  cases hfind : (leftOver items work.placed).find? (·.1.isReady work.listed) with
  | none => exact absurd hr (List.find?_eq_none.1 hfind _ hmem)
  | some found =>
    obtain ⟨other, first⟩ := found
    obtain ⟨before, after, hsplit, -, hfirst, hbefore⟩ := first_ready hfind
    obtain ⟨hother, hunplaced⟩ := mem_leftOver.1 (hsplit ▸ List.mem_append_right before
      List.mem_cons_self : (other, first) ∈ leftOver items work.placed)
    -- The heap holds the position that was found, so its least one is not greater.
    have hle : position ≤ first := by
      have hheap := (h.ready first).2 ⟨hunplaced, other, hother, hfirst⟩
      rcases List.mem_cons.1 ((Heap.toList_pop hpop).mem_iff.1 hheap) with heq | hrest
      · exact Nat.le_of_eq heq.symm
      · exact (h.isHeap.pop hpop).2 first hrest
    rw [hsplit, List.mem_append] at hmem
    rcases hmem with hmem | hmem
    · exact absurd hr (by simpa using hbefore _ hmem)
    · rcases List.mem_cons.1 hmem with heq | hmem
      · rw [heq]
      · have hincreasing := leftOver_increasing items work.placed
        rw [hsplit, List.pairwise_append] at hincreasing
        have hlt := (List.pairwise_cons.1 hincreasing.2.1).1 _ hmem
        exact absurd hlt (Nat.not_lt.2 hle)

/-- The worklist places what rescanning places, in the same order. -/
theorem Tracks.run_eq {items : List Item} {work : Worklist} (h : Tracks items work) :
    (run items.toArray work).placed =
      (rescan work.listed (leftOver items work.placed)).order.reverse ++ work.placed := by
  fun_induction run items.toArray work with
  | case1 work hpop =>
    have hnone : (leftOver items work.placed).find? (·.1.isReady work.listed) = none := by
      rw [List.find?_eq_none]
      rintro ⟨item, position⟩ hmem hr
      obtain ⟨hitem, hnot⟩ := mem_leftOver.1 hmem
      have hready := (h.ready position).2 ⟨hnot, item, hitem, hr⟩
      rw [Heap.toList_of_pop_none hpop] at hready
      cases hready
    rw [rescan_of_none hnone]
    rfl
  | case2 work position ready hpop hitem ih =>
    have hlt := h.lt_of_ready ((Heap.toList_pop hpop).mem_iff.2 List.mem_cons_self)
    rw [List.getElem?_toArray, List.getElem?_eq_getElem hlt] at hitem
    cases hitem
  | case3 work position ready hpop item hitem ih =>
    rw [List.getElem?_toArray] at hitem
    have hfind := h.find?_eq hpop hitem
    obtain ⟨before, after, hsplit, herase, -, -⟩ := first_ready hfind
    rw [ih (h.place hpop item.name), listed_place, placed_place, rescan_of_some hfind, herase,
      leftOver_cons hsplit rfl]
    simp

/-- From the start, the worklist places what rescanning places. -/
theorem placed_run_start (available : NameSet) (items : List Item) :
    ((start available items).run items.toArray).placed.reverse =
      (rescan available items.zipIdx).order := by
  obtain ⟨hlisted, hplaced⟩ := foldl_enter_keeps available items (initial available)
  have hrun := (tracks_start available items).run_eq
  rw [start, hlisted, hplaced] at hrun
  rw [start, hrun]
  simp [initial, leftOver_nil]

end Worklist

/-! ## The refinement -/

/-- All items are placed when nothing is stuck. -/
theorem length_order_eq_iff (available : NameSet) (items : List Item) :
    (rescan available items.zipIdx).order.length = items.length ↔
      (rescan available items.zipIdx).stuck = [] := by
  have hlength := length_rescan available items.zipIdx
  rw [List.length_zipIdx] at hlength
  rw [← List.length_eq_zero_iff]
  omega

/-- The worklist succeeds exactly when rescanning leaves nothing over, and then
with the same order. -/
theorem positions_eq_ok_iff {available : NameSet} {items : List Item} {order : List Nat} :
    positions available items = .ok order ↔
      (rescan available items.zipIdx).stuck = [] ∧
        (rescan available items.zipIdx).order = order := by
  have hplaced := Worklist.placed_run_start available items
  rw [← length_order_eq_iff, ← hplaced, List.length_reverse]
  simp only [positions]
  split
  · rename_i hlength
    simp [hlength]
  · rename_i hlength
    simp [hlength]

/-- The worklist refines rescanning from the front: it yields the same positions
in the same order, and reports a deadlock exactly when rescanning gets stuck
while items remain. -/
theorem positions_refines_rescan (available : NameSet) (items : List Item) :
    match rescan available items.zipIdx with
    | ⟨order, []⟩ => positions available items = .ok order
    | ⟨_, _ :: _⟩ => ∃ deadlock, positions available items = .error deadlock := by
  match hrescan : rescan available items.zipIdx with
  | ⟨order, []⟩ =>
    exact positions_eq_ok_iff.2 ⟨by rw [hrescan], by rw [hrescan]⟩
  | ⟨order, entry :: stuck⟩ =>
    cases hpositions : positions available items with
    | error deadlock => exact ⟨deadlock, rfl⟩
    | ok order =>
      have hstuck := (positions_eq_ok_iff.1 hpositions).1
      rw [hrescan] at hstuck
      cases hstuck

end VulkanBindings.Order
