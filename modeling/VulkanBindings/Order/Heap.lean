/-!
# Heaps of positions

A heap yields the smallest of the positions put into it first.  It is a binary
tree whose branches change sides whenever two heaps are merged, so that no
balance has to be stored.  `toList_merge` says that merging loses and invents
no position, and `IsHeap.merge` that the smallest one stays at the root.
-/

namespace VulkanBindings.Order

/-- A tree of positions, each in front of those below it. -/
inductive Heap where
  | empty
  | node (least : Nat) (left right : Heap)

namespace Heap

/-- The number of positions. -/
def size : Heap → Nat
  | empty => 0
  | node _ left right => left.size + right.size + 1

/-- The positions, in no particular order. -/
def toList : Heap → List Nat
  | empty => []
  | node least left right => least :: (left.toList ++ right.toList)

/-- The positions of both heaps. -/
def merge : Heap → Heap → Heap
  | empty, heap => heap
  | node least left right, empty => node least left right
  | node least left right, node other otherLeft otherRight =>
    if least ≤ other then
      node least (merge right (node other otherLeft otherRight)) left
    else
      node other (merge (node least left right) otherRight) otherLeft
termination_by heap other => heap.size + other.size
decreasing_by all_goals simp only [size]; omega

/-- The heap with one more position. -/
def insert (heap : Heap) (position : Nat) : Heap :=
  merge heap (node position empty empty)

/-- The position at the root, and the heap without it. -/
def pop? : Heap → Option (Nat × Heap)
  | empty => none
  | node least left right => some (least, merge left right)

/-- No position of the heap is below `bound`. -/
def AtLeast (bound : Nat) (heap : Heap) : Prop :=
  ∀ position ∈ heap.toList, bound ≤ position

/-- Every position is in front of those below it. -/
def IsHeap : Heap → Prop
  | empty => True
  | node least left right => left.AtLeast least ∧ right.AtLeast least ∧ left.IsHeap ∧ right.IsHeap

/-! ## What merging keeps -/

theorem toList_merge (heap other : Heap) :
    (merge heap other).toList.Perm (heap.toList ++ other.toList) := by
  fun_induction merge heap other with
  | case1 other => simp [toList]
  | case2 least left right => simp [toList]
  | case3 least left right other otherLeft otherRight h ih =>
    simp only [toList, List.cons_append]
    refine List.Perm.cons _ ?_
    refine (ih.append_right _).trans ?_
    simp only [toList]
    refine List.perm_append_comm.trans ?_
    simp [List.append_assoc]
  | case4 least left right other otherLeft otherRight h ih =>
    simp only [toList]
    refine (List.Perm.cons _ (ih.append_right _)).trans ?_
    refine List.perm_middle.symm.trans ?_
    simp only [List.append_assoc]
    refine List.Perm.append_left _ ?_
    refine List.perm_middle.trans ?_
    exact List.Perm.cons _ List.perm_append_comm

@[simp] theorem size_eq_length (heap : Heap) : heap.toList.length = heap.size := by
  induction heap with
  | empty => rfl
  | node least left right ihl ihr => simp [toList, size, ihl, ihr]

@[simp] theorem size_merge (heap other : Heap) :
    (merge heap other).size = heap.size + other.size := by
  have h := (toList_merge heap other).length_eq
  simpa using h

@[simp] theorem size_insert (heap : Heap) (position : Nat) :
    (heap.insert position).size = heap.size + 1 := by
  simp [insert, size]

theorem size_pop {heap rest : Heap} {least : Nat} (h : heap.pop? = some (least, rest)) :
    heap.size = rest.size + 1 := by
  cases heap with
  | empty => simp [pop?] at h
  | node first left right =>
    simp only [pop?, Option.some.injEq, Prod.mk.injEq] at h
    obtain ⟨_, rfl⟩ := h
    simp [size]

@[simp] theorem mem_merge {heap other : Heap} {position : Nat} :
    position ∈ (merge heap other).toList ↔ position ∈ heap.toList ∨ position ∈ other.toList := by
  rw [(toList_merge heap other).mem_iff, List.mem_append]

@[simp] theorem mem_insert {heap : Heap} {position other : Nat} :
    other ∈ (heap.insert position).toList ↔ other ∈ heap.toList ∨ other = position := by
  simp [insert, toList]

theorem AtLeast.merge {bound : Nat} {heap other : Heap} (h : heap.AtLeast bound)
    (ho : other.AtLeast bound) : (heap.merge other).AtLeast bound := by
  intro position hp
  rcases mem_merge.1 hp with hp | hp
  · exact h position hp
  · exact ho position hp

theorem AtLeast.mono {bound lower : Nat} {heap : Heap} (h : heap.AtLeast bound)
    (hle : lower ≤ bound) : heap.AtLeast lower :=
  fun position hp => Nat.le_trans hle (h position hp)

theorem atLeast_node {bound least : Nat} {left right : Heap} (hle : bound ≤ least)
    (hl : left.AtLeast least) (hr : right.AtLeast least) :
    (node least left right).AtLeast bound := by
  intro position hp
  simp only [toList, List.mem_cons, List.mem_append] at hp
  rcases hp with rfl | hp | hp
  · exact hle
  · exact Nat.le_trans hle (hl position hp)
  · exact Nat.le_trans hle (hr position hp)

theorem IsHeap.merge {heap other : Heap} (h : heap.IsHeap) (ho : other.IsHeap) :
    (heap.merge other).IsHeap := by
  fun_induction Heap.merge heap other with
  | case1 other => exact ho
  | case2 least left right => exact h
  | case3 least left right other otherLeft otherRight hle ih =>
    have ⟨hl, hr, hhl, hhr⟩ := h
    have ⟨hol, hor, _, _⟩ := ho
    exact ⟨hr.merge (atLeast_node hle hol hor), hl, ih hhr ho, hhl⟩
  | case4 least left right other otherLeft otherRight hle ih =>
    have ⟨hl, hr, _, _⟩ := h
    have ⟨hol, hor, hhol, hhor⟩ := ho
    exact ⟨(atLeast_node (by omega) hl hr).merge hor, hol, ih h hhor, hhol⟩

theorem IsHeap.insert {heap : Heap} (h : heap.IsHeap) (position : Nat) :
    (heap.insert position).IsHeap :=
  h.merge ⟨fun _ hp => by simp [toList] at hp, fun _ hp => by simp [toList] at hp, trivial, trivial⟩

/-! ## Taking the smallest position -/

theorem toList_pop {heap rest : Heap} {least : Nat} (h : heap.pop? = some (least, rest)) :
    heap.toList.Perm (least :: rest.toList) := by
  cases heap with
  | empty => simp [pop?] at h
  | node first left right =>
    simp only [pop?, Option.some.injEq, Prod.mk.injEq] at h
    obtain ⟨rfl, rfl⟩ := h
    exact (toList_merge left right).symm.cons first

theorem IsHeap.pop {heap rest : Heap} {least : Nat} (hheap : heap.IsHeap)
    (h : heap.pop? = some (least, rest)) : rest.IsHeap ∧ rest.AtLeast least := by
  cases heap with
  | empty => simp [pop?] at h
  | node first left right =>
    simp only [pop?, Option.some.injEq, Prod.mk.injEq] at h
    obtain ⟨rfl, rfl⟩ := h
    obtain ⟨hl, hr, hhl, hhr⟩ := hheap
    exact ⟨hhl.merge hhr, hl.merge hr⟩

theorem toList_of_pop_none {heap : Heap} (h : heap.pop? = none) : heap.toList = [] := by
  cases heap with
  | empty => rfl
  | node first left right => simp [pop?] at h

end Heap

end VulkanBindings.Order
