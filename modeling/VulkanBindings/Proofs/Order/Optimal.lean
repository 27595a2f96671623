import VulkanBindings.Proofs.Order.Tracking

/-!
# The order is the least valid one

An order of positions is valid when every item comes after all that it needs.
Rescanning places the least position that can be placed at all, so its order is
not greater than any valid one in the lexicographic sense
(`rescan_least`).  And it is never stuck where a valid order goes on: placing an
item that is ready early leaves a valid order of the rest (`Legal.place_early`),
so a valid order of everything stays within reach.

`valid_of_positions` and `positions_of_valid` carry both over to the worklist, and
`positions_of_inOrder` says that it leaves a list which is in order as it is.
-/

namespace VulkanBindings.Order

/-! ## Valid orders -/

/-- Each item of `order` needs only names that are available or that belong to
items placed strictly earlier, and every position of the input occurs once. -/
structure Valid (available : NameSet) (items : List Item) (order : List Nat) : Prop where
  perm : order.Perm (List.range items.length)
  needs : ∀ before position after, order = before ++ position :: after →
    ∀ item, items[position]? = some item → ∀ name ∈ item.needs,
      name ∈ available ∨ ∃ earlier ∈ before, ∃ other, items[earlier]? = some other ∧
        other.name = name

/-- Each item is ready when its turn comes, the names of those before it being
listed by then. -/
def Legal (items : List Item) (listed : NameSet) : List Nat → Prop
  | [] => True
  | position :: rest => ∃ item, items[position]? = some item ∧ item.isReady listed = true ∧
      Legal items (listed.insert item.name) rest

namespace Legal

variable {items : List Item} {listed more : NameSet} {order : List Nat}

/-- Listing more names makes no order worse. -/
theorem mono (h : Legal items listed order) (hmore : ∀ name ∈ listed, name ∈ more) :
    Legal items more order := by
  induction order generalizing listed more with
  | nil => trivial
  | cons position rest ih =>
    obtain ⟨item, hitem, hready, hrest⟩ := h
    refine ⟨item, hitem, ?_, ih hrest ?_⟩
    · rw [Item.isReady_iff] at hready ⊢
      exact fun name hname => hmore name (hready name hname)
    · intro name hname
      rw [NameSet.mem_insert] at hname ⊢
      exact hname.imp_right (hmore name)

/-- An item may be placed early: the others keep their order. -/
theorem place_early (h : Legal items listed order) {position : Nat} {item : Item}
    (hitem : items[position]? = some item) :
    Legal items (listed.insert item.name) (order.erase position) := by
  induction order generalizing listed with
  | nil => trivial
  | cons first rest ih =>
    obtain ⟨other, hother, hready, hrest⟩ := h
    by_cases heq : first = position
    · subst heq
      rw [hitem] at hother
      cases hother
      rw [List.erase_cons_head]
      exact hrest
    · rw [List.erase_cons_tail (by simpa using heq)]
      refine ⟨other, hother, ?_, ?_⟩
      · rw [Item.isReady_iff] at hready ⊢
        exact fun name hname => NameSet.mem_insert.2 (.inr (hready name hname))
      · refine (ih hrest).mono fun name hname => ?_
        simp only [NameSet.mem_insert] at hname ⊢
        rcases hname with hname | hname | hname
        · exact .inr (.inl hname)
        · exact .inl hname
        · exact .inr (.inr hname)

/-- In a legal order every item comes after all that it needs. -/
theorem needs_earlier (h : Legal items listed order) {before after : List Nat} {position : Nat}
    (hsplit : order = before ++ position :: after) {item : Item}
    (hitem : items[position]? = some item) {name : String} (hname : name ∈ item.needs) :
    name ∈ listed ∨ ∃ earlier ∈ before, ∃ other, items[earlier]? = some other ∧
      other.name = name := by
  induction before generalizing listed order with
  | nil =>
    subst hsplit
    obtain ⟨other, hother, hready, -⟩ := h
    rw [hitem] at hother
    cases hother
    exact .inl (Item.isReady_iff.1 hready name hname)
  | cons first before ih =>
    subst hsplit
    obtain ⟨other, hother, -, hrest⟩ := h
    rcases ih hrest rfl with hlisted | ⟨earlier, hearlier, found⟩
    · rcases NameSet.mem_insert.1 hlisted with rfl | hlisted
      · exact .inr ⟨first, List.mem_cons_self, other, hother, rfl⟩
      · exact .inl hlisted
    · exact .inr ⟨earlier, List.mem_cons_of_mem _ hearlier, found⟩

/-- An order in which every item comes after all that it needs is legal. -/
theorem of_needs_earlier (hmem : ∀ position ∈ order, position < items.length)
    (h : ∀ before position after, order = before ++ position :: after →
      ∀ item, items[position]? = some item → ∀ name ∈ item.needs,
        name ∈ listed ∨ ∃ earlier ∈ before, ∃ other, items[earlier]? = some other ∧
          other.name = name) :
    Legal items listed order := by
  induction order generalizing listed with
  | nil => trivial
  | cons first rest ih =>
    have hlt := hmem first List.mem_cons_self
    refine ⟨items[first], List.getElem?_eq_getElem hlt, ?_, ?_⟩
    · rw [Item.isReady_iff]
      intro name hname
      have hfirst := h [] first rest rfl items[first] (List.getElem?_eq_getElem hlt) name hname
      simpa using hfirst
    · refine ih (fun position hposition => hmem position (List.mem_cons_of_mem _ hposition)) ?_
      rintro before position after rfl item hitem name hname
      rcases h (first :: before) position after rfl item hitem name hname with
        hlisted | ⟨earlier, hearlier, other, hother, rfl⟩
      · exact .inl (NameSet.mem_insert.2 (.inr hlisted))
      · rcases List.mem_cons.1 hearlier with rfl | hearlier
        · rw [List.getElem?_eq_getElem hlt] at hother
          cases hother
          exact .inl (NameSet.mem_insert.2 (.inl rfl))
        · exact .inr ⟨earlier, hearlier, other, hother, rfl⟩

end Legal

theorem valid_iff_legal {available : NameSet} {items : List Item} {order : List Nat} :
    Valid available items order ↔
      order.Perm (List.range items.length) ∧ Legal items available order := by
  constructor
  · rintro ⟨hperm, hneeds⟩
    refine ⟨hperm, Legal.of_needs_earlier (fun position hposition => ?_) hneeds⟩
    exact List.mem_range.1 (hperm.mem_iff.1 hposition)
  · rintro ⟨hperm, hlegal⟩
    exact ⟨hperm, fun before position after hsplit item hitem name hname =>
      hlegal.needs_earlier hsplit hitem hname⟩

/-! ## What rescanning yields -/

/-- Some items of the input with their positions, in the order of the input. -/
structure Numbered (items : List Item) (remaining : List (Item × Nat)) : Prop where
  item : ∀ entry ∈ remaining, items[entry.2]? = some entry.1
  increasing : remaining.Pairwise fun entry other => entry.2 < other.2

namespace Numbered

variable {items : List Item} {before after : List (Item × Nat)} {found : Item × Nat}

theorem zipIdx (items : List Item) : Numbered items items.zipIdx where
  item := fun _ hentry => List.mk_mem_zipIdx_iff_getElem?.1 hentry
  increasing := by
    have hincreasing := Worklist.leftOver_increasing items []
    rwa [Worklist.leftOver_nil] at hincreasing

/-- Taking one item out. -/
theorem erase (h : Numbered items (before ++ found :: after)) :
    Numbered items (before ++ after) where
  item := by
    intro entry hentry
    refine h.item entry ?_
    rcases List.mem_append.1 hentry with hentry | hentry
    · exact List.mem_append_left _ hentry
    · exact List.mem_append_right _ (List.mem_cons_of_mem _ hentry)
  increasing := h.increasing.sublist
    (List.Sublist.append_left (List.sublist_cons_self found after) before)

/-- Where no item before `found` is ready, `found` has the least position of all
that are. -/
theorem le_of_ready {listed : NameSet} (h : Numbered items (before ++ found :: after))
    (hbefore : ∀ entry ∈ before, entry.1.isReady listed = false) {position : Nat} {item : Item}
    (hmem : position ∈ (before ++ found :: after).map (·.2))
    (hitem : items[position]? = some item) (hready : item.isReady listed = true) :
    found.2 ≤ position := by
  obtain ⟨entry, hentry, rfl⟩ := List.mem_map.1 hmem
  have hsame := h.item entry hentry
  rw [hitem] at hsame
  cases hsame
  rcases List.mem_append.1 hentry with hentry | hentry
  · rw [hbefore entry hentry] at hready
    cases hready
  · rcases List.mem_cons.1 hentry with rfl | hentry
    · exact Nat.le_refl _
    · have hincreasing := (List.pairwise_append.1 h.increasing).2.1
      exact Nat.le_of_lt ((List.pairwise_cons.1 hincreasing).1 entry hentry)

end Numbered

variable {items : List Item} {listed : NameSet} {remaining : List (Item × Nat)}

/-- The positions that rescanning places are in a legal order. -/
theorem rescan_legal (h : Numbered items remaining) :
    Legal items listed (rescan listed remaining).order := by
  fun_induction rescan listed remaining with
  | case1 listed remaining hnone => trivial
  | case2 listed remaining item position hfound rest ih =>
    obtain ⟨before, after, rfl, herase, hready, -⟩ := first_ready hfound
    have hitem := h.item (item, position) (List.mem_append_right _ List.mem_cons_self)
    rw [herase] at ih
    refine ⟨item, hitem, hready, ?_⟩
    simp only [rest, herase]
    exact ih h.erase

/-- The positions of the rest, once the item that was found is taken out. -/
theorem perm_erase_found {before after : List (Item × Nat)} {found : Item × Nat}
    {order : List Nat} (h : order.Perm ((before ++ found :: after).map (·.2))) :
    (order.erase found.2).Perm ((before ++ after).map (·.2)) := by
  have hsplit : ((before ++ found :: after).map (·.2)).Perm
      (found.2 :: (before ++ after).map (·.2)) := by
    rw [List.map_append, List.map_cons, List.map_append]
    exact List.perm_middle
  have herase := (h.trans hsplit).erase found.2
  rwa [List.erase_cons_head] at herase

/-- No legal order of what remains is less than the one that rescanning finds. -/
theorem rescan_least (h : Numbered items remaining) {other : List Nat}
    (hperm : other.Perm (remaining.map (·.2))) (hlegal : Legal items listed other) :
    (rescan listed remaining).order = other ∨
      List.Lex (· < ·) (rescan listed remaining).order other := by
  fun_induction rescan listed remaining generalizing other with
  | case1 listed remaining hnone =>
    cases other with
    | nil => exact .inl rfl
    | cons first other => exact .inr .nil
  | case2 listed remaining item position hfound rest ih =>
    obtain ⟨before, after, rfl, herase, -, hbefore⟩ := first_ready hfound
    cases other with
    | nil =>
      have hempty := hperm.symm.eq_nil
      simp at hempty
    | cons first other =>
      obtain ⟨firstItem, hfirst, hready, hrest⟩ := hlegal
      have hle := h.le_of_ready hbefore (hperm.mem_iff.1 List.mem_cons_self) hfirst hready
      rcases Nat.lt_or_eq_of_le hle with hlt | heq
      · exact .inr (.rel hlt)
      · subst heq
        have hitem := h.item (item, position) (List.mem_append_right _ List.mem_cons_self)
        rw [hfirst] at hitem
        cases hitem
        have hothers := perm_erase_found hperm
        rw [List.erase_cons_head] at hothers
        rw [herase] at ih
        simp only [rest, herase]
        rcases ih h.erase hothers hrest with heq | hlex
        · exact .inl (by rw [heq])
        · exact .inr (.cons hlex)

/-- Rescanning does not get stuck where a legal order goes on to the end. -/
theorem rescan_complete (h : Numbered items remaining) {other : List Nat}
    (hperm : other.Perm (remaining.map (·.2))) (hlegal : Legal items listed other) :
    (rescan listed remaining).stuck = [] := by
  fun_induction rescan listed remaining generalizing other with
  | case1 listed remaining hnone =>
    cases other with
    | nil => simpa using hperm.symm.eq_nil
    | cons first other =>
      obtain ⟨item, hitem, hready, -⟩ := hlegal
      obtain ⟨entry, hentry, rfl⟩ := List.mem_map.1 (hperm.mem_iff.1 List.mem_cons_self)
      rw [h.item entry hentry] at hitem
      cases hitem
      exact absurd hready (List.find?_eq_none.1 hnone entry hentry)
  | case2 listed remaining item position hfound rest ih =>
    obtain ⟨before, after, rfl, herase, -, -⟩ := first_ready hfound
    have hitem := h.item (item, position) (List.mem_append_right _ List.mem_cons_self)
    rw [herase] at ih
    simp only [rest, herase]
    exact ih h.erase (perm_erase_found hperm) (hlegal.place_early hitem)

/-! ## Items that are in order already -/

/-- Every item of the list needs only listed names and names of earlier items. -/
def InOrder (listed : NameSet) : List Item → Prop
  | [] => True
  | item :: rest => item.isReady listed = true ∧ InOrder (listed.insert item.name) rest

instance decidableInOrder : (listed : NameSet) → (items : List Item) →
    Decidable (InOrder listed items)
  | _, [] => isTrue trivial
  | listed, item :: rest =>
    have := decidableInOrder (listed.insert item.name) rest
    inferInstanceAs (Decidable (_ ∧ _))

/-- What an item of an ordered list needs is listed, or stands before it. -/
theorem InOrder.needs_earlier {listed : NameSet} {before after : List Item} {item : Item}
    (h : InOrder listed (before ++ item :: after)) {name : String} (hname : name ∈ item.needs) :
    name ∈ listed ∨ name ∈ before.map (·.name) := by
  induction before generalizing listed with
  | nil => exact .inl (Item.isReady_iff.1 h.1 name hname)
  | cons first before ih =>
    rw [List.map_cons, List.mem_cons]
    rcases ih h.2 with hlisted | hbefore
    · rcases NameSet.mem_insert.1 hlisted with rfl | hlisted
      · exact .inr (.inl rfl)
      · exact .inl hlisted
    · exact .inr (.inr hbefore)

/-- Putting items into a legal order leaves them in order. -/
theorem Legal.inOrder {order : List Nat} (h : Legal items listed order) :
    InOrder listed (order.filterMap (items[·]?)) := by
  induction order generalizing listed with
  | nil => trivial
  | cons position rest ih =>
    obtain ⟨item, hitem, hready, hrest⟩ := h
    rw [List.filterMap_cons_some hitem]
    exact ⟨hready, ih hrest⟩

/-- A scan of items that are in order always finds the first. -/
theorem rescan_of_inOrder (h : InOrder listed items) (start : Nat) :
    rescan listed (items.zipIdx start) = ⟨List.range' start items.length, []⟩ := by
  induction items generalizing listed start with
  | nil => rw [List.zipIdx_nil, rescan_of_none rfl]; rfl
  | cons item items ih =>
    have hfind : ((item, start) :: items.zipIdx (start + 1)).find? (·.1.isReady listed) =
        some (item, start) := List.find?_cons_of_pos h.1
    have herase : ((item, start) :: items.zipIdx (start + 1)).eraseP (·.1.isReady listed) =
        items.zipIdx (start + 1) := List.eraseP_cons_of_pos h.1
    rw [List.zipIdx_cons, rescan_of_some hfind, herase, ih h.2]
    rfl

theorem positions_of_inOrder {available : NameSet} (h : InOrder available items) :
    positions available items = .ok (List.range items.length) := by
  rw [positions_eq_ok_iff, rescan_of_inOrder h, List.range_eq_range']
  exact ⟨rfl, rfl⟩

theorem filterMap_range {α : Type} (items : List α) :
    (List.range items.length).filterMap (items[·]?) = items := by
  induction items with
  | nil => rfl
  | cons item items ih =>
    rw [List.length_cons, List.range_succ_eq_map, List.filterMap_cons, List.filterMap_map]
    exact congrArg (item :: ·) ih

/-! ## The order of the worklist -/

theorem valid_of_positions {available : NameSet} {order : List Nat}
    (h : positions available items = .ok order) : Valid available items order := by
  obtain ⟨hstuck, rfl⟩ := positions_eq_ok_iff.1 h
  refine valid_iff_legal.2 ⟨?_, rescan_legal (Numbered.zipIdx items)⟩
  have hperm := perm_rescan available items.zipIdx
  rwa [hstuck, List.map_nil, List.append_nil, List.zipIdx_map_snd, ← List.range_eq_range'] at hperm

theorem positions_of_valid {available : NameSet} {other : List Nat}
    (h : Valid available items other) :
    ∃ order, positions available items = .ok order ∧
      (order = other ∨ List.Lex (· < ·) order other) := by
  obtain ⟨hperm, hlegal⟩ := valid_iff_legal.1 h
  rw [List.range_eq_range', ← List.zipIdx_map_snd] at hperm
  refine ⟨(rescan available items.zipIdx).order, ?_, ?_⟩
  · exact positions_eq_ok_iff.2 ⟨rescan_complete (Numbered.zipIdx items) hperm hlegal, rfl⟩
  · exact rescan_least (Numbered.zipIdx items) hperm hlegal

/-- Placing the items in the order of the worklist leaves them in order. -/
theorem inOrder_of_positions {available : NameSet} {order : List Nat}
    (h : positions available items = .ok order) :
    InOrder available (order.filterMap (items[·]?)) :=
  (valid_iff_legal.1 (valid_of_positions h)).2.inOrder

theorem length_filterMap_of_valid {available : NameSet} {order : List Nat}
    (h : Valid available items order) :
    (order.filterMap (items[·]?)).length = items.length := by
  have hperm := h.perm.filterMap (items[·]?)
  rw [filterMap_range] at hperm
  exact hperm.length_eq

/-- The worklist succeeds exactly when a valid order exists, and its order is the
least valid one.  Items that are in a valid order already stay where they are, so
ordering them again changes nothing. -/
theorem positions_optimal (available : NameSet) (items : List Item) :
    ((∃ order, positions available items = .ok order) ↔
      ∃ order, Valid available items order) ∧
    (∀ order, positions available items = .ok order → Valid available items order ∧
      ∀ other, Valid available items other → order = other ∨ List.Lex (· < ·) order other) ∧
    (Valid available items (List.range items.length) →
      positions available items = .ok (List.range items.length)) ∧
    (∀ order, positions available items = .ok order →
      positions available (order.filterMap (items[·]?)) = .ok (List.range items.length)) := by
  refine ⟨⟨?_, ?_⟩, ?_, ?_, ?_⟩
  · rintro ⟨order, horder⟩
    exact ⟨order, valid_of_positions horder⟩
  · rintro ⟨other, hother⟩
    obtain ⟨order, horder, -⟩ := positions_of_valid hother
    exact ⟨order, horder⟩
  · intro order horder
    refine ⟨valid_of_positions horder, fun other hother => ?_⟩
    obtain ⟨least, hleast, hle⟩ := positions_of_valid hother
    rw [horder] at hleast
    cases hleast
    exact hle
  · intro hvalid
    have horder := (valid_iff_legal.1 hvalid).2.inOrder
    rw [filterMap_range] at horder
    exact positions_of_inOrder horder
  · intro order horder
    have hagain := positions_of_inOrder (inOrder_of_positions horder)
    rwa [length_filterMap_of_valid (valid_of_positions horder)] at hagain

end VulkanBindings.Order
