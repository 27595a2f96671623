/-!
# Sets of names

A set of names is the strictly increasing list of its elements, by code point.
So two sets with the same elements are equal (`NameSet.ext`), and walking
through a set is walking through it in sorted order.  The remaining lemmas say
which names each operation's result holds.
-/

namespace VulkanBindings

/-- A finite set of names. -/
structure NameSet where
  names : List String
  increasing : names.Pairwise (· < ·)
  deriving DecidableEq

namespace NameSet

instance : Membership String NameSet where
  mem set name := name ∈ set.names

instance (name : String) (set : NameSet) : Decidable (name ∈ set) :=
  inferInstanceAs (Decidable (name ∈ set.names))

theorem mem_iff {name : String} {set : NameSet} : name ∈ set ↔ name ∈ set.names := Iff.rfl

/-- The set without elements. -/
def empty : NameSet := ⟨[], .nil⟩

instance : EmptyCollection NameSet := ⟨empty⟩

instance : Inhabited NameSet := ⟨empty⟩

@[simp] theorem not_mem_empty (name : String) : name ∉ (∅ : NameSet) := by
  intro h; cases h

/-! ## Adding a name -/

/-- A list of names in increasing order with one more name in its place. -/
def insertName (name : String) : List String → List String
  | [] => [name]
  | first :: rest =>
    if name < first then name :: first :: rest
    else if name = first then first :: rest
    else first :: insertName name rest

theorem mem_insertName {name other : String} {names : List String} :
    other ∈ insertName name names ↔ other = name ∨ other ∈ names := by
  induction names with
  | nil => simp [insertName]
  | cons first rest ih =>
    simp only [insertName]
    split
    · simp
    · split
      · rename_i h; subst h; simp
      · simp only [List.mem_cons, ih]
        constructor
        · rintro (h | h | h) <;> simp [h]
        · rintro (h | h | h) <;> simp [h]

theorem insertName_increasing {name : String} {names : List String}
    (h : names.Pairwise (· < ·)) : (insertName name names).Pairwise (· < ·) := by
  induction names with
  | nil => simp [insertName]
  | cons first rest ih =>
    obtain ⟨hfirst, hrest⟩ := List.pairwise_cons.1 h
    simp only [insertName]
    split
    · rename_i hlt
      refine List.pairwise_cons.2 ⟨fun other hother => ?_, h⟩
      rcases List.mem_cons.1 hother with rfl | hother
      · exact hlt
      · exact String.lt_trans hlt (hfirst other hother)
    · split
      · exact h
      · rename_i hlt hne
        refine List.pairwise_cons.2 ⟨fun other hother => ?_, ih hrest⟩
        rcases mem_insertName.1 hother with rfl | hother
        · exact Std.lt_of_le_of_ne (String.not_lt.1 hlt) (Ne.symm hne)
        · exact hfirst other hother

/-- The set with `name` added. -/
def insert (set : NameSet) (name : String) : NameSet :=
  ⟨insertName name set.names, insertName_increasing set.increasing⟩

@[simp] theorem mem_insert {set : NameSet} {name other : String} :
    other ∈ set.insert name ↔ other = name ∨ other ∈ set :=
  mem_insertName

/-! ## Unions and differences -/

/-- The names of either set. -/
def union (set other : NameSet) : NameSet :=
  other.names.foldl insert set

/-- The names of a list. -/
def ofList (names : List String) : NameSet :=
  names.foldl insert ∅

/-- The names of the set that satisfy `keep`. -/
def filter (set : NameSet) (keep : String → Bool) : NameSet :=
  ⟨set.names.filter keep, set.increasing.filter keep⟩

/-- The names of the set that are not in `other`. -/
def diff (set other : NameSet) : NameSet :=
  set.filter fun name => !decide (name ∈ other)

/-- The set without `name`. -/
def erase (set : NameSet) (name : String) : NameSet :=
  set.filter (· != name)

/-- The number of names. -/
def size (set : NameSet) : Nat :=
  set.names.length

/-- Whether the set has no names. -/
def isEmpty (set : NameSet) : Bool :=
  set.names.isEmpty

theorem mem_foldl_insert {names : List String} {set : NameSet} {name : String} :
    name ∈ names.foldl insert set ↔ name ∈ names ∨ name ∈ set := by
  induction names generalizing set with
  | nil => simp
  | cons first rest ih =>
    simp only [List.foldl_cons, ih, mem_insert, List.mem_cons]
    constructor
    · rintro (h | h | h) <;> simp [h]
    · rintro ((h | h) | h) <;> simp [h]

@[simp] theorem mem_union {set other : NameSet} {name : String} :
    name ∈ set.union other ↔ name ∈ set ∨ name ∈ other := by
  simp only [union, mem_foldl_insert]
  exact Or.comm

@[simp] theorem mem_ofList {names : List String} {name : String} :
    name ∈ ofList names ↔ name ∈ names := by
  simp [ofList, mem_foldl_insert]

theorem ofList_append (names : List String) (name : String) :
    ofList (names ++ [name]) = (ofList names).insert name := by
  unfold ofList
  rw [List.foldl_append, List.foldl_cons, List.foldl_nil]

@[simp] theorem mem_filter {set : NameSet} {keep : String → Bool} {name : String} :
    name ∈ set.filter keep ↔ name ∈ set ∧ keep name := by
  simp [filter, mem_iff]

@[simp] theorem mem_diff {set other : NameSet} {name : String} :
    name ∈ set.diff other ↔ name ∈ set ∧ name ∉ other := by
  simp [diff]

@[simp] theorem mem_erase {set : NameSet} {name other : String} :
    other ∈ set.erase name ↔ other ∈ set ∧ other ≠ name := by
  simp [erase]

/-! ## Sizes -/

theorem nodup_names (set : NameSet) : set.names.Nodup := by
  refine set.increasing.imp ?_
  rintro name other hlt rfl
  exact String.lt_irrefl name hlt

theorem size_erase_of_mem {set : NameSet} {name : String} (h : name ∈ set) :
    (set.erase name).size = set.size - 1 := by
  have herase : (set.erase name).names = set.names.erase name :=
    (set.nodup_names.erase_eq_filter name).symm
  rw [size, herase, List.length_erase_of_mem h, size]

theorem size_erase_of_not_mem {set : NameSet} {name : String} (h : name ∉ set) :
    (set.erase name).size = set.size := by
  have herase : (set.erase name).names = set.names := by
    refine List.filter_eq_self.2 fun other hother => ?_
    exact bne_iff_ne.2 fun heq => h (heq ▸ hother)
  rw [size, herase, size]

/-! ## Sets with the same names are equal -/

theorem names_eq_of_mem_iff {left right : List String} (hleft : left.Pairwise (· < ·))
    (hright : right.Pairwise (· < ·)) (h : ∀ name, name ∈ left ↔ name ∈ right) : left = right := by
  induction left generalizing right with
  | nil =>
    cases right with
    | nil => rfl
    | cons r right => exact absurd ((h r).2 (by simp)) (by simp)
  | cons l left ih =>
    cases right with
    | nil => exact absurd ((h l).1 (by simp)) (by simp)
    | cons r right =>
      obtain ⟨hl, hleftRest⟩ := List.pairwise_cons.1 hleft
      obtain ⟨hr, hrightRest⟩ := List.pairwise_cons.1 hright
      have heq : l = r := by
        rcases List.mem_cons.1 ((h l).1 (by simp)) with hlr | hlr
        · exact hlr
        · rcases List.mem_cons.1 ((h r).2 (by simp)) with hrl | hrl
          · exact hrl.symm
          · exact absurd (hl r hrl) (String.lt_asymm (hr l hlr))
      subst heq
      congr 1
      refine ih hleftRest hrightRest fun name => ?_
      constructor
      · intro hn
        rcases List.mem_cons.1 ((h name).1 (by simp [hn])) with rfl | hn'
        · exact absurd (hl name hn) (String.lt_irrefl name)
        · exact hn'
      · intro hn
        rcases List.mem_cons.1 ((h name).2 (by simp [hn])) with rfl | hn'
        · exact absurd (hr name hn) (String.lt_irrefl name)
        · exact hn'

@[ext] theorem ext {left right : NameSet} (h : ∀ name, name ∈ left ↔ name ∈ right) :
    left = right := by
  cases left; cases right
  simp only [mk.injEq]
  exact names_eq_of_mem_iff (by assumption) (by assumption) h

end NameSet

end VulkanBindings
