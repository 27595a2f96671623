/-!
# Tables

A table gives values to names and remembers the order in which the names
arrived.  A name has at most one value that is ever looked up: setting it
again replaces the value where it stands.
-/

namespace VulkanBindings

/-- Values by name, in order of arrival. -/
structure Table (α : Type) where
  rows : List (String × α)

namespace Table

variable {α β : Type}

/-- The table without rows. -/
def empty : Table α := ⟨[]⟩

instance : EmptyCollection (Table α) := ⟨empty⟩

instance : Inhabited (Table α) := ⟨empty⟩

/-- The names of the table, in order of arrival. -/
def keys (table : Table α) : List String :=
  table.rows.map (·.1)

/-- The values of the table, in order of arrival. -/
def values (table : Table α) : List α :=
  table.rows.map (·.2)

/-- The value of `name`. -/
def get? (table : Table α) (name : String) : Option α :=
  table.rows.lookup name

/-- Whether `name` has a value. -/
def contains (table : Table α) (name : String) : Bool :=
  (table.get? name).isSome

/-- The rows with the value of `name` set: in its place, or as the last row. -/
def setRow (name : String) (value : α) : List (String × α) → List (String × α)
  | [] => [(name, value)]
  | (key, old) :: rest =>
    if key = name then (key, value) :: rest else (key, old) :: setRow name value rest

/-- The table with the value of `name` set. -/
def set (table : Table α) (name : String) (value : α) : Table α :=
  ⟨setRow name value table.rows⟩

/-- The table with `change` made to the value of `name`, if it has one. -/
def modify (table : Table α) (name : String) (change : α → α) : Table α :=
  ⟨table.rows.map fun (key, value) => (key, if key = name then change value else value)⟩

/-- The table with `change` made to all values. -/
def map (table : Table α) (change : α → β) : Table β :=
  ⟨table.rows.map fun (key, value) => (key, change value)⟩

/-- The table of the rows of a list; of two rows for one name the later holds. -/
def ofList (rows : List (String × α)) : Table α :=
  rows.foldl (fun table (name, value) => table.set name value) ∅

/-- The number of rows. -/
def size (table : Table α) : Nat :=
  table.rows.length

@[simp] theorem get?_empty (name : String) : (∅ : Table α).get? name = none := rfl

theorem lookup_cons {κ : Type} [BEq κ] [LawfulBEq κ] [DecidableEq κ] (name key : κ) (value : α)
    (rows : List (κ × α)) :
    ((key, value) :: rows).lookup name = if name = key then some value else rows.lookup name := by
  by_cases h : name = key
  · simp [h]
  · have hb : (name == key) = false := by simpa using h
    simp [List.lookup_cons, h, hb]

theorem lookup_setRow (name other : String) (value : α) (rows : List (String × α)) :
    (setRow name value rows).lookup other =
      if other = name then some value else rows.lookup other := by
  induction rows with
  | nil => simp [setRow, lookup_cons]
  | cons row rest ih =>
    obtain ⟨key, old⟩ := row
    simp only [setRow]
    by_cases hk : key = name
    · subst hk
      by_cases h : other = key <;> simp [lookup_cons, h]
    · by_cases h : other = key
      · subst h; simp [hk]
      · simp [lookup_cons, hk, h, ih]

@[simp] theorem get?_set (table : Table α) (name other : String) (value : α) :
    (table.set name value).get? other = if other = name then some value else table.get? other :=
  lookup_setRow name other value table.rows

theorem lookup_modifyRows (name other : String) (change : α → α) (rows : List (String × α)) :
    (rows.map fun (key, value) => (key, if key = name then change value else value)).lookup other =
      if other = name then (rows.lookup other).map change else rows.lookup other := by
  induction rows with
  | nil => simp
  | cons row rest ih =>
    obtain ⟨key, old⟩ := row
    rw [List.map_cons, lookup_cons, lookup_cons, ih]
    by_cases h : other = key
    · subst h
      by_cases hn : other = name <;> simp [hn]
    · simp [h]

@[simp] theorem get?_modify (table : Table α) (name other : String) (change : α → α) :
    (table.modify name change).get? other =
      if other = name then (table.get? other).map change else table.get? other :=
  lookup_modifyRows name other change table.rows

@[simp] theorem get?_map (table : Table α) (change : α → β) (name : String) :
    (table.map change).get? name = (table.get? name).map change := by
  unfold get? map
  induction table.rows with
  | nil => rfl
  | cons row rows ih =>
    obtain ⟨key, value⟩ := row
    rw [List.map_cons, lookup_cons, lookup_cons]
    split
    · rfl
    · exact ih

/-! ## Names with a value -/

theorem contains_iff {table : Table α} {name : String} :
    table.contains name = true ↔ ∃ value, table.get? name = some value :=
  Option.isSome_iff_exists

theorem not_contains_iff {table : Table α} {name : String} :
    table.contains name = false ↔ table.get? name = none :=
  Option.isSome_eq_false_iff.trans Option.isNone_iff_eq_none

@[simp] theorem contains_empty (name : String) : (∅ : Table α).contains name = false := rfl

@[simp] theorem contains_set {table : Table α} {name other : String} {value : α} :
    (table.set name value).contains other = true ↔ other = name ∨ table.contains other = true := by
  rw [contains, get?_set]
  split
  · rename_i h
    simp [h]
  · rename_i h
    simp [h, contains]

/-- Setting a name that a table has gives it no other name. -/
theorem contains_of_contains_set {table : Table α} {name other : String} {value : α}
    (hname : table.contains name = true) (hother : (table.set name value).contains other = true) :
    table.contains other = true := by
  rcases contains_set.1 hother with rfl | hold
  · exact hname
  · exact hold

@[simp] theorem contains_modify {table : Table α} {name other : String} {change : α → α} :
    (table.modify name change).contains other = table.contains other := by
  rw [contains, get?_modify]
  split
  · rw [Option.isSome_map, contains]
  · rfl

/-! ## Rows -/

theorem lookup_eq_none_iff {name : String} {rows : List (String × α)} :
    rows.lookup name = none ↔ name ∉ rows.map (·.1) := by
  induction rows with
  | nil => simp
  | cons row rest ih =>
    obtain ⟨key, value⟩ := row
    rw [lookup_cons]
    by_cases h : name = key <;> simp [h, ih]

theorem not_contains_iff_not_mem_keys {table : Table α} {name : String} :
    table.contains name = false ↔ name ∉ table.keys :=
  not_contains_iff.trans lookup_eq_none_iff

theorem mem_rows_of_get? {table : Table α} {name : String} {value : α}
    (h : table.get? name = some value) : (name, value) ∈ table.rows := by
  obtain ⟨before, after, hrows, -⟩ := List.lookup_eq_some_iff.1 h
  rw [hrows]
  exact List.mem_append_right before List.mem_cons_self

/-- Where no two rows are for one name, each row is the one that is looked up. -/
theorem get?_of_mem_rows {table : Table α} (hdistinct : table.keys.Nodup) {name : String}
    {value : α} (h : (name, value) ∈ table.rows) : table.get? name = some value := by
  obtain ⟨rows⟩ := table
  unfold get?
  unfold keys at hdistinct
  dsimp only at h hdistinct ⊢
  induction rows with
  | nil => cases h
  | cons row rest ih =>
    obtain ⟨key, old⟩ := row
    obtain ⟨hkey, hrest⟩ := List.nodup_cons.1 hdistinct
    rw [lookup_cons]
    rcases List.mem_cons.1 h with hrow | hmem
    · obtain ⟨rfl, rfl⟩ := Prod.mk.inj hrow
      exact if_pos rfl
    · rw [if_neg, ih hrest hmem]
      intro heq
      have hname : name ∈ rest.map (·.1) := List.mem_map_of_mem hmem
      exact hkey (heq ▸ hname)

/-- Tables with the same rows have the same values, if no two rows are for one name. -/
theorem get?_congr {table other : Table α} (hperm : table.rows.Perm other.rows)
    (hdistinct : table.keys.Nodup) (name : String) : table.get? name = other.get? name := by
  have hkeys : table.keys.Perm other.keys := hperm.map Prod.fst
  have hother : other.keys.Nodup := hkeys.nodup_iff.1 hdistinct
  ext value
  constructor
  · intro h
    exact get?_of_mem_rows hother (hperm.mem_iff.1 (mem_rows_of_get? h))
  · intro h
    exact get?_of_mem_rows hdistinct (hperm.mem_iff.2 (mem_rows_of_get? h))

theorem setRow_of_not_mem {name : String} {rows : List (String × α)}
    (h : name ∉ rows.map (·.1)) (value : α) : setRow name value rows = rows ++ [(name, value)] := by
  induction rows with
  | nil => rfl
  | cons row rest ih =>
    obtain ⟨key, old⟩ := row
    have hne : key ≠ name := fun heq => h (by simp [heq])
    have hrest : name ∉ rest.map (·.1) := fun hmem => h (List.mem_cons_of_mem _ hmem)
    simp only [setRow, if_neg hne, ih hrest, List.cons_append]

/-- A new name is set in a row of its own, the last one. -/
theorem rows_set_new {table : Table α} {name : String} (h : table.contains name = false)
    (value : α) : (table.set name value).rows = table.rows ++ [(name, value)] :=
  setRow_of_not_mem (not_contains_iff_not_mem_keys.1 h) value

theorem keys_set_new {table : Table α} {name : String} (h : table.contains name = false)
    (value : α) : (table.set name value).keys = table.keys ++ [name] := by
  unfold keys
  rw [rows_set_new h, List.map_append, List.map_singleton]

theorem contains_iff_mem_keys {table : Table α} {name : String} :
    table.contains name = true ↔ name ∈ table.keys := by
  rw [← Bool.not_eq_false, not_contains_iff_not_mem_keys, Classical.not_not]

/-- A name that a table has is set where it stands. -/
theorem map_fst_setRow {name : String} {rows : List (String × α)} (h : name ∈ rows.map (·.1))
    (value : α) : (setRow name value rows).map (·.1) = rows.map (·.1) := by
  induction rows with
  | nil => cases h
  | cons row rest ih =>
    obtain ⟨key, old⟩ := row
    simp only [setRow]
    split
    · rfl
    · rename_i hne
      rcases List.mem_cons.1 h with heq | hrest
      · exact absurd heq.symm hne
      · rw [List.map_cons, List.map_cons, ih hrest]

/-- Setting a name never gives it a second row. -/
theorem nodup_keys_set {table : Table α} (h : table.keys.Nodup) (name : String) (value : α) :
    (table.set name value).keys.Nodup := by
  cases hcontains : table.contains name with
  | true =>
    have hkeys : (table.set name value).keys = table.keys :=
      map_fst_setRow (contains_iff_mem_keys.1 hcontains) value
    rw [hkeys]
    exact h
  | false =>
    rw [keys_set_new hcontains]
    have hnew : name ∉ table.keys := not_contains_iff_not_mem_keys.1 hcontains
    refine List.nodup_append.2 ⟨h, List.pairwise_singleton _ _, ?_⟩
    intro old hold other hother
    rw [List.mem_singleton.1 hother]
    rintro rfl
    exact hnew hold

theorem foldl_set_new {rows : List (String × α)} {table : Table α}
    (hdistinct : (table.keys ++ rows.map (·.1)).Nodup) :
    (rows.foldl (fun table (name, value) => table.set name value) table).rows =
      table.rows ++ rows := by
  induction rows generalizing table with
  | nil => simp
  | cons row rest ih =>
    obtain ⟨name, value⟩ := row
    have hnew : table.contains name = false := by
      rw [not_contains_iff_not_mem_keys]
      intro hmem
      exact (List.nodup_append.1 hdistinct).2.2 name hmem name (by simp) rfl
    rw [List.foldl_cons, ih, rows_set_new hnew]
    · simp
    · rw [keys_set_new hnew]
      simpa using hdistinct

/-- Rows for different names are the rows of their table. -/
theorem rows_ofList {rows : List (String × α)} (hdistinct : (rows.map (·.1)).Nodup) :
    (ofList rows).rows = rows := by
  have hkeys : ((∅ : Table α).keys ++ rows.map (·.1)).Nodup := hdistinct
  exact foldl_set_new hkeys

@[simp] theorem keys_modify (table : Table α) (name : String) (change : α → α) :
    (table.modify name change).keys = table.keys := by
  simp [modify, keys]

theorem nodup_keys_modify {table : Table α} (h : table.keys.Nodup) (name : String)
    (change : α → α) : (table.modify name change).keys.Nodup := by
  rw [keys_modify]
  exact h

/-! ## Tables that keep their entries -/

/-- Every entry of the table has one in the later table that is related to it. -/
def Keeps (related : α → α → Prop) (table later : Table α) : Prop :=
  ∀ name value, table.get? name = some value →
    ∃ value', later.get? name = some value' ∧ related value value'

namespace Keeps

variable {related : α → α → Prop} {table later : Table α}

theorem refl (hrefl : ∀ value, related value value) (table : Table α) : Keeps related table table :=
  fun _ value h => ⟨value, h, hrefl value⟩

theorem set_new (hrefl : ∀ value, related value value) {name : String}
    (hnew : table.contains name = false) (value : α) :
    Keeps related table (table.set name value) := by
  intro other old hold
  refine ⟨old, ?_, hrefl old⟩
  rw [get?_set, if_neg, hold]
  rintro rfl
  rw [not_contains_iff.1 hnew] at hold
  cases hold

theorem set (hrefl : ∀ value, related value value) {name : String} {value : α}
    (h : ∀ old, table.get? name = some old → related old value) :
    Keeps related table (table.set name value) := by
  intro other old hold
  rw [get?_set]
  split
  · rename_i heq
    subst heq
    exact ⟨value, rfl, h old hold⟩
  · exact ⟨old, hold, hrefl old⟩

theorem modify (hrefl : ∀ value, related value value) {change : α → α}
    (h : ∀ value, related value (change value)) (name : String) :
    Keeps related table (table.modify name change) := by
  intro other old hold
  rw [get?_modify, hold]
  split
  · exact ⟨change old, rfl, h old⟩
  · exact ⟨old, rfl, hrefl old⟩

theorem contains (h : Keeps related table later) {name : String}
    (hname : table.contains name = true) : later.contains name = true := by
  obtain ⟨value, hvalue⟩ := contains_iff.1 hname
  obtain ⟨value', hvalue', -⟩ := h name value hvalue
  exact contains_iff.2 ⟨value', hvalue'⟩

end Keeps

end Table

end VulkanBindings
