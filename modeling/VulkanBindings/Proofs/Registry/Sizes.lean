import Mathlib.Algebra.GroupWithZero.Nat
import VulkanBindings.Proofs.Registry.Methods
import VulkanBindings.Proofs.Registry.Mirror

/-!
# Sizes of tables

The tables of a spec and its list of entities are kept apart, and nothing counts them
against each other while a registry is read.  This module says that they are of the same
size all the same.

* No table has two rows for one name.  `DistinctKeys` says so, and every change keeps it
  (`Change.distinctKeys`).
* A table then has as many rows as there are entities of its kind
  (`Consistent.size_of_kind`), because both go by the same names (`countP_eq_length`).
* The lists of all handles together hold each method once, so that their lengths add up to
  the number of methods (`ListsMethods.sum_length`).
-/

namespace VulkanBindings.Registry

namespace Spec

variable {spec : Spec}

/-! ## One row for each name -/

/-- No table of the spec has two rows for one name.  Of the commands `ListsMethods` says it. -/
structure DistinctKeys (spec : Spec) : Prop where
  enums : spec.enums.keys.Nodup
  flags : spec.flags.keys.Nodup
  handles : spec.handles.keys.Nodup
  scalars : spec.scalars.keys.Nodup
  structs : spec.structs.keys.Nodup

theorem distinctKeys_initial : initial.DistinctKeys where
  enums := List.nodup_nil
  flags := List.nodup_nil
  handles := List.nodup_nil
  scalars := List.nodup_nil
  structs := List.nodup_nil

theorem DistinctKeys.withCommand (h : spec.DistinctKeys) (name : String) (command : Command) :
    (spec.withCommand name command).DistinctKeys := by
  unfold Spec.withCommand
  cases command.owner with
  | none => exact { h with }
  | some handle => exact { h with handles := Table.nodup_keys_modify h.handles _ _ }

end Spec

open Spec

/-- Names are only ever set or given other values. -/
theorem Change.distinctKeys {spec later : Spec} (hchange : Change spec later)
    (h : spec.DistinctKeys) : later.DistinctKeys := by
  cases hchange with
  | notes | outside | guardCommand => exact { h with }
  | scalar | guardScalar => exact { h with scalars := Table.nodup_keys_set h.scalars _ _ }
  | enum | guardBits | contribute => exact { h with enums := Table.nodup_keys_set h.enums _ _ }
  | flags | guardFlags => exact { h with flags := Table.nodup_keys_set h.flags _ _ }
  | handle => exact { h with handles := Table.nodup_keys_set h.handles _ _ }
  | aggregate => exact { h with structs := Table.nodup_keys_set h.structs _ _ }
  | command command => exact h.withCommand _ command
  | guardEnum => exact { h with enums := Table.nodup_keys_modify h.enums _ _ }
  | guardAggregate => exact { h with structs := Table.nodup_keys_modify h.structs _ _ }
  | guardHandle => exact { h with handles := Table.nodup_keys_modify h.handles _ _ }

theorem Changes.distinctKeys {spec later : Spec} (h : Changes spec later)
    (hspec : spec.DistinctKeys) : later.DistinctKeys := by
  induction h with
  | refl => exact hspec
  | tail _ hchange ih => exact hchange.distinctKeys ih

namespace Spec

variable {spec : Spec} {name handle : String}

/-! ## Tables and entities -/

/-- Entities with different names are as many as the names that stand for them. -/
theorem countP_eq_length {entities : List Entity} {keep : Entity → Bool} {names : List String}
    (hentities : (entities.map (·.name)).Nodup) (hnames : names.Nodup)
    (h : ∀ name, name ∈ names ↔ ∃ entity ∈ entities, entity.name = name ∧ keep entity = true) :
    entities.countP keep = names.length := by
  have hkept : ((entities.filter keep).map (·.name)).Nodup :=
    (List.filter_sublist.map _).nodup hentities
  have hsame : ∀ name, name ∈ (entities.filter keep).map (·.name) ↔ name ∈ names := by
    intro name
    rw [h name, List.mem_map]
    refine exists_congr fun entity => ?_
    rw [List.mem_filter, and_assoc, and_comm (a := keep entity = true)]
  have hperm := (List.perm_ext_iff_of_nodup hkept hnames).2 hsame
  rw [List.countP_eq_length_filter, ← hperm.length_eq, List.length_map]

/-- A table has a row for each entity that it has an entry for. -/
theorem Consistent.size_eq_countP (h : spec.Consistent) {α : Type} {table : Table α}
    {keep : Entity → Bool} (hkeys : table.keys.Nodup)
    (htable : ∀ name, table.contains name = true ↔
      ∃ entity ∈ spec.entities, entity.name = name ∧ keep entity = true) :
    table.size = spec.entities.countP keep := by
  have hlength : table.size = table.keys.length := (List.length_map _).symm
  rw [hlength]
  symm
  apply countP_eq_length h.distinct hkeys
  intro name
  rw [← Table.contains_iff_mem_keys]
  exact htable name

/-- Where the table is that of a kind, the entities are those of the kind. -/
theorem Consistent.size_of_kind (h : spec.Consistent) {α : Type} {table : Table α}
    {kind : EntityKind} (hkeys : table.keys.Nodup)
    (htable : ∀ name, table.contains name = true ↔ spec.HasKind kind name) :
    table.size = spec.entities.countP (·.kind == kind) := by
  refine h.size_eq_countP hkeys fun name => (htable name).trans ?_
  simp only [HasKind, beq_iff_eq]

theorem Consistent.size_structs (h : spec.Consistent) (hkeys : spec.structs.keys.Nodup) :
    spec.structs.size = spec.entities.countP fun entity =>
      entity.kind == .struct || entity.kind == .union := by
  refine h.size_eq_countP hkeys fun name => ?_
  simp only [Bool.or_eq_true, beq_iff_eq, and_or_left, exists_or]
  exact ⟨h.structs name, fun hname => hname.elim h.hasEntry h.hasEntry⟩

/-! ## Methods of all handles -/

/-- Whether the command of the given name is a method. -/
def isMethod (spec : Spec) (name : String) : Bool :=
  (spec.commands.get? name).any (·.isMethod)

theorem mem_ownedBy_iff (hdistinct : spec.commands.keys.Nodup) : name ∈ spec.ownedBy handle ↔
    ∃ command, spec.commands.get? name = some command ∧ command.owner = some handle := by
  constructor
  · intro hmem
    obtain ⟨⟨key, command⟩, hrow, rfl⟩ := List.mem_map.1 hmem
    obtain ⟨hrow, howner⟩ := List.mem_filter.1 hrow
    exact ⟨command, Table.get?_of_mem_rows hdistinct hrow, beq_iff_eq.1 howner⟩
  · rintro ⟨command, hcommand, howner⟩
    exact (mem_ownedBy hdistinct hcommand).2 howner

/-- The lists of the handles are those of their methods. -/
theorem ListsMethods.map_commands (h : spec.ListsMethods) (hkeys : spec.handles.keys.Nodup) :
    spec.handles.values.map (·.commands) = spec.handles.keys.map spec.ownedBy := by
  unfold Table.values Table.keys
  rw [List.map_map, List.map_map]
  refine List.map_congr_left fun row hrow => ?_
  exact h.listed row.1 row.2 (Table.get?_of_mem_rows hkeys hrow)

/-- No command is a method of two handles, or of one handle twice. -/
theorem ListsMethods.nodup_owned (h : spec.ListsMethods) (hkeys : spec.handles.keys.Nodup) :
    (spec.handles.keys.flatMap spec.ownedBy).Nodup := by
  refine List.nodup_flatMap.2 ⟨fun handle _ => ?_, hkeys.imp fun {first second} hne => ?_⟩
  · exact (ownedBy_sublist spec handle).nodup h.distinct
  · intro name hfirst hsecond
    obtain ⟨command, hcommand, howner⟩ := (mem_ownedBy_iff h.distinct).1 hfirst
    have hother := (mem_ownedBy h.distinct hcommand).1 hsecond
    exact hne (Option.some.inj (howner.symm.trans hother))

/-- The handles have all methods among them. -/
theorem ListsMethods.mem_owned_iff (h : spec.ListsMethods) :
    name ∈ spec.handles.keys.flatMap spec.ownedBy ↔ spec.isMethod name = true := by
  unfold isMethod
  rw [List.mem_flatMap, Option.any_eq_true]
  constructor
  · rintro ⟨handle, -, hmem⟩
    obtain ⟨command, hcommand, howner⟩ := (mem_ownedBy_iff h.distinct).1 hmem
    refine ⟨command, hcommand, ?_⟩
    unfold Command.isMethod
    rw [howner]
    rfl
  · rintro ⟨command, hcommand, hmethod⟩
    obtain ⟨handle, howner⟩ := Option.isSome_iff_exists.1 hmethod
    have hknown := h.known _ (Table.mem_rows_of_get? hcommand) handle howner
    exact ⟨handle, Table.contains_iff_mem_keys.1 hknown,
      (mem_ownedBy_iff h.distinct).2 ⟨command, hcommand, howner⟩⟩

/-- The lists of the handles are as long as there are methods. -/
theorem ListsMethods.sum_length (h : spec.ListsMethods) (hspec : spec.Consistent)
    (hkeys : spec.handles.keys.Nodup) : (spec.handles.values.map (·.commands.length)).sum =
      spec.entities.countP fun entity => entity.kind == .command && spec.isMethod entity.name := by
  have hlists : spec.handles.values.map (·.commands.length) =
      spec.handles.keys.map fun handle => (spec.ownedBy handle).length := by
    have hlengths := congrArg (List.map List.length) (h.map_commands hkeys)
    rwa [List.map_map, List.map_map] at hlengths
  rw [hlists, ← List.length_flatMap]
  symm
  apply countP_eq_length hspec.distinct (h.nodup_owned hkeys)
  intro name
  rw [h.mem_owned_iff]
  constructor
  · intro hmethod
    obtain ⟨command, hcommand, -⟩ := (Option.any_eq_true _ _).1 hmethod
    obtain ⟨entity, hmem, rfl, hkind⟩ :=
      hspec.commands name (Table.contains_iff.2 ⟨command, hcommand⟩)
    exact ⟨entity, hmem, rfl, Bool.and_eq_true_iff.2 ⟨beq_iff_eq.2 hkind, hmethod⟩⟩
  · rintro ⟨entity, -, rfl, hkeep⟩
    exact (Bool.and_eq_true_iff.1 hkeep).2

end Spec

end VulkanBindings.Registry
