import VulkanBindings.Proofs.Wrapper.Prepared

/-!
# Tables that mirror the entities

A spec says twice which entities there are: its list has every entity with its
kind, and its tables have an entry for every entity that something is known
about.  All that comes after reading goes from one to the other without a check.
`Mirrors` says that this is safe: no two entities share a name, the names of
each table are those of the entities of its kind, the wrapped types are the
entities of the wrapped kinds, and an entity that stands for one other name needs
exactly that one.

Most of this is consistency, which is known of every spec that is read.  The
wrapped types are kept beside it and are followed through the changes here
(`Change.wrapsTypes`).
-/

namespace VulkanBindings.Registry

/-- Whether the bindings wrap entities of a kind in types of their own. -/
def EntityKind.isWrapped : EntityKind → Bool
  | .enum | .flags | .handle | .struct | .union => true
  | .command | .callback | .required | .scalar => false

namespace Spec

variable {spec later : Spec} {name : String}

/-! ## Wrapped types -/

/-- The wrapped types are the entities of the wrapped kinds. -/
def WrapsTypes (spec : Spec) : Prop :=
  ∀ name, name ∈ spec.wrapped ↔ ∃ kind : EntityKind, kind.isWrapped = true ∧ spec.HasKind kind name

theorem wrapsTypes_initial : initial.WrapsTypes := by
  simp [WrapsTypes, HasKind, initial]

/-- An entity that is not wrapped leaves the wrapped types alone. -/
theorem WrapsTypes.withEntity (h : spec.WrapsTypes) {kind : EntityKind} {needs : NameSet}
    (hkind : kind.isWrapped = false) : (spec.withEntity kind name needs).WrapsTypes := by
  intro other
  refine (h other).trans (exists_congr fun wrapped => and_congr_right fun hwrapped => ?_)
  rw [hasKind_withEntity]
  constructor
  · exact .inl
  · rintro (hold | ⟨-, rfl⟩)
    · exact hold
    · rw [hkind] at hwrapped
      cases hwrapped

/-- An entity of a wrapped kind is wrapped as it is declared. -/
theorem WrapsTypes.wrap (h : spec.WrapsTypes) {kind : EntityKind} {needs : NameSet}
    (hkind : kind.isWrapped = true) : ((spec.withEntity kind name needs).wrap name).WrapsTypes := by
  intro other
  show other ∈ spec.wrapped.insert name ↔
    ∃ wrapped : EntityKind, wrapped.isWrapped = true ∧
      (spec.withEntity kind name needs).HasKind wrapped other
  rw [NameSet.mem_insert, h other]
  constructor
  · rintro (rfl | ⟨wrapped, hwrapped, hold⟩)
    · exact ⟨kind, hkind, hasKind_withEntity.2 (.inr ⟨rfl, rfl⟩)⟩
    · exact ⟨wrapped, hwrapped, hasKind_withEntity.2 (.inl hold)⟩
  · rintro ⟨wrapped, hwrapped, hnew⟩
    rcases hasKind_withEntity.1 hnew with hold | ⟨rfl, -⟩
    · exact .inr ⟨wrapped, hwrapped, hold⟩
    · exact .inl rfl

theorem WrapsTypes.withCommand (h : spec.WrapsTypes) (command : Command) :
    (spec.withCommand name command).WrapsTypes := by
  have hdeclared : (spec.withEntity .command name (NameSet.ofList command.types)).WrapsTypes :=
    h.withEntity rfl
  unfold Spec.withCommand
  split
  · intro other
    refine (hdeclared other).trans (exists_congr fun kind => and_congr_right fun _ => ?_)
    exact hasKind_addNeeds.symm
  · exact hdeclared

end Spec

open Spec

/-- Every change that declares an entity of a wrapped kind wraps it, and no other
change wraps anything. -/
theorem Change.wrapsTypes {spec later : Spec} (hchange : Change spec later)
    (h : spec.WrapsTypes) : later.WrapsTypes := by
  cases hchange with
  | outside hkind _ => rcases hkind with rfl | rfl <;> exact h.withEntity rfl
  | scalar underlying _ => exact h.withEntity (by rfl)
  | enum _ _ => exact h.wrap (by rfl)
  | flags bits _ => exact h.wrap (by rfl)
  | handle _ => exact h.wrap (by rfl)
  | aggregate _ hkind _ => rcases hkind with rfl | rfl <;> exact h.wrap rfl
  | command command _ _ _ => exact h.withCommand command
  | notes | guardEnum | guardFlags | guardScalar | guardAggregate | guardHandle | guardCommand
  | guardBits | contribute => exact h

theorem Changes.wrapsTypes {spec later : Spec} (h : Changes spec later) (hspec : spec.WrapsTypes) :
    later.WrapsTypes := by
  induction h with
  | refl => exact hspec
  | tail _ hchange ih => exact hchange.wrapsTypes ih

namespace Spec

variable {spec : Spec}

/-! ## All tables -/

/-- The tables of a spec say the same as its list of entities. -/
structure Mirrors (spec : Spec) : Prop where
  distinct : (spec.entities.map (·.name)).Nodup
  enums : ∀ name, spec.enums.contains name = true ↔ spec.HasKind .enum name
  flags : ∀ name, spec.flags.contains name = true ↔ spec.HasKind .flags name
  scalars : ∀ name, spec.scalars.contains name = true ↔ spec.HasKind .scalar name
  handles : ∀ name, spec.handles.contains name = true ↔ spec.HasKind .handle name
  commands : ∀ name, spec.commands.contains name = true ↔ spec.HasKind .command name
  structs : ∀ name, spec.structs.contains name = true ↔
    spec.HasKind .struct name ∨ spec.HasKind .union name
  wrapped : spec.WrapsTypes
  single : ∀ entity ∈ spec.entities, entity.kind = .flags ∨ entity.kind = .scalar →
    entity.needs.size = 1
  free : ∀ entity ∈ spec.entities,
    entity.kind = .enum ∨ entity.kind = .callback ∨ entity.kind = .required → entity.needs = ∅

/-- The table for a kind has an entry of the given name, if there is such a table. -/
def HasEntry (spec : Spec) (kind : EntityKind) (name : String) : Prop :=
  match kind with
  | .command => spec.commands.contains name = true
  | .enum => spec.enums.contains name = true
  | .flags => spec.flags.contains name = true
  | .handle => spec.handles.contains name = true
  | .scalar => spec.scalars.contains name = true
  | .struct | .union => spec.structs.contains name = true
  | .callback | .required => True

/-- An entity that a spec describes has its entry in the table of its kind. -/
theorem Describes.hasEntry {entity : Entity} (h : spec.Describes entity) :
    spec.HasEntry entity.kind entity.name := by
  unfold Describes at h
  cases hkind : entity.kind with
  | command | handle | struct | union =>
    simp only [hkind] at h
    obtain ⟨entry, hentry, -⟩ := h
    exact Table.contains_iff.2 ⟨entry, hentry⟩
  | enum | flags | scalar =>
    simp only [hkind] at h
    exact h.1
  | callback | required => trivial

theorem Consistent.hasEntry (h : spec.Consistent) {kind : EntityKind} {name : String}
    (hname : spec.HasKind kind name) : spec.HasEntry kind name := by
  obtain ⟨entity, hmem, rfl, rfl⟩ := hname
  exact (h.described entity hmem).hasEntry

/-- Consistency says that the names of a table are entities of its kind, and that
these have their entries. -/
theorem Consistent.mirrors (h : spec.Consistent) (hwrapped : spec.WrapsTypes) : spec.Mirrors where
  distinct := h.distinct
  enums := fun name => ⟨h.enums name, h.hasEntry⟩
  flags := fun name => ⟨h.flags name, h.hasEntry⟩
  scalars := fun name => ⟨h.scalars name, h.hasEntry⟩
  handles := fun name => ⟨h.handles name, h.hasEntry⟩
  commands := fun name => ⟨h.commands name, h.hasEntry⟩
  structs := fun name => ⟨h.structs name, fun hname => hname.elim h.hasEntry h.hasEntry⟩
  wrapped := hwrapped
  single := by
    intro entity hmem hkind
    obtain ⟨single, hneeds, -⟩ := (h.described entity hmem).backing hkind
    rw [NameSet.size, hneeds, List.length_singleton]
  free := by
    intro entity hmem hkind
    have hdescribed := h.described entity hmem
    unfold Describes at hdescribed
    rcases hkind with hkind | hkind | hkind
    · simp only [hkind] at hdescribed
      exact hdescribed.2
    · simp only [hkind] at hdescribed
      exact hdescribed
    · simp only [hkind] at hdescribed
      exact hdescribed

/-- Reading a registry leaves tables that say the same as the list of entities. -/
theorem tables_mirror_entities {root : Xml.Node} (hread : Spec.ofRegistry root = .ok spec) :
    spec.Mirrors :=
  (consistent_of_ofRegistry hread).mirrors
    (((ofRegistry_meets root).of_ok hread).wrapsTypes wrapsTypes_initial)

/-- The small registry can be read. -/
theorem sample_tables_mirror_entities :
    ∃ spec, Spec.ofRegistry (Wrapper.sampleRegistry "4") = .ok spec ∧ spec.Mirrors := by
  have hsample : (Spec.ofRegistry (Wrapper.sampleRegistry "4")).toOption.any (fun _ => true) =
      true := by
    decide +kernel
  obtain ⟨spec, hread, -⟩ := exists_of_any hsample
  exact ⟨spec, hread, tables_mirror_entities hread⟩

end Spec

end VulkanBindings.Registry
