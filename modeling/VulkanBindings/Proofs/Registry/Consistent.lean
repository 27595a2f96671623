import Mathlib.Data.List.Nodup
import VulkanBindings.Proofs.Registry.Change

/-!
# Specs that agree with themselves

A spec keeps a list of entities beside tables of what is known about them.  It
is consistent when no two entities share a name, every entity has its entry in
the table of its kind and needs all the types that this entry is written with,
and every entry belongs to an entity.

`Change.consistent` says that each change keeps a spec consistent.  Most changes
add an entity with its entry, or rewrite an entry in a way that leaves the types
alone; `Grows` describes those.  The exception is a handle that gets a method,
because it then needs whatever the method needs (`Consistent.giveMethod`).
-/

namespace VulkanBindings.Registry

/-- Whether a type can be written once all that the entity needs is written: it is
needed, or it is the entity itself. -/
def Entity.Covers (entity : Entity) (type : String) : Prop :=
  type = entity.name ∨ type ∈ entity.needs

/-- The handle of a method is the type of the first parameter. -/
def Command.WellOwned (command : Command) : Prop :=
  ∃ first rest, command.arguments = first :: rest ∧
    ∀ handle, command.owner = some handle → handle = first.baseType

namespace Spec

/-- The entry of the entity in the table of its kind, and how it agrees with what
the entity needs. -/
def Describes (spec : Spec) (entity : Entity) : Prop :=
  match entity.kind with
  | .command => ∃ command, spec.commands.get? entity.name = some command ∧ command.WellOwned ∧
      ∀ type ∈ command.types, type ∈ entity.needs
  | .enum => spec.enums.contains entity.name = true ∧ entity.needs = ∅
  | .flags => spec.flags.contains entity.name = true ∧ ∃ bits, entity.needs.names = [bits]
  | .handle => ∃ handle, spec.handles.get? entity.name = some handle ∧
      ∀ name ∈ handle.commands, ∃ command, spec.commands.get? name = some command ∧
        command.owner = some entity.name ∧ ∀ type ∈ command.types, entity.Covers type
  | .scalar => spec.scalars.contains entity.name = true ∧
      ∃ underlying, entity.needs.names = [underlying]
  | .struct | .union => ∃ aggregate, spec.structs.get? entity.name = some aggregate ∧
      ∀ member ∈ aggregate.members, entity.Covers member.baseType
  | .callback | .required => entity.needs = ∅

/-- The entities of a spec and its tables agree. -/
structure Consistent (spec : Spec) : Prop where
  distinct : (spec.entities.map (·.name)).Nodup
  described : ∀ entity ∈ spec.entities, spec.Describes entity
  commands : ∀ name, spec.commands.contains name = true → spec.HasKind .command name
  enums : ∀ name, spec.enums.contains name = true → spec.HasKind .enum name
  flags : ∀ name, spec.flags.contains name = true → spec.HasKind .flags name
  handles : ∀ name, spec.handles.contains name = true → spec.HasKind .handle name
  scalars : ∀ name, spec.scalars.contains name = true → spec.HasKind .scalar name
  structs : ∀ name, spec.structs.contains name = true →
    spec.HasKind .struct name ∨ spec.HasKind .union name

theorem consistent_initial : initial.Consistent where
  distinct := List.nodup_nil
  described := by simp [initial]
  commands := by simp [initial]
  enums := by simp [initial]
  flags := by simp [initial]
  handles := by simp [initial]
  scalars := by simp [initial]
  structs := by simp [initial]

variable {spec later : Spec} {entity : Entity}

/-- An entity is known by its name. -/
theorem Consistent.eq_of_name (h : spec.Consistent) {other : Entity} (hmem : entity ∈ spec.entities)
    (hother : other ∈ spec.entities) (hname : entity.name = other.name) : entity = other :=
  List.inj_on_of_nodup_map h.distinct hmem hother hname

/-- An entity whose name is that of a handle is that handle. -/
theorem Consistent.kind_eq_handle (h : spec.Consistent) (hmem : entity ∈ spec.entities)
    (hhandle : spec.handles.contains entity.name = true) : entity.kind = .handle := by
  obtain ⟨other, hother, hname, hkind⟩ := h.handles _ hhandle
  rw [← h.eq_of_name hother hmem hname]
  exact hkind

/-! ## What is behind a type -/

/-- Of a consistent spec, what is behind a type of flags or a scalar type is known. -/
theorem Describes.backing (h : spec.Describes entity)
    (hkind : entity.kind = .flags ∨ entity.kind = .scalar) :
    ∃ single, entity.needs.names = [single] ∧ entity.backing = .ok single := by
  have hsingle : ∃ single, entity.needs.names = [single] := by
    unfold Describes at h
    rcases hkind with hkind | hkind
    · simp only [hkind] at h
      exact h.2
    · simp only [hkind] at h
      exact h.2
  obtain ⟨single, hsingle⟩ := hsingle
  refine ⟨single, hsingle, ?_⟩
  unfold Entity.backing
  rw [hsingle]

theorem Consistent.entity?_eq (h : spec.Consistent) (hmem : entity ∈ spec.entities) :
    spec.entity? entity.name = some entity := by
  unfold entity?
  cases hfound : spec.entities.find? (·.name == entity.name) with
  | none =>
    have hnone := List.find?_eq_none.1 hfound entity hmem
    simp at hnone
  | some other =>
    have hother := List.mem_of_find?_eq_some hfound
    have hname : other.name = entity.name := by simpa using List.find?_some hfound
    rw [h.eq_of_name hother hmem hname]

theorem Consistent.backing_of_flags (h : spec.Consistent) {name : String}
    (hname : spec.flags.contains name = true) :
    ∃ entity ∈ spec.entities, entity.name = name ∧ entity.kind = .flags ∧
      ∃ single, spec.backing name = .ok single ∧ entity.backing = .ok single := by
  obtain ⟨entity, hmem, rfl, hkind⟩ := h.flags name hname
  obtain ⟨single, -, hsingle⟩ := (h.described entity hmem).backing (.inl hkind)
  refine ⟨entity, hmem, rfl, hkind, single, ?_, hsingle⟩
  unfold Spec.backing
  rw [h.entity?_eq hmem]
  exact hsingle

/-- Every command has a first parameter, and is a method of nothing but its type. -/
theorem Consistent.wellOwned (h : spec.Consistent) {name : String} {command : Command}
    (hcommand : spec.commands.get? name = some command) : command.WellOwned := by
  obtain ⟨entity, hmem, rfl, hkind⟩ := h.commands name (Table.contains_iff.2 ⟨command, hcommand⟩)
  have hdescribed := h.described entity hmem
  unfold Describes at hdescribed
  simp only [hkind] at hdescribed
  obtain ⟨other, hother, howned, -⟩ := hdescribed
  rw [hcommand] at hother
  obtain rfl := Option.some.inj hother
  exact howned

/-! ## Specs that grow -/

/-- Two entries of a command that differ in their guards at most. -/
structure SameSignature (command later : Command) : Prop where
  types : later.types = command.types
  arguments : later.arguments = command.arguments
  owner : later.owner = command.owner

theorem SameSignature.refl (command : Command) : SameSignature command command :=
  ⟨rfl, rfl, rfl⟩

/-- The later spec has all entries of the first, but for guards and enumerators,
and new entries only for entities of their kind. -/
structure Grows (spec later : Spec) : Prop where
  kinds : ∀ kind name, spec.HasKind kind name → later.HasKind kind name
  commands : Table.Keeps SameSignature spec.commands later.commands := by
    exact .refl .refl _
  enums : Table.Keeps (fun _ _ => True) spec.enums later.enums := by
    exact .refl (fun _ => trivial) _
  flags : Table.Keeps (fun _ _ => True) spec.flags later.flags := by
    exact .refl (fun _ => trivial) _
  handles : Table.Keeps (fun old new => new.commands = old.commands)
    spec.handles later.handles := by exact fun _ entry h => ⟨entry, h, rfl⟩
  scalars : Table.Keeps (fun _ _ => True) spec.scalars later.scalars := by
    exact .refl (fun _ => trivial) _
  structs : Table.Keeps (fun old new => new.members = old.members)
    spec.structs later.structs := by exact fun _ entry h => ⟨entry, h, rfl⟩
  newCommands : ∀ name, later.commands.contains name = true →
    spec.commands.contains name = true ∨ later.HasKind .command name := by
      exact fun _ hname => .inl hname
  newEnums : ∀ name, later.enums.contains name = true →
    spec.enums.contains name = true ∨ later.HasKind .enum name := by
      exact fun _ hname => .inl hname
  newFlags : ∀ name, later.flags.contains name = true →
    spec.flags.contains name = true ∨ later.HasKind .flags name := by
      exact fun _ hname => .inl hname
  newHandles : ∀ name, later.handles.contains name = true →
    spec.handles.contains name = true ∨ later.HasKind .handle name := by
      exact fun _ hname => .inl hname
  newScalars : ∀ name, later.scalars.contains name = true →
    spec.scalars.contains name = true ∨ later.HasKind .scalar name := by
      exact fun _ hname => .inl hname
  newStructs : ∀ name, later.structs.contains name = true → spec.structs.contains name = true ∨
    later.HasKind .struct name ∨ later.HasKind .union name := by
      exact fun _ hname => .inl hname

/-- What a spec says about an entity is still said by a spec that has grown. -/
theorem Describes.grow (h : spec.Describes entity) (hgrows : Grows spec later) :
    later.Describes entity := by
  unfold Describes at h ⊢
  split at h
  · obtain ⟨command, hget, ⟨first, rest, harguments, howner⟩, htypes⟩ := h
    obtain ⟨command', hget', hsame⟩ := hgrows.commands _ _ hget
    refine ⟨command', hget', ⟨first, rest, hsame.arguments.trans harguments, ?_⟩, ?_⟩
    · rw [hsame.owner]
      exact howner
    · rw [hsame.types]
      exact htypes
  · exact ⟨hgrows.enums.contains h.1, h.2⟩
  · exact ⟨hgrows.flags.contains h.1, h.2⟩
  · obtain ⟨handle, hget, hmethods⟩ := h
    obtain ⟨handle', hget', hsame⟩ := hgrows.handles _ _ hget
    refine ⟨handle', hget', fun name hname => ?_⟩
    rw [hsame] at hname
    obtain ⟨command, hcommand, howner, htypes⟩ := hmethods name hname
    obtain ⟨command', hcommand', hsame'⟩ := hgrows.commands _ _ hcommand
    refine ⟨command', hcommand', hsame'.owner.trans howner, ?_⟩
    rw [hsame'.types]
    exact htypes
  · exact ⟨hgrows.scalars.contains h.1, h.2⟩
  · obtain ⟨aggregate, hget, hmembers⟩ := h
    obtain ⟨aggregate', hget', hsame⟩ := hgrows.structs _ _ hget
    refine ⟨aggregate', hget', ?_⟩
    rw [hsame]
    exact hmembers
  · obtain ⟨aggregate, hget, hmembers⟩ := h
    obtain ⟨aggregate', hget', hsame⟩ := hgrows.structs _ _ hget
    refine ⟨aggregate', hget', ?_⟩
    rw [hsame]
    exact hmembers
  · exact h
  · exact h

/-- Growing keeps a spec consistent, if new entities have new names and agree with
their entries. -/
theorem Consistent.grow (h : spec.Consistent) (hgrows : Grows spec later)
    (hdistinct : (later.entities.map (·.name)).Nodup)
    (hnew : ∀ entity ∈ later.entities, entity ∈ spec.entities ∨ later.Describes entity) :
    later.Consistent where
  distinct := hdistinct
  described := by
    intro entity hmem
    rcases hnew entity hmem with hold | hdescribed
    · exact (h.described entity hold).grow hgrows
    · exact hdescribed
  commands := fun name hname =>
    (hgrows.newCommands name hname).elim (fun hold => hgrows.kinds _ _ (h.commands name hold)) id
  enums := fun name hname =>
    (hgrows.newEnums name hname).elim (fun hold => hgrows.kinds _ _ (h.enums name hold)) id
  flags := fun name hname =>
    (hgrows.newFlags name hname).elim (fun hold => hgrows.kinds _ _ (h.flags name hold)) id
  handles := fun name hname =>
    (hgrows.newHandles name hname).elim (fun hold => hgrows.kinds _ _ (h.handles name hold)) id
  scalars := fun name hname =>
    (hgrows.newScalars name hname).elim (fun hold => hgrows.kinds _ _ (h.scalars name hold)) id
  structs := fun name hname =>
    (hgrows.newStructs name hname).elim
      (fun hold => (h.structs name hold).imp (hgrows.kinds _ _) (hgrows.kinds _ _)) id

/-! ## Handles that get a method -/

theorem names_addNeeds {name : String} {needs : NameSet} :
    (spec.addNeeds name needs).entities.map (·.name) = spec.entities.map (·.name) := by
  unfold addNeeds
  rw [List.map_map]
  refine List.map_congr_left fun entity _ => ?_
  show (if entity.name = name then _ else entity : Entity).name = entity.name
  split <;> rfl

/-- A handle that gets a command as a method needs what the command needs, and so
still covers all of its methods. -/
theorem Consistent.giveMethod (h : spec.Consistent) {handle name : String} {command : Command}
    {needs : NameSet} (hhandle : spec.handles.contains handle = true)
    (hcommand : spec.commands.get? name = some command) (howner : command.owner = some handle)
    (htypes : ∀ type ∈ command.types, type ∈ needs) :
    (Registry.giveMethod spec handle name needs).Consistent where
  distinct := by
    unfold Registry.giveMethod
    rw [names_addNeeds]
    exact h.distinct
  described := by
    intro entity hmem
    obtain ⟨old, hold, rfl⟩ := List.mem_map.1 hmem
    have hdescribed := h.described old hold
    split
    · rename_i hname
      subst hname
      -- The entity is the handle itself.
      have hkind := h.kind_eq_handle hold hhandle
      unfold Describes at hdescribed ⊢
      simp only [hkind] at hdescribed ⊢
      obtain ⟨entry, hentry, hmethods⟩ := hdescribed
      refine ⟨{ entry with commands := entry.commands ++ [name] }, ?_, fun method hmethod => ?_⟩
      · simp [Registry.giveMethod, addNeeds, hentry]
      · rcases List.mem_append.1 hmethod with hmethod | hmethod
        · obtain ⟨other, hother, hotherOwner, hcovers⟩ := hmethods method hmethod
          refine ⟨other, hother, hotherOwner, fun type htype => ?_⟩
          exact (hcovers type htype).imp id fun hneeded => NameSet.mem_union.2 (.inl hneeded)
        · rw [List.mem_singleton.1 hmethod]
          refine ⟨command, hcommand, howner, fun type htype => ?_⟩
          by_cases heq : type = old.name
          · exact .inl heq
          · exact .inr (NameSet.mem_union.2 (.inr (NameSet.mem_erase.2 ⟨htypes type htype, heq⟩)))
    · rename_i hname
      -- All other entities keep their entries.
      unfold Describes at hdescribed ⊢
      split at hdescribed <;> simp_all [Registry.giveMethod, addNeeds]
  commands := fun other hother => hasKind_addNeeds.2 (h.commands other hother)
  enums := fun other hother => hasKind_addNeeds.2 (h.enums other hother)
  flags := fun other hother => hasKind_addNeeds.2 (h.flags other hother)
  handles := fun other hother =>
    hasKind_addNeeds.2 (h.handles other (Table.contains_modify.symm.trans hother))
  scalars := fun other hother => hasKind_addNeeds.2 (h.scalars other hother)
  structs := fun other hother =>
    (h.structs other hother).imp hasKind_addNeeds.2 hasKind_addNeeds.2

/-! ## Changes -/

theorem nodup_withEntity {kind : EntityKind} {name : String} {needs : NameSet}
    (h : (spec.entities.map (·.name)).Nodup) (hnew : spec.hasEntity name = false) :
    ((spec.withEntity kind name needs).entities.map (·.name)).Nodup := by
  unfold withEntity
  rw [List.map_append, List.map_singleton]
  refine List.nodup_append.2 ⟨h, List.nodup_singleton name, fun old hold other hother => ?_⟩
  obtain ⟨entity, hmem, rfl⟩ := List.mem_map.1 hold
  rw [List.mem_singleton.1 hother]
  exact hasEntity_eq_false_iff.1 hnew entity hmem

/-- A spec grows by an entity together with its entry. -/
theorem Consistent.declare (h : spec.Consistent) {kind : EntityKind} {name : String}
    {needs : NameSet} (hnew : spec.hasEntity name = false)
    (hentities : later.entities = (spec.withEntity kind name needs).entities)
    (hgrows : Grows spec later) (hdescribed : later.Describes { name, needs, kind }) :
    later.Consistent := by
  refine h.grow hgrows ?_ fun entity hmem => ?_
  · rw [hentities]
    exact nodup_withEntity h.distinct hnew
  · rw [hentities] at hmem
    rcases List.mem_append.1 hmem with hold | hmem
    · exact .inl hold
    · rw [List.mem_singleton.1 hmem]
      exact .inr hdescribed

/-- A spec grows in its entries alone. -/
theorem Consistent.rewrite (h : spec.Consistent) (hentities : later.entities = spec.entities)
    (hgrows : Grows spec later) : later.Consistent := by
  refine h.grow hgrows ?_ fun entity hmem => ?_
  · rw [hentities]
    exact h.distinct
  · rw [hentities] at hmem
    exact .inl hmem

/-- The entities of a kind are the names of its table, so a new name has no entry
yet. -/
theorem not_contains_of_new {α : Type} {table : Table α} {kind : EntityKind} {name : String}
    (hkeys : table.contains name = true → spec.HasKind kind name)
    (hnew : spec.hasEntity name = false) : table.contains name = false := by
  by_contra hcontains
  exact (hkeys (eq_true_of_ne_false hcontains)).ne_new hnew rfl

/-- After a name is set, a table has the names that it had, and one of the new
entity. -/
theorem new_of_contains_set {α : Type} {table : Table α} {kind : EntityKind} {name other : String}
    {value : α} {needs : NameSet} (hother : (table.set name value).contains other = true) :
    table.contains other = true ∨ (spec.withEntity kind name needs).HasKind kind other := by
  rcases Table.contains_set.1 hother with rfl | hold
  · exact .inr (hasKind_withEntity.2 (.inr ⟨rfl, rfl⟩))
  · exact .inl hold

/-- What is in a spec with one more entity, once it was there before. -/
theorem kinds_withEntity {new kind : EntityKind} {name other : String} {needs : NameSet}
    (h : spec.HasKind kind other) : (spec.withEntity new name needs).HasKind kind other :=
  hasKind_withEntity.2 (.inl h)

/-- The owner of a command is a handle, and the type of its first parameter. -/
theorem ownerOf?_eq_some {arguments : List Member} {handle : String}
    (h : ownerOf? spec arguments = some handle) :
    spec.handles.contains handle = true ∧ ∃ first rest, arguments = first :: rest ∧
      handle = first.baseType := by
  unfold ownerOf? at h
  split at h
  · rename_i first rest
    split at h
    · rename_i hcontains
      obtain rfl := Option.some.inj h
      exact ⟨hcontains, first, rest, rfl, rfl⟩
    · cases h
  · cases h

/-- A struct or a union needs the types of all its members but its own. -/
theorem Consistent.withAggregate (h : spec.Consistent) {kind : EntityKind} {name : String}
    (aggregate : Aggregate) (hkind : kind = .struct ∨ kind = .union)
    (hnew : spec.hasEntity name = false) :
    Consistent ({ spec.withEntity kind name ((typesOf aggregate.members).erase name) with
      structs := spec.structs.set name aggregate }.wrap name) := by
  have hcovers : ∀ member ∈ aggregate.members,
      member.baseType = name ∨ member.baseType ∈ (typesOf aggregate.members).erase name := by
    intro member hmember
    by_cases heq : member.baseType = name
    · exact .inl heq
    · refine .inr (NameSet.mem_erase.2 ⟨NameSet.mem_ofList.2 ?_, heq⟩)
      exact List.mem_map_of_mem hmember
  have hentry := (Table.get?_set spec.structs name name aggregate).trans (if_pos rfl)
  refine h.declare hnew rfl
    { kinds := fun _ _ => kinds_withEntity, structs := ?_, newStructs := ?_ } ?_
  · refine Table.Keeps.set_new (fun _ => by rfl) ?_ _
    by_contra hcontains
    rcases h.structs name (eq_true_of_ne_false hcontains) with hold | hold
    · exact hold.ne_new hnew rfl
    · exact hold.ne_new hnew rfl
  · intro other hother
    rcases hkind with rfl | rfl
    · exact (new_of_contains_set hother).imp id .inl
    · exact (new_of_contains_set hother).imp id .inr
  · rcases hkind with rfl | rfl <;> exact ⟨aggregate, hentry, hcovers⟩

/-- A command is declared before its handle gets it as a method. -/
theorem Consistent.withCommand (h : spec.Consistent) {name : String} {command : Command}
    (hnew : spec.hasEntity name = false) (harguments : command.arguments ≠ [])
    (howner : command.owner = ownerOf? spec command.arguments) :
    (spec.withCommand name command).Consistent := by
  have hcommand : ∀ type ∈ command.types, type ∈ NameSet.ofList command.types :=
    fun type htype => NameSet.mem_ofList.2 htype
  have howned : command.WellOwned := by
    obtain ⟨first, rest, hcons⟩ := List.exists_cons_of_ne_nil harguments
    refine ⟨first, rest, hcons, fun handle hhandle => ?_⟩
    rw [howner, hcons] at hhandle
    obtain ⟨-, first', rest', hcons', rfl⟩ := ownerOf?_eq_some hhandle
    rw [(List.cons.inj hcons').1]
  have hdeclared : Consistent { spec.withEntity .command name (NameSet.ofList command.types) with
      commands := spec.commands.set name command } := by
    refine h.declare hnew rfl
      { kinds := fun _ _ => kinds_withEntity, commands := ?_, newCommands := ?_ } ?_
    · exact Table.Keeps.set_new SameSignature.refl (not_contains_of_new (h.commands name) hnew) _
    · exact fun _ => new_of_contains_set
    · exact ⟨command, (Table.get?_set ..).trans (if_pos rfl), howned, hcommand⟩
  unfold Spec.withCommand
  split
  · rename_i handle hhandle
    refine hdeclared.giveMethod ?_ ?_ hhandle hcommand
    · exact (ownerOf?_eq_some (howner.symm.trans hhandle)).1
    · exact (Table.get?_set ..).trans (if_pos rfl)
  · exact hdeclared

end Spec

open Spec

/-- Every change keeps a spec consistent. -/
theorem Change.consistent {spec later : Spec} (hchange : Change spec later) (h : spec.Consistent) :
    later.Consistent := by
  cases hchange with
  | notes => exact h.rewrite rfl { kinds := fun _ _ => id }
  | @outside kind name hkind hnew =>
    refine h.declare hnew rfl { kinds := fun _ _ => kinds_withEntity } ?_
    rcases hkind with rfl | rfl <;> exact rfl
  | @scalar name underlying hnew =>
    refine h.declare hnew rfl
      { kinds := fun _ _ => kinds_withEntity, scalars := ?_, newScalars := ?_ } ?_
    · exact Table.Keeps.set_new (fun _ => trivial) (not_contains_of_new (h.scalars name) hnew) _
    · exact fun _ => new_of_contains_set
    · exact ⟨Table.contains_set.2 (.inl rfl), underlying, rfl⟩
  | @enum name enumeration _ hnew =>
    refine h.declare hnew rfl
      { kinds := fun _ _ => kinds_withEntity, enums := ?_, newEnums := ?_ } ?_
    · exact Table.Keeps.set_new (fun _ => trivial) (not_contains_of_new (h.enums name) hnew) _
    · exact fun _ => new_of_contains_set
    · exact ⟨Table.contains_set.2 (.inl rfl), rfl⟩
  | @flags name bits hnew =>
    refine h.declare hnew rfl
      { kinds := fun _ _ => kinds_withEntity, flags := ?_, newFlags := ?_ } ?_
    · exact Table.Keeps.set_new (fun _ => trivial) (not_contains_of_new (h.flags name) hnew) _
    · exact fun _ => new_of_contains_set
    · exact ⟨Table.contains_set.2 (.inl rfl), bits, rfl⟩
  | @handle name hnew =>
    refine h.declare hnew rfl
      { kinds := fun _ _ => kinds_withEntity, handles := ?_, newHandles := ?_ } ?_
    · exact Table.Keeps.set_new (fun _ => by rfl) (not_contains_of_new (h.handles name) hnew) _
    · exact fun _ => new_of_contains_set
    · exact ⟨_, (Table.get?_set ..).trans (if_pos rfl), by simp⟩
  | aggregate aggregate hkind hnew => exact h.withAggregate aggregate hkind hnew
  | command command hnew harguments howner => exact h.withCommand hnew harguments howner
  | guardEnum name guard =>
    refine h.rewrite rfl { kinds := fun _ _ => id, enums := ?_, newEnums := ?_ }
    · exact Table.Keeps.modify (fun _ => trivial) (fun _ => trivial) name
    · exact fun _ hname => .inl (Table.contains_modify.symm.trans hname)
  | guardFlags guard hname =>
    refine h.rewrite rfl { kinds := fun _ _ => id, flags := ?_, newFlags := ?_ }
    · exact Table.Keeps.set (fun _ => trivial) (fun _ _ => trivial)
    · exact fun _ hother => .inl (Table.contains_of_contains_set hname hother)
  | guardScalar guard hname =>
    refine h.rewrite rfl { kinds := fun _ _ => id, scalars := ?_, newScalars := ?_ }
    · exact Table.Keeps.set (fun _ => trivial) (fun _ _ => trivial)
    · exact fun _ hother => .inl (Table.contains_of_contains_set hname hother)
  | guardAggregate name guard =>
    refine h.rewrite rfl { kinds := fun _ _ => id, structs := ?_, newStructs := ?_ }
    · exact Table.Keeps.modify (fun _ => by rfl) (fun _ => by rfl) name
    · exact fun _ hname => .inl (Table.contains_modify.symm.trans hname)
  | guardHandle name guard =>
    refine h.rewrite rfl { kinds := fun _ _ => id, handles := ?_, newHandles := ?_ }
    · exact Table.Keeps.modify (fun _ => by rfl) (fun _ => by rfl) name
    · exact fun _ hname => .inl (Table.contains_modify.symm.trans hname)
  | guardCommand name guard =>
    refine h.rewrite rfl { kinds := fun _ _ => id, commands := ?_, newCommands := ?_ }
    · exact Table.Keeps.modify SameSignature.refl (fun _ => ⟨by rfl, by rfl, by rfl⟩) name
    · exact fun _ hname => .inl (Table.contains_modify.symm.trans hname)
  | guardBits guard hbits hempty =>
    refine h.rewrite rfl { kinds := fun _ _ => id, enums := ?_, newEnums := ?_ }
    · exact Table.Keeps.set (fun _ => trivial) (fun _ _ => trivial)
    · have hcontains := Table.contains_iff.2 ⟨_, hbits⟩
      exact fun _ hother => .inl (Table.contains_of_contains_set hcontains hother)
  | contribute enumerator hname =>
    refine h.rewrite rfl { kinds := fun _ _ => id, enums := ?_, newEnums := ?_ }
    · exact Table.Keeps.set (fun _ => trivial) (fun _ _ => trivial)
    · have hcontains := Table.contains_iff.2 ⟨_, hname⟩
      exact fun _ hother => .inl (Table.contains_of_contains_set hcontains hother)

/-- So does any number of changes. -/
theorem Changes.consistent {spec later : Spec} (h : Changes spec later) (hspec : spec.Consistent) :
    later.Consistent := by
  induction h with
  | refl => exact hspec
  | tail _ hchange ih => exact hchange.consistent ih

end VulkanBindings.Registry
