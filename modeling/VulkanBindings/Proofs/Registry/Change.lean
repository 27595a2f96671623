import Mathlib.Logic.Relation
import Mathlib.Tactic.ByContra
import VulkanBindings.Registry.Sections

/-!
# How a spec changes while a registry is read

Reading a registry goes through many functions, but a spec only ever changes in
a few ways: a note beside the entities is taken, an entity is declared together
with its entry in a table, a guard is put on an entry, or an enumerator is added
to an enum.  `Change` lists these ways, with all that is known when one is
taken.  What holds of every spec that comes from a registry is proved of each
change, and not of each reader.

Some readers change a spec in fewer ways.  `TypeChange` lists those of the types section,
`GroupChange` those of an enums section and `ItemChange` those of an item that an extension
requires, for what does not hold of every change.
-/

namespace VulkanBindings.Registry

/-- The types that members are made of. -/
def typesOf (members : List Member) : NameSet :=
  NameSet.ofList (members.map (·.baseType))

/-- The types that the signature of a command is made of. -/
def Command.types (command : Command) : List String :=
  command.returnType :: command.arguments.map (·.baseType)

/-- The spec with one more command, which its handle gets as a method. -/
def Spec.withCommand (spec : Spec) (name : String) (command : Command) : Spec :=
  let needs := NameSet.ofList command.types
  let declared :=
    { spec.withEntity .command name needs with commands := spec.commands.set name command }
  match command.owner with
  | some handle => giveMethod declared handle name needs
  | none => declared

/-- An enum after more has been read: nothing of it is lost. -/
structure Enumeration.Extends (old new : Enumeration) : Prop where
  isBitmask : new.isBitmask = old.isBitmask
  stem : new.stem = old.stem
  ending : new.ending = old.ending
  members : old.members <+: new.members

namespace Enumeration.Extends

variable {old middle new : Enumeration}

theorem refl (enumeration : Enumeration) : enumeration.Extends enumeration :=
  ⟨rfl, rfl, rfl, List.prefix_refl _⟩

theorem trans (h : old.Extends middle) (h' : middle.Extends new) : old.Extends new :=
  ⟨h'.isBitmask.trans h.isBitmask, h'.stem.trans h.stem, h'.ending.trans h.ending,
    h.members.trans h'.members⟩

end Enumeration.Extends

/-- Where an enum of the given name comes from.  A type of flags may bring an empty one
along for its bits; the others are groups of enumerators, whose stem depends on the tags
that are known. -/
inductive EnumOrigin (tags : NameSet) (name : String) : Enumeration → Prop where
  | bits {flags : String} (hname : Naming.flagBits flags = .ok name) :
    EnumOrigin tags name (.bare true "" "")
  | group {node : Xml.Node} {group enumeration : Enumeration} {tag : String}
    (hgroup : groupOf node name tags = .ok (group, tag)) (hextends : group.Extends enumeration) :
    EnumOrigin tags name enumeration

/-- One way in which reading changes a spec. -/
inductive Change (spec : Spec) : Spec → Prop where
  /-- Something is learned that no entity depends on.  Tags are never forgotten. -/
  | notes {tags : NameSet} (htags : ∀ tag ∈ spec.tags, tag ∈ tags)
    (license version typesafeCheck : String) :
    Change spec { spec with tags, license, version, typesafeCheck }
  /-- A type from elsewhere, or one of a function pointer. -/
  | outside {kind : EntityKind} {name : String} (hkind : kind = .required ∨ kind = .callback)
    (hnew : spec.hasEntity name = false) : Change spec (spec.withEntity kind name ∅)
  | scalar {name : String} (underlying : String) (hnew : spec.hasEntity name = false) :
    Change spec { spec.withEntity .scalar name (NameSet.ofList [underlying]) with
      scalars := spec.scalars.set name "" }
  | enum {name : String} {enumeration : Enumeration}
    (horigin : EnumOrigin spec.tags name enumeration) (hnew : spec.hasEntity name = false) :
    Change spec ({ spec.withEntity .enum name ∅ with
      enums := spec.enums.set name enumeration }.wrap name)
  | flags {name : String} (bits : String) (hnew : spec.hasEntity name = false) :
    Change spec ({ spec.withEntity .flags name (NameSet.ofList [bits]) with
      flags := spec.flags.set name "" }.wrap name)
  | handle {name : String} (hnew : spec.hasEntity name = false) :
    Change spec ({ spec.withEntity .handle name ∅ with
      handles := spec.handles.set name ⟨[], ""⟩ }.wrap name)
  | aggregate {kind : EntityKind} {name : String} (aggregate : Aggregate)
    (hkind : kind = .struct ∨ kind = .union) (hnew : spec.hasEntity name = false) :
    Change spec ({ spec.withEntity kind name ((typesOf aggregate.members).erase name) with
      structs := spec.structs.set name aggregate }.wrap name)
  | command {name : String} (command : Command) (hnew : spec.hasEntity name = false)
    (harguments : command.arguments ≠ [])
    (howner : command.owner = ownerOf? spec command.arguments) :
    Change spec (spec.withCommand name command)
  | guardEnum (name guard : String) :
    Change spec { spec with enums := spec.enums.modify name fun entry => { entry with guard } }
  | guardFlags {name : String} (guard : String) (hname : spec.flags.contains name = true) :
    Change spec { spec with flags := spec.flags.set name guard }
  | guardScalar {name : String} (guard : String) (hname : spec.scalars.contains name = true) :
    Change spec { spec with scalars := spec.scalars.set name guard }
  | guardAggregate (name guard : String) :
    Change spec { spec with structs := spec.structs.modify name fun entry => { entry with guard } }
  | guardHandle (name guard : String) :
    Change spec { spec with handles := spec.handles.modify name fun entry => { entry with guard } }
  | guardCommand (name guard : String) :
    Change spec { spec with
      commands := spec.commands.modify name fun entry => { entry with guard } }
  /-- The guard of a type of flags also covers its enum while that is empty. -/
  | guardBits {bits : String} {enumeration : Enumeration} (guard : String)
    (hbits : spec.enums.get? bits = some enumeration) (hempty : enumeration.members = []) :
    Change spec { spec with enums := spec.enums.set bits { enumeration with guard } }
  | contribute {name : String} {enumeration : Enumeration} (enumerator : Enumerator)
    (hname : spec.enums.get? name = some enumeration) :
    Change spec { spec with
      enums := spec.enums.set name
        { enumeration with members := enumeration.members ++ [enumerator] } }

/-- Any number of changes, one after the other. -/
abbrev Changes : Spec → Spec → Prop :=
  Relation.ReflTransGen Change

/-- A change that leaves the commands alone.  No other change is made before the
commands of a registry are read. -/
structure EarlyChange (spec later : Spec) : Prop where
  change : Change spec later
  commands : later.commands = spec.commands

/-- Any number of early changes. -/
abbrev EarlyChanges : Spec → Spec → Prop :=
  Relation.ReflTransGen EarlyChange

/-- One way in which reading the types changes a spec.  What is declared has no guard yet, and
the only enums are empty ones that types of flags bring along. -/
inductive TypeChange (spec : Spec) : Spec → Prop where
  | notes (version typesafeCheck : String) : TypeChange spec { spec with version, typesafeCheck }
  | outside {kind : EntityKind} {name : String} (hkind : kind = .required ∨ kind = .callback)
    (hnew : spec.hasEntity name = false) : TypeChange spec (spec.withEntity kind name ∅)
  | scalar {name : String} (underlying : String) (hnew : spec.hasEntity name = false) :
    TypeChange spec { spec.withEntity .scalar name (NameSet.ofList [underlying]) with
      scalars := spec.scalars.set name "" }
  | bits {flags name : String} (hname : Naming.flagBits flags = .ok name)
    (hnew : spec.hasEntity name = false) :
    TypeChange spec ({ spec.withEntity .enum name ∅ with
      enums := spec.enums.set name (.bare true "" "") }.wrap name)
  | flags {name : String} (bits : String) (hnew : spec.hasEntity name = false) :
    TypeChange spec ({ spec.withEntity .flags name (NameSet.ofList [bits]) with
      flags := spec.flags.set name "" }.wrap name)
  | handle {name : String} (hnew : spec.hasEntity name = false) :
    TypeChange spec ({ spec.withEntity .handle name ∅ with
      handles := spec.handles.set name ⟨[], ""⟩ }.wrap name)
  | aggregate {kind : EntityKind} {name : String} (returnedOnly : Bool) (members : List Member)
    (hkind : kind = .struct ∨ kind = .union) (hnew : spec.hasEntity name = false) :
    TypeChange spec ({ spec.withEntity kind name ((typesOf members).erase name) with
      structs := spec.structs.set name ⟨returnedOnly, members, ""⟩ }.wrap name)

/-- Any number of changes by types. -/
abbrev TypeChanges : Spec → Spec → Prop :=
  Relation.ReflTransGen TypeChange

/-- The change that a group of enumerators makes, if it is one that is read. -/
inductive GroupChange (node : Xml.Node) (spec : Spec) : Spec → Prop where
  | skip {rawName : String} (hname : node.attribute? "name" = some rawName)
    (hskipped : rawName ∈ skippedGroups) : GroupChange node spec spec
  | declare {rawName tag : String} {group enumeration : Enumeration}
    (hname : node.attribute? "name" = some rawName) (hkept : rawName ∉ skippedGroups)
    (hgroup : groupOf node (Naming.typeName rawName) spec.tags = .ok (group, tag))
    (hread : readEnumerators node tag group = .ok enumeration)
    (hnew : spec.hasEntity (Naming.typeName rawName) = false) :
    GroupChange node spec ({ spec.withEntity .enum (Naming.typeName rawName) ∅ with
      enums := spec.enums.set (Naming.typeName rawName) enumeration }.wrap
        (Naming.typeName rawName))

/-- Puts a guard on the enum of the given name, if there is one and it is empty. -/
def guardEmpty (enums : Table Enumeration) (bits guard : String) : Table Enumeration :=
  match enums.get? bits with
  | some enumeration =>
    if enumeration.members.isEmpty then enums.set bits { enumeration with guard } else enums
  | none => enums

/-- The change that a guard makes to the type of the given name.  The kinds of types are asked
for one after the other, and a type that is of none of them has no guard. -/
inductive GuardChange (spec : Spec) (name guard : String) : Spec → Prop where
  | enum (hname : spec.enums.contains name = true) :
    GuardChange spec name guard { spec with
      enums := spec.enums.modify name fun entry => { entry with guard } }
  | flags {bits : String} (hname : spec.flags.contains name = true)
    (hbits : spec.backing name = .ok bits) :
    GuardChange spec name guard { spec with
      flags := spec.flags.set name guard, enums := guardEmpty spec.enums bits guard }
  | scalar (hname : spec.scalars.contains name = true) :
    GuardChange spec name guard { spec with scalars := spec.scalars.set name guard }
  | aggregate (hname : spec.structs.contains name = true) :
    GuardChange spec name guard { spec with
      structs := spec.structs.modify name fun entry => { entry with guard } }
  | handle (hname : spec.handles.contains name = true) :
    GuardChange spec name guard { spec with
      handles := spec.handles.modify name fun entry => { entry with guard } }
  | outside (henums : spec.enums.contains name = false) (hflags : spec.flags.contains name = false)
    (hscalars : spec.scalars.contains name = false)
    (hstructs : spec.structs.contains name = false)
    (hhandles : spec.handles.contains name = false) : GuardChange spec name guard spec

/-- The change that an item makes which an extension requires.  An enumerator with a value is
entered without the tag of the extension. -/
inductive ItemChange (item : Xml.Node) (guard tag : String) (spec : Spec) : Spec → Prop where
  | command {rawName : String} (htag : item.tag = "command")
    (hname : item.attribute? "name" = some rawName) :
    ItemChange item guard tag spec { spec with
      commands := spec.commands.modify (Naming.commandName rawName) fun entry =>
        { entry with guard } }
  | type {rawName : String} {later : Spec} (htag : item.tag = "type")
    (hname : item.attribute? "name" = some rawName)
    (hguard : GuardChange spec (Naming.typeName rawName) guard later) :
    ItemChange item guard tag spec later
  | enumerator {extended rawName : String} {enumeration added : Enumeration}
    (htag : item.tag = "enum") (hextends : item.attribute? "extends" = some extended)
    (hname : item.attribute? "name" = some rawName)
    (hget : spec.enums.get? (Naming.typeName extended) = some enumeration)
    (hadd : enumeration.add rawName (if (item.attribute? "value").isNone then tag else "")
      (item.attribute? "value").isNone = .ok added) :
    ItemChange item guard tag spec { spec with
      enums := spec.enums.set (Naming.typeName extended) added }
  | skip (hcommand : item.tag ≠ "command") (htype : item.tag ≠ "type")
    (hextends : item.tag = "enum" → item.attribute? "extends" = none) :
    ItemChange item guard tag spec spec

/-- A change after which commands and handles have the names that they had.  No
other change is made once the commands of a registry are read. -/
structure Amendment (spec later : Spec) : Prop where
  change : Change spec later
  commands : later.commands.keys = spec.commands.keys
  handles : ∀ name, later.handles.contains name = spec.handles.contains name

/-- Any number of amendments. -/
abbrev Amendments : Spec → Spec → Prop :=
  Relation.ReflTransGen Amendment

theorem TypeChange.early {spec later : Spec} (h : TypeChange spec later) :
    EarlyChange spec later := by
  cases h with
  | notes version typesafeCheck => exact ⟨.notes (fun _ => id) spec.license _ _, rfl⟩
  | outside hkind hnew => exact ⟨.outside hkind hnew, rfl⟩
  | scalar underlying hnew => exact ⟨.scalar underlying hnew, rfl⟩
  | bits hname hnew => exact ⟨.enum (.bits hname) hnew, rfl⟩
  | flags bits hnew => exact ⟨.flags bits hnew, rfl⟩
  | handle hnew => exact ⟨.handle hnew, rfl⟩
  | aggregate returnedOnly members hkind hnew =>
    exact ⟨.aggregate ⟨returnedOnly, members, ""⟩ hkind hnew, rfl⟩

theorem TypeChanges.early {spec later : Spec} (h : TypeChanges spec later) :
    EarlyChanges spec later :=
  Relation.ReflTransGen.mono (fun _ _ => TypeChange.early) _ _ h

theorem EarlyChanges.changes {spec later : Spec} (h : EarlyChanges spec later) :
    Changes spec later :=
  Relation.ReflTransGen.mono (fun _ _ => EarlyChange.change) _ _ h

theorem EarlyChanges.commands_eq {spec later : Spec} (h : EarlyChanges spec later) :
    later.commands = spec.commands := by
  induction h with
  | refl => rfl
  | tail _ hchange ih => exact hchange.commands.trans ih

theorem Amendments.changes {spec later : Spec} (h : Amendments spec later) : Changes spec later :=
  Relation.ReflTransGen.mono (fun _ _ => Amendment.change) _ _ h

/-! ## Entities -/

/-- Some entity of the spec has the given name and kind. -/
def Spec.HasKind (spec : Spec) (kind : EntityKind) (name : String) : Prop :=
  ∃ entity ∈ spec.entities, entity.name = name ∧ entity.kind = kind

namespace Spec

variable {spec : Spec} {name other : String} {kind : EntityKind} {needs : NameSet}

theorem hasEntity_eq_false_iff :
    spec.hasEntity name = false ↔ ∀ entity ∈ spec.entities, entity.name ≠ name := by
  simp [hasEntity, entity?]

theorem HasKind.hasEntity (h : spec.HasKind kind name) : spec.hasEntity name = true := by
  obtain ⟨entity, hmem, rfl, -⟩ := h
  by_contra hnot
  exact hasEntity_eq_false_iff.1 (Bool.eq_false_iff.2 hnot) entity hmem rfl

theorem HasKind.ne_new (h : spec.HasKind kind other) (hnew : spec.hasEntity name = false) :
    other ≠ name := by
  rintro rfl
  rw [h.hasEntity] at hnew
  cases hnew

theorem hasKind_withEntity {new : EntityKind} :
    (spec.withEntity new name needs).HasKind kind other ↔
      spec.HasKind kind other ∨ (other = name ∧ kind = new) := by
  simp only [HasKind, withEntity, List.mem_append, List.mem_singleton]
  constructor
  · rintro ⟨entity, hmem | rfl, hname, hkind⟩
    · exact .inl ⟨entity, hmem, hname, hkind⟩
    · exact .inr ⟨hname.symm, hkind.symm⟩
  · rintro (⟨entity, hmem, hname, hkind⟩ | ⟨rfl, rfl⟩)
    · exact ⟨entity, .inl hmem, hname, hkind⟩
    · exact ⟨_, .inr rfl, rfl, rfl⟩

theorem hasKind_addNeeds : (spec.addNeeds name needs).HasKind kind other ↔
    spec.HasKind kind other := by
  simp only [HasKind, addNeeds, List.mem_map]
  constructor
  · rintro ⟨entity, ⟨old, hold, rfl⟩, hname, hkind⟩
    refine ⟨old, hold, ?_⟩
    split at hname <;> split at hkind <;> exact ⟨hname, hkind⟩
  · rintro ⟨entity, hmem, hname, hkind⟩
    refine ⟨_, ⟨entity, hmem, rfl⟩, ?_⟩
    split <;> exact ⟨hname, hkind⟩

end Spec

end VulkanBindings.Registry
