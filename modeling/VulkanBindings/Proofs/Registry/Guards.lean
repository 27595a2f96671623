import VulkanBindings.Proofs.Registry.Members

/-!
# Guards

Nothing that a registry declares has a guard at first.  The guard that it ends up with is
that of the last item of an extension that covers it (`guards_last`).  An item covers what
it names.  One that names a type of flags also covers the enum behind it, but only as long
as that is empty, so that the guard of an enum depends on the items that came in between.
-/

namespace VulkanBindings.Registry

open Naming (commandName typeName)
open Xml (Node)

variable {root node : Node} {spec later : Spec} {lookup : Lookup} {name type guard : String}

/-! ## Guards in tables -/

/-- The table with the entries of a kind, if there is one. -/
def EntityKind.lookup? : EntityKind → Option Lookup
  | command => some .commands
  | enum => some .enums
  | flags => some .flags
  | handle => some .handles
  | scalar => some .scalars
  | struct | union => some .structs
  | callback | required => none

namespace Spec

/-- The guard of what a table has under the given name. -/
def guardOf? (spec : Spec) (lookup : Lookup) (name : String) : Option String :=
  match lookup with
  | .commands => (spec.commands.get? name).map (·.guard)
  | .enums => (spec.enums.get? name).map (·.guard)
  | .flags => spec.flags.get? name
  | .handles => (spec.handles.get? name).map (·.guard)
  | .scalars => spec.scalars.get? name
  | .structs => (spec.structs.get? name).map (·.guard)

/-- What has a guard in a table is an entity of a kind that belongs there. -/
theorem Consistent.exists_kind (h : spec.Consistent)
    (hguard : spec.guardOf? lookup name = some guard) :
    ∃ kind : EntityKind, spec.HasKind kind name ∧ kind.lookup? = some lookup := by
  cases lookup with
  | commands =>
    obtain ⟨command, hcommand, -⟩ := Option.map_eq_some_iff.1 hguard
    exact ⟨.command, h.commands name (Table.contains_iff.2 ⟨command, hcommand⟩), rfl⟩
  | enums =>
    obtain ⟨enumeration, henum, -⟩ := Option.map_eq_some_iff.1 hguard
    exact ⟨.enum, h.enums name (Table.contains_iff.2 ⟨enumeration, henum⟩), rfl⟩
  | flags => exact ⟨.flags, h.flags name (Table.contains_iff.2 ⟨guard, hguard⟩), rfl⟩
  | handles =>
    obtain ⟨handle, hhandle, -⟩ := Option.map_eq_some_iff.1 hguard
    exact ⟨.handle, h.handles name (Table.contains_iff.2 ⟨handle, hhandle⟩), rfl⟩
  | scalars => exact ⟨.scalar, h.scalars name (Table.contains_iff.2 ⟨guard, hguard⟩), rfl⟩
  | structs =>
    obtain ⟨aggregate, haggregate, -⟩ := Option.map_eq_some_iff.1 hguard
    rcases h.structs name (Table.contains_iff.2 ⟨aggregate, haggregate⟩) with hkind | hkind
    · exact ⟨.struct, hkind, rfl⟩
    · exact ⟨.union, hkind, rfl⟩

/-- No name is in two tables. -/
theorem Consistent.lookup_unique (h : spec.Consistent) {other : Lookup} {otherGuard : String}
    (hguard : spec.guardOf? lookup name = some guard)
    (hother : spec.guardOf? other name = some otherGuard) : lookup = other := by
  obtain ⟨kind, ⟨entity, hmem, hname, rfl⟩, hkind⟩ := h.exists_kind hguard
  obtain ⟨kind', ⟨entity', hmem', hname', rfl⟩, hkind'⟩ := h.exists_kind hother
  have hsame : entity = entity' := h.eq_of_name hmem hmem' (hname.trans hname'.symm)
  rw [hsame, hkind'] at hkind
  exact (Option.some.inj hkind).symm

/-- Whether the guard of a type also goes to the entry of the given name: that of the type
itself, or the enum behind a type of flags while it is empty. -/
def Reaches (spec : Spec) (type : String) (lookup : Lookup) (name : String) : Prop :=
  name = type ∨ lookup = .enums ∧ spec.flags.contains type = true ∧ spec.backing type = .ok name ∧
    ∃ enumeration, spec.enums.get? name = some enumeration ∧ enumeration.members = []

end Spec

open Spec

/-! ## The guard of a type -/

section Guarding

variable [Decidable (spec.Reaches type lookup name)]

theorem guardOf?_of_kept (hlater : later.guardOf? lookup name = spec.guardOf? lookup name)
    (hreaches : ∀ old, spec.guardOf? lookup name = some old → ¬spec.Reaches type lookup name) :
    later.guardOf? lookup name = (spec.guardOf? lookup name).map fun old =>
      if spec.Reaches type lookup name then guard else old := by
  rw [hlater]
  cases hold : spec.guardOf? lookup name with
  | none => rfl
  | some old => rw [Option.map_some, if_neg (hreaches old hold)]

theorem guardOf?_of_reached
    (hlater : later.guardOf? lookup name = (spec.guardOf? lookup name).map fun _ => guard)
    (hreaches : spec.Reaches type lookup name) :
    later.guardOf? lookup name = (spec.guardOf? lookup name).map fun old =>
      if spec.Reaches type lookup name then guard else old := by
  rw [hlater]
  simp only [if_pos hreaches]

/-- A type that is not of flags keeps its guard to itself. -/
theorem guardOf?_of_table (hspec : spec.Consistent) {table : Lookup} {old : String}
    (hold : spec.guardOf? table type = some old) (htable : table ≠ .flags)
    (hlater : later.guardOf? lookup name =
      if lookup = table ∧ name = type then (spec.guardOf? lookup name).map fun _ => guard
      else spec.guardOf? lookup name) :
    later.guardOf? lookup name = (spec.guardOf? lookup name).map fun old =>
      if spec.Reaches type lookup name then guard else old := by
  by_cases hcovered : lookup = table ∧ name = type
  · rw [if_pos hcovered] at hlater
    exact guardOf?_of_reached hlater (.inl hcovered.2)
  · rw [if_neg hcovered] at hlater
    refine guardOf?_of_kept hlater fun entry hentry hreaches => ?_
    rcases hreaches with rfl | ⟨-, hcontains, -⟩
    · exact hcovered ⟨hspec.lookup_unique hentry hold, rfl⟩
    · obtain ⟨flagsGuard, hflags⟩ := Table.contains_iff.1 hcontains
      have hflags : spec.guardOf? .flags type = some flagsGuard := hflags
      exact htable (hspec.lookup_unique hold hflags)

/-- A type of flags passes its guard on to an empty enum behind it. -/
theorem guardOf?_of_flags (hspec : spec.Consistent) {bits : String}
    (hname : spec.flags.contains type = true) (hbits : spec.backing type = .ok bits) :
    guardOf? { spec with
      flags := spec.flags.set type guard, enums := guardEmpty spec.enums bits guard } lookup name =
      (spec.guardOf? lookup name).map fun old =>
        if spec.Reaches type lookup name then guard else old := by
  obtain ⟨old, hget⟩ := Table.contains_iff.1 hname
  have hold : spec.guardOf? .flags type = some old := hget
  have hne : lookup ≠ .flags → ∀ entry, spec.guardOf? lookup name = some entry → name ≠ type := by
    rintro hlookup entry hentry rfl
    exact hlookup (hspec.lookup_unique hentry hold)
  cases lookup with
  | flags =>
    by_cases heq : name = type
    · refine guardOf?_of_reached ?_ (.inl heq)
      simp [guardOf?, heq, hget]
    · refine guardOf?_of_kept ?_ fun _ _ hreaches => ?_
      · simp [guardOf?, heq]
      · simp [Reaches, heq] at hreaches
  | enums =>
    cases hentry : spec.enums.get? name with
    | none => simp [guardOf?, get?_guardEmpty, hentry]
    | some enumeration =>
      have hother : name ≠ type := hne (by decide) enumeration.guard (by simp [guardOf?, hentry])
      by_cases hcovered : name = bits ∧ enumeration.members = []
      · obtain ⟨rfl, hempty⟩ := hcovered
        refine guardOf?_of_reached ?_ (.inr ⟨rfl, hname, hbits, enumeration, hentry, hempty⟩)
        simp [guardOf?, get?_guardEmpty, hentry, hempty]
      · refine guardOf?_of_kept ?_ fun _ _ hreaches => ?_
        · simp [guardOf?, get?_guardEmpty, hentry, hcovered]
        · simp [Reaches, hother, hbits, hentry] at hreaches
          exact hcovered ⟨hreaches.2.1.symm, hreaches.2.2⟩
  | commands | handles | scalars | structs =>
    refine guardOf?_of_kept rfl fun entry hentry hreaches => ?_
    have hother := hne (by decide) entry hentry
    simp [Reaches, hother] at hreaches

/-- What becomes of all guards when one is put on a type. -/
theorem GuardChange.guardOf?_eq (h : GuardChange spec type guard later) (hspec : spec.Consistent)
    (hlookup : lookup ≠ .commands) :
    later.guardOf? lookup name = (spec.guardOf? lookup name).map fun old =>
      if spec.Reaches type lookup name then guard else old := by
  cases h with
  | enum hname =>
    obtain ⟨enumeration, hget⟩ := Table.contains_iff.1 hname
    have hold : spec.guardOf? .enums type = some enumeration.guard :=
      congrArg (Option.map Enumeration.guard) hget
    refine guardOf?_of_table hspec hold (by decide) ?_
    by_cases heq : name = type <;> cases lookup <;> simp [guardOf?, heq, Function.comp_def]
  | flags hname hbits => exact guardOf?_of_flags hspec hname hbits
  | scalar hname =>
    obtain ⟨old, hget⟩ := Table.contains_iff.1 hname
    have hold : spec.guardOf? .scalars type = some old := hget
    refine guardOf?_of_table hspec hold (by decide) ?_
    by_cases heq : name = type <;> cases lookup <;> simp [guardOf?, heq, hget]
  | aggregate hname =>
    obtain ⟨aggregate, hget⟩ := Table.contains_iff.1 hname
    have hold : spec.guardOf? .structs type = some aggregate.guard :=
      congrArg (Option.map Aggregate.guard) hget
    refine guardOf?_of_table hspec hold (by decide) ?_
    by_cases heq : name = type <;> cases lookup <;> simp [guardOf?, heq, Function.comp_def]
  | handle hname =>
    obtain ⟨handle, hget⟩ := Table.contains_iff.1 hname
    have hold : spec.guardOf? .handles type = some handle.guard :=
      congrArg (Option.map Handle.guard) hget
    refine guardOf?_of_table hspec hold (by decide) ?_
    by_cases heq : name = type <;> cases lookup <;> simp [guardOf?, heq, Function.comp_def]
  | outside henums hflags hscalars hstructs hhandles =>
    have hnone : spec.guardOf? lookup type = none := by
      cases lookup with
      | commands => exact absurd rfl hlookup
      | enums => exact congrArg (Option.map Enumeration.guard) (Table.not_contains_iff.1 henums)
      | flags => exact Table.not_contains_iff.1 hflags
      | handles => exact congrArg (Option.map Handle.guard) (Table.not_contains_iff.1 hhandles)
      | scalars => exact Table.not_contains_iff.1 hscalars
      | structs => exact congrArg (Option.map Aggregate.guard) (Table.not_contains_iff.1 hstructs)
    refine guardOf?_of_kept rfl fun entry hentry hreaches => ?_
    rcases hreaches with rfl | ⟨-, hcontains, -⟩
    · simp [hnone] at hentry
    · simp [hflags] at hcontains

end Guarding

/-! ## Covering items -/

namespace Requirement

/-- Whether the item names what a table has under the given name. -/
def Names (requirement : Requirement) (lookup : Lookup) (name : String) : Prop :=
  if lookup = .commands then
    requirement.item.tag = "command" ∧
      (requirement.item.attribute? "name").map commandName = some name
  else
    requirement.item.tag = "type" ∧ (requirement.item.attribute? "name").map typeName = some name

end Requirement

/-- The enum of the given name has no members before an item, given those that have been read:
its group has none, and none has been contributed. -/
def EmptyAfter (root : Node) (name : String) (items : List Requirement) : Prop :=
  (groupsOf root name).flatMap enumElements = [] ∧ items.filter (·.contributesTo name) = []

/-- Whether an item covers what a table has under the given name, after the items that have been
read.  It does if it names it, or if it names a type of flags with an enum of that name behind
it which is still empty. -/
def Covers (root : Node) (spec : Spec) (lookup : Lookup) (name : String)
    (items : List Requirement) (requirement : Requirement) : Prop :=
  requirement.Names lookup name ∨
    lookup = .enums ∧ EmptyAfter root name items ∧
      ∃ flags, spec.flags.contains flags = true ∧ spec.backing flags = .ok name ∧
        requirement.Names .flags flags

/-- The guard is that of the last item that covers something, if there is any.  Whether an item
does may depend on the items before it. -/
def IsLastGuard (covers : List Requirement → Requirement → Prop) (items : List Requirement)
    (guard : String) : Prop :=
  (∃ position requirement, items[position]? = some requirement ∧
      covers (items.take position) requirement ∧ requirement.guard = guard ∧
      ∀ later other, position < later → items[later]? = some other →
        ¬covers (items.take later) other) ∨
    (guard = "" ∧ ∀ position requirement, items[position]? = some requirement →
      ¬covers (items.take position) requirement)

section LastGuard

variable {covers : List Requirement → Requirement → Prop} {items : List Requirement}
  {requirement : Requirement}

theorem isLastGuard_nil : IsLastGuard covers [] "" := by
  refine .inr ⟨rfl, fun position requirement h => ?_⟩
  simp at h

/-- An item of a list with one more item is one of the list, or the last. -/
theorem getElem?_concat_eq_some {position : Nat} {other : Requirement}
    (h : (items ++ [requirement])[position]? = some other) :
    items[position]? = some other ∧ (items ++ [requirement]).take position = items.take position ∨
      position = items.length ∧ other = requirement ∧
        (items ++ [requirement]).take position = items := by
  have hlength : position < (items ++ [requirement]).length := (List.getElem?_eq_some_iff.1 h).1
  rw [List.length_append, List.length_singleton] at hlength
  by_cases hlast : position = items.length
  · subst hlast
    rw [List.getElem?_concat_length] at h
    exact .inr ⟨rfl, (Option.some.inj h).symm, List.take_left⟩
  · have hearlier : position < items.length := by omega
    rw [List.getElem?_append_left hearlier] at h
    exact .inl ⟨h, List.take_append_of_le_length (Nat.le_of_lt hearlier)⟩

/-- An item that covers something brings its guard. -/
theorem isLastGuard_concat (hcovers : covers items requirement) :
    IsLastGuard covers (items ++ [requirement]) requirement.guard := by
  refine .inl ⟨items.length, requirement, List.getElem?_concat_length, ?_, rfl, ?_⟩
  · rwa [List.take_left]
  · intro later other hlater hother
    have hlength : later < (items ++ [requirement]).length := (List.getElem?_eq_some_iff.1 hother).1
    rw [List.length_append, List.length_singleton] at hlength
    omega

/-- An item that covers nothing changes no guard. -/
theorem IsLastGuard.concat (h : IsLastGuard covers items guard)
    (hcovers : ¬covers items requirement) : IsLastGuard covers (items ++ [requirement]) guard := by
  have hnew : ∀ {position : Nat} {other : Requirement},
      (items ++ [requirement])[position]? = some other →
      (items[position]? = some other → ¬covers (items.take position) other) →
      ¬covers ((items ++ [requirement]).take position) other := by
    intro position other hother hold
    rcases getElem?_concat_eq_some hother with ⟨hearlier, htake⟩ | ⟨-, rfl, htake⟩
    · rw [htake]
      exact hold hearlier
    · rwa [htake]
  rcases h with ⟨position, found, hfound, hcovered, hguard, hlast⟩ | ⟨hguard, hnone⟩
  · have hlength : position < items.length := (List.getElem?_eq_some_iff.1 hfound).1
    refine .inl ⟨position, found, ?_, ?_, hguard, ?_⟩
    · rwa [List.getElem?_append_left hlength]
    · rwa [List.take_append_of_le_length (Nat.le_of_lt hlength)]
    · exact fun later other hlater hother => hnew hother (hlast later other hlater)
  · exact .inr ⟨hguard, fun position other hother => hnew hother (hnone position other)⟩

end LastGuard

/-! ## Before the extensions -/

/-- Nothing has a guard. -/
def Spec.Unguarded (spec : Spec) : Prop :=
  ∀ lookup name guard, spec.guardOf? lookup name = some guard → guard = ""

/-- A new entry without a guard. -/
theorem Spec.Unguarded.row (h : spec.Unguarded) (table : Lookup) (name : String)
    (hlater : ∀ lookup other, later.guardOf? lookup other =
      if lookup = table ∧ other = name then some "" else spec.guardOf? lookup other) :
    later.Unguarded := by
  intro lookup other guard hguard
  rw [hlater] at hguard
  split at hguard
  · exact (Option.some.inj hguard).symm
  · exact h lookup other guard hguard

/-- What a type declares has no guard. -/
theorem TypeChange.unguarded (hchange : TypeChange spec later) (h : spec.Unguarded) :
    later.Unguarded := by
  cases hchange with
  | notes | outside => exact h
  | @scalar name =>
    refine h.row .scalars name fun lookup other => ?_
    by_cases heq : other = name <;> cases lookup <;> simp [guardOf?, heq, withEntity]
  | @bits flags name =>
    refine h.row .enums name fun lookup other => ?_
    by_cases heq : other = name <;> cases lookup <;>
      simp [guardOf?, heq, withEntity, wrap, Enumeration.bare]
  | @flags name =>
    refine h.row .flags name fun lookup other => ?_
    by_cases heq : other = name <;> cases lookup <;> simp [guardOf?, heq, withEntity, wrap]
  | @handle name =>
    refine h.row .handles name fun lookup other => ?_
    by_cases heq : other = name <;> cases lookup <;> simp [guardOf?, heq, withEntity, wrap]
  | @aggregate kind name =>
    refine h.row .structs name fun lookup other => ?_
    by_cases heq : other = name <;> cases lookup <;> simp [guardOf?, heq, withEntity, wrap]

/-- Nor does the enum of a group. -/
theorem GroupChange.unguarded (hchange : GroupChange node spec later) (h : spec.Unguarded) :
    later.Unguarded := by
  cases hchange with
  | skip => exact h
  | @declare rawName tag group enumeration hname hkept hgroup hread hnew =>
    obtain ⟨isBitmask, stem, ending, rfl⟩ := groupOf_bare hgroup
    obtain ⟨members, rfl, -⟩ := (readEnumerators_meets_members rfl).of_ok hread
    refine h.row .enums (typeName rawName) fun lookup other => ?_
    by_cases heq : other = typeName rawName <;> cases lookup <;>
      simp [guardOf?, heq, withEntity, wrap, Enumeration.bare]

/-- Nor does a command, and its handle gets none either. -/
theorem CommandChange.unguarded (hchange : CommandChange node spec later) (h : spec.Unguarded) :
    later.Unguarded := by
  cases hchange with
  | @declare name command hname hnew harguments howner hguard hcodes =>
    refine h.row .commands name fun lookup other => ?_
    unfold Spec.withCommand
    cases command.owner with
    | none =>
      by_cases heq : other = name <;> cases lookup <;> simp [guardOf?, heq, withEntity, hguard]
    | some handle =>
      by_cases heq : other = name <;> cases lookup <;>
        simp [guardOf?, heq, withEntity, hguard, giveMethod, addNeeds, apply_ite, Function.comp_def]

theorem unguarded_of_stages {tagged typed grouped listed : Spec}
    (h : Stages root tagged typed grouped listed spec) : listed.Unguarded := by
  have htagged : tagged.Unguarded := by
    obtain ⟨license, tags, -, rfl⟩ := h.start
    intro lookup name guard hguard
    cases lookup <;> simp [guardOf?, Spec.initial] at hguard
  have htyped : typed.Unguarded := by
    have hchanges := h.types
    clear h
    induction hchanges with
    | refl => exact htagged
    | tail _ hchange ih => exact hchange.unguarded ih
  have hgrouped : grouped.Unguarded :=
    h.groups.invariant Unguarded htyped fun _ _ _ => GroupChange.unguarded
  exact h.commands.invariant Unguarded hgrouped fun _ _ _ => CommandChange.unguarded

/-! ## Reading item by item -/

/-- The enum of a name is empty as long as no element is read that names a member. -/
theorem emptyAfter_iff {items : List Requirement} {enumeration : Enumeration}
    (hmembers : HasMembers spec name (groupsOf root name) (items.filter (·.contributesTo name)))
    (hget : spec.enums.get? name = some enumeration) :
    EmptyAfter root name items ↔ enumeration.members = [] := by
  obtain ⟨-, hall⟩ := (hasMembers_of_some hget).1 hmembers
  constructor
  · intro hnone
    rw [contributionsOf_eq_nil_iff.2 hnone] at hall
    exact List.forall₂_nil_left_iff.1 hall
  · intro hempty
    rw [hempty] at hall
    exact contributionsOf_eq_nil_iff.1 (List.forall₂_nil_right_iff.1 hall)

variable {requirement : Requirement} {items : List Requirement} {rawName : String}

theorem covers_of_command (htag : requirement.item.tag = "command")
    (hname : requirement.item.attribute? "name" = some rawName) :
    Covers root spec lookup name items requirement ↔
      lookup = .commands ∧ name = commandName rawName := by
  have hnames : ∀ {other : Lookup} {command : String},
      requirement.Names other command ↔ other = .commands ∧ command = commandName rawName := by
    intro other command
    by_cases hother : other = .commands
    · simp [Requirement.Names, hother, htag, hname, eq_comm]
    · simp [Requirement.Names, hother, htag]
  unfold Covers
  simp [hnames]

theorem covers_of_type (htag : requirement.item.tag = "type")
    (hname : requirement.item.attribute? "name" = some rawName)
    (hmembers : HasMembers spec name (groupsOf root name) (items.filter (·.contributesTo name)))
    (hold : spec.guardOf? lookup name = some guard) :
    Covers root spec lookup name items requirement ↔
      lookup ≠ .commands ∧ spec.Reaches (typeName rawName) lookup name := by
  have hnames : ∀ {other : Lookup} {type : String},
      requirement.Names other type ↔ other ≠ .commands ∧ type = typeName rawName := by
    intro other type
    by_cases hother : other = .commands
    · simp [Requirement.Names, hother, htag]
    · simp [Requirement.Names, hother, htag, hname, eq_comm]
  unfold Covers Spec.Reaches
  simp only [hnames]
  by_cases henums : lookup = .enums
  · subst henums
    obtain ⟨enumeration, hget, -⟩ := Option.map_eq_some_iff.1 hold
    rw [emptyAfter_iff hmembers hget]
    simp [hget]
    tauto
  · simp [henums]

theorem not_covers (hcommand : requirement.item.tag ≠ "command")
    (htype : requirement.item.tag ≠ "type") :
    ¬Covers root spec lookup name items requirement := by
  have hnames : ∀ other type, ¬requirement.Names other type := by
    intro other type
    unfold Requirement.Names
    split <;> simp [hcommand, htype]
  rintro (hnamed | ⟨-, -, flags, -, -, hnamed⟩)
  · exact hnames lookup name hnamed
  · exact hnames .flags flags hnamed

/-- An item puts its guard on what it covers, and leaves all other guards alone. -/
theorem Requirement.Change.guardOf?_eq_some (h : requirement.Change spec later)
    (hspec : spec.Consistent)
    (hmembers : HasMembers spec name (groupsOf root name) (items.filter (·.contributesTo name)))
    (hguard : later.guardOf? lookup name = some guard) :
    Covers root spec lookup name items requirement ∧ guard = requirement.guard ∨
      ¬Covers root spec lookup name items requirement ∧ spec.guardOf? lookup name = some guard := by
  classical
  cases h with
  | @command rawName htag hname =>
    rw [covers_of_command htag hname]
    by_cases hcovered : lookup = .commands ∧ name = commandName rawName
    · refine .inl ⟨hcovered, ?_⟩
      obtain ⟨rfl, rfl⟩ := hcovered
      simp only [guardOf?, Table.get?_modify, if_true, Option.map_map] at hguard
      obtain ⟨command, -, rfl⟩ := Option.map_eq_some_iff.1 hguard
      rfl
    · refine .inr ⟨hcovered, ?_⟩
      cases lookup with
      | commands =>
        have hother : name ≠ commandName rawName := fun heq => hcovered ⟨rfl, heq⟩
        simpa [guardOf?, hother] using hguard
      | enums | flags | handles | scalars | structs => exact hguard
  | @type rawName _ htag hname hchange =>
    by_cases hlookup : lookup = .commands
    · subst hlookup
      have hcommands : later.commands = spec.commands := by
        cases hchange <;> rfl
      have hother : ¬Covers root spec .commands name items requirement := by
        simp [Covers, Requirement.Names, htag]
      refine .inr ⟨hother, ?_⟩
      unfold guardOf? at hguard ⊢
      rwa [hcommands] at hguard
    · rw [hchange.guardOf?_eq hspec hlookup] at hguard
      obtain ⟨old, hold, heq⟩ := Option.map_eq_some_iff.1 hguard
      rw [covers_of_type htag hname hmembers hold]
      split at heq
      · rename_i hreaches
        exact .inl ⟨⟨hlookup, hreaches⟩, heq.symm⟩
      · rename_i hreaches
        exact .inr ⟨fun hboth => hreaches hboth.2, heq ▸ hold⟩
  | @enumerator extended rawName enumeration added htag hextends hname hget hadd =>
    refine .inr ⟨not_covers (by simp [htag]) (by simp [htag]), ?_⟩
    obtain ⟨shown, -, rfl⟩ := add_eq_ok hadd
    cases lookup with
    | enums =>
      by_cases heq : name = typeName extended
      · simpa [guardOf?, heq, hget] using hguard
      · simpa [guardOf?, heq] using hguard
    | commands | flags | handles | scalars | structs => exact hguard
  | skip hcommand htype => exact .inr ⟨not_covers hcommand htype, hguard⟩

/-- Items leave the entities alone. -/
theorem Requirement.Change.entities_eq (h : requirement.Change spec later) :
    later.entities = spec.entities := by
  cases h with
  | type _ _ hguard => cases hguard <;> rfl
  | command | enumerator | skip => rfl

/-- Items add no type of flags. -/
theorem Requirement.Change.contains_flags (h : requirement.Change spec later) (flags : String) :
    later.flags.contains flags = spec.flags.contains flags := by
  cases h with
  | @type rawName _ _ _ hguard =>
    cases hguard with
    | flags hname =>
      show (spec.flags.set (typeName rawName) requirement.guard).contains flags = _
      rw [Bool.eq_iff_iff, Table.contains_set]
      constructor
      · rintro (rfl | hold)
        · exact hname
        · exact hold
      · exact .inr
    | enum | scalar | aggregate | handle | outside => rfl
  | command | enumerator | skip => rfl

/-- What an item covers depends on the types of flags and what is behind them. -/
theorem covers_congr (hentities : later.entities = spec.entities)
    (hflags : ∀ flags, later.flags.contains flags = spec.flags.contains flags) :
    Covers root later lookup name = Covers root spec lookup name := by
  have hbacking : later.backing = spec.backing := by
    funext flags
    unfold Spec.backing Spec.entity?
    rw [hentities]
  funext items requirement
  unfold Covers
  simp only [hflags, hbacking]

/-- The guard of everything that an item of the extensions may cover is that of the last item
that does. -/
theorem isLastGuard_of_along (h : Along Requirement.Change spec items later)
    (hread : Changes .initial spec) (hspec : spec.Unguarded)
    (hmembers : HasMembers spec name (groupsOf root name) [])
    (hguard : later.guardOf? lookup name = some guard) :
    IsLastGuard (Covers root later lookup name) items guard := by
  induction h generalizing guard with
  | nil =>
    rw [hspec lookup name guard hguard]
    exact isLastGuard_nil
  | @snoc done state next requirement hdone hitem ih =>
    have hstate : state.Consistent :=
      consistent_of_along hdone hread fun _ _ _ hchange => hchange.amendments.changes
    have hcovers : Covers root next lookup name = Covers root state lookup name :=
      covers_congr hitem.entities_eq hitem.contains_flags
    rw [hcovers]
    have hstateMembers := hasMembers_of_requirements hdone hmembers
    rcases hitem.guardOf?_eq_some hstate hstateMembers hguard with
      ⟨hcovered, rfl⟩ | ⟨hother, hold⟩
    · exact isLastGuard_concat hcovered
    · exact (ih hold).concat hother

/-- The guard of a command, a type or an enum is that of the last item which covers it, in the
order of the document. -/
theorem guards_last (hread : Spec.ofRegistry root = .ok spec)
    (hguard : spec.guardOf? lookup name = some guard) :
    IsLastGuard (Covers root spec lookup name) (requirements root) guard := by
  obtain ⟨tagged, typed, grouped, listed, hstages⟩ := exists_stages hread
  exact isLastGuard_of_along (along_requirements hstages.extensions hstages.changes_listed)
    hstages.changes_listed (unguarded_of_stages hstages) (hasMembers_of_stages hstages name) hguard

/-- In the sample, the second extension takes over the type of flags, but no longer the enum
behind it, which has got a member by then. -/
theorem sample_guards_last : ∃ spec, Spec.ofRegistry sampleExtensions = .ok spec ∧
    spec.guardOf? .flags "UsageFlags" = some "VK_USE_LATE" ∧
    spec.guardOf? .enums "UsageFlagBits" = some "VK_USE_SURFACE" ∧
    IsLastGuard (Covers sampleExtensions spec .flags "UsageFlags") (requirements sampleExtensions)
      "VK_USE_LATE" ∧
    IsLastGuard (Covers sampleExtensions spec .enums "UsageFlagBits")
      (requirements sampleExtensions) "VK_USE_SURFACE" := by
  have hsample : (Spec.ofRegistry sampleExtensions).toOption.any (fun spec =>
      spec.guardOf? .flags "UsageFlags" == some "VK_USE_LATE" &&
        spec.guardOf? .enums "UsageFlagBits" == some "VK_USE_SURFACE") = true := by
    decide +kernel
  obtain ⟨spec, hread, hguards⟩ := exists_of_any hsample
  obtain ⟨hflags, hbits⟩ := Bool.and_eq_true_iff.1 hguards
  have hflags := beq_iff_eq.1 hflags
  have hbits := beq_iff_eq.1 hbits
  exact ⟨spec, hread, hflags, hbits, guards_last hread hflags, guards_last hread hbits⟩

end VulkanBindings.Registry
