import VulkanBindings.Proofs.Registry.Requirements

/-!
# The members of an enum

An enum gets its members in two stages: first the enumerators of its group, and then those
that extensions contribute.  `HasMembers` says of an enum that it has one member for each
element that has been read, in order; every change keeps this up (`GroupChange.hasMembers`,
`ItemChange.hasMembers`).  At the end, `hasMembers_of_ofRegistry` says it of all elements of
the document.
-/

namespace VulkanBindings.Registry

open Naming (typeName)
open Xml (Node)

/-- An enumerator as the document has it: the element that names it, the vendor tag in its
name, and whether the bindings put the tag back at the end. -/
structure Contribution where
  element : Node
  tag : String
  appendTag : Bool

/-- An enumerator that extends no enum carries the tag of its group, which is left out of its
name. -/
def Contribution.declared (tag : String) (element : Node) : Contribution :=
  ⟨element, tag, false⟩

/-- The member that an enum gets from an enumerator of the document. -/
def Enumeration.Enters (enumeration : Enumeration) (contribution : Contribution)
    (member : Enumerator) : Prop :=
  contribution.element.attribute? "name" = some member.value ∧
    enumeration.nameOf member.value contribution.tag contribution.appendTag = .ok member.name

/-! ## Enumerators of a document -/

/-- Whether a section is a group that becomes the enum of the given name. -/
def isGroupOf (name : String) (node : Node) : Bool :=
  (node.attribute? "name").any fun rawName =>
    !skippedGroups.contains rawName && typeName rawName == name

/-- The groups that become the enum of the given name. -/
def groupsOf (root : Node) (name : String) : List Node :=
  (sectionNodes root .enums).filter (isGroupOf name)

/-- The elements of a group that name an enumerator. -/
def enumElements (node : Node) : List Node :=
  node.children.filter (·.tag == "enum")

/-- The vendor tag of the enumerators of a group. -/
def groupTag (tags : NameSet) (node : Node) : String :=
  match groupOf node (typeName ((node.attribute? "name").getD "")) tags with
  | .ok (_, tag) => tag
  | .error _ => ""

/-- The enumerators of a group. -/
def declaredIn (tags : NameSet) (node : Node) : List Contribution :=
  (enumElements node).map (.declared (groupTag tags node))

namespace Requirement

/-- Whether the item contributes an enumerator to the enum of the given name. -/
def contributesTo (requirement : Requirement) (name : String) : Bool :=
  requirement.item.tag == "enum" &&
    (requirement.item.attribute? "extends").any (typeName · == name)

/-- The enumerator that the item contributes.  One with a value spells its name out in full;
any other carries the tag of its extension. -/
def contribution (requirement : Requirement) : Contribution :=
  let symbolic := (requirement.item.attribute? "value").isNone
  ⟨requirement.item, if symbolic then requirement.tag else "", symbolic⟩

end Requirement

/-- The items that contribute to the enum of the given name. -/
def contributorsTo (root : Node) (name : String) : List Requirement :=
  (requirements root).filter (·.contributesTo name)

/-- The enumerators of some groups, and those of some items after them. -/
def contributionsOf (tags : NameSet) (groups : List Node) (items : List Requirement) :
    List Contribution :=
  groups.flatMap (declaredIn tags) ++ items.map Requirement.contribution

/-- An enum comes from one group, or from a type of flags that brings it along. -/
def FromGroups (name : String) (groups : List Node) : Prop :=
  (∃ node, groups = [node]) ∨ groups = [] ∧ ∃ flags, Naming.flagBits flags = .ok name

/-- The enum of the given name, if there is one, has the members that the groups declare and
the items contribute, in this order. -/
def HasMembers (spec : Spec) (name : String) (groups : List Node) (items : List Requirement) :
    Prop :=
  match spec.enums.get? name with
  | some enumeration => FromGroups name groups ∧
    List.Forall₂ enumeration.Enters
      (contributionsOf spec.tags groups items) enumeration.members
  | none => groups = [] ∧ items = []

/-- The elements of a document that name the members of an enum: those of its group, and then
the items of enabled extensions that extend it. -/
def enumeratorElements (root : Node) (name : String) : List Node :=
  (groupsOf root name).flatMap enumElements ++ (contributorsTo root name).map (·.item)

variable {root node : Node} {spec later : Spec} {name : String}

theorem elements_contributionsOf (tags : NameSet) (groups : List Node) (items : List Requirement) :
    (contributionsOf tags groups items).map (·.element) =
      groups.flatMap enumElements ++ items.map (·.item) := by
  unfold contributionsOf declaredIn
  rw [List.map_append, List.map_flatMap, List.map_map]
  have hdeclared : ∀ node,
      ((enumElements node).map (Contribution.declared (groupTag tags node))).map (·.element) =
        enumElements node := by
    intro node
    rw [List.map_map]
    exact List.map_id _
  simp only [hdeclared]
  rfl

/-- The values of the members are the names of the elements. -/
theorem values_of_enters {enumeration : Enumeration} {contributions : List Contribution}
    {members : List Enumerator} (h : List.Forall₂ enumeration.Enters contributions members) :
    members.map (some ·.value) = contributions.map (·.element.attribute? "name") := by
  induction h with
  | nil => rfl
  | cons hmember _ ih =>
    rw [List.map_cons, List.map_cons, ih, hmember.1]

/-- There are no contributions if no element names an enumerator. -/
theorem contributionsOf_eq_nil_iff {tags : NameSet} {groups : List Node}
    {items : List Requirement} : contributionsOf tags groups items = [] ↔
      groups.flatMap enumElements = [] ∧ items = [] := by
  rw [← List.map_eq_nil_iff (f := fun contribution : Contribution => contribution.element),
    elements_contributionsOf, List.append_eq_nil_iff, List.map_eq_nil_iff]

theorem hasMembers_of_some {enumeration : Enumeration} {groups : List Node}
    {items : List Requirement} (hget : spec.enums.get? name = some enumeration) :
    HasMembers spec name groups items ↔ FromGroups name groups ∧
      List.Forall₂ enumeration.Enters
        (contributionsOf spec.tags groups items) enumeration.members := by
  unfold HasMembers
  rw [hget]

theorem hasMembers_of_none {groups : List Node} {items : List Requirement}
    (hget : spec.enums.get? name = none) :
    HasMembers spec name groups items ↔ groups = [] ∧ items = [] := by
  unfold HasMembers
  rw [hget]

/-- A spec with the same enums has the same members. -/
theorem HasMembers.congr {groups : List Node} {items : List Requirement}
    (h : HasMembers spec name groups items)
    (henums : later.enums.get? name = spec.enums.get? name) (htags : later.tags = spec.tags) :
    HasMembers later name groups items := by
  unfold HasMembers
  rw [henums, htags]
  exact h

/-- An enum that has not changed but for its guard yields the same members. -/
theorem HasMembers.guarded {groups : List Node} {items : List Requirement}
    {enumeration : Enumeration} {guard : String} (h : HasMembers spec name groups items)
    (hget : spec.enums.get? name = some enumeration)
    (hlater : later.enums.get? name = some { enumeration with guard })
    (htags : later.tags = spec.tags) : HasMembers later name groups items := by
  rw [hasMembers_of_some hlater, htags]
  exact (hasMembers_of_some hget).1 h

/-! ## Tags -/

theorem tags_withCommand (command : Command) :
    (spec.withCommand name command).tags = spec.tags := by
  unfold Spec.withCommand
  cases command.owner <;> rfl

theorem enums_withCommand (command : Command) :
    (spec.withCommand name command).enums = spec.enums := by
  unfold Spec.withCommand
  cases command.owner <;> rfl

theorem GuardChange.tags_eq {guard : String} (h : GuardChange spec name guard later) :
    later.tags = spec.tags := by
  cases h <;> rfl

theorem ItemChange.tags_eq {guard tag : String} (h : ItemChange node guard tag spec later) :
    later.tags = spec.tags := by
  cases h with
  | type _ _ hguard => exact hguard.tags_eq
  | command | enumerator | skip => rfl

/-! ## Members of a group -/

/-- A group starts without members and without a guard. -/
theorem groupOf_bare {tag : String} {tags : NameSet} {group : Enumeration}
    (h : groupOf node name tags = .ok (group, tag)) :
    ∃ isBitmask stem ending, group = .bare isBitmask stem ending := by
  unfold groupOf at h
  split at h
  · obtain ⟨rfl, -⟩ := Prod.mk.inj (Except.ok.inj h)
    exact ⟨_, _, _, rfl⟩
  · obtain ⟨kind, -, h⟩ := bind_eq_ok_iff.1 h
    dsimp only at h
    split at h
    · cases hcut : Text.cut? "FlagBits" name with
      | none =>
        rw [hcut] at h
        cases h
      | some parts =>
        rw [hcut] at h
        obtain ⟨rfl, -⟩ := Prod.mk.inj (Except.ok.inj h)
        exact ⟨_, _, _, rfl⟩
    · split at h
      · obtain ⟨rfl, -⟩ := Prod.mk.inj (Except.ok.inj h)
        exact ⟨_, _, _, rfl⟩
      · cases h

/-- Reading a group gives it members, one for each element that names an enumerator. -/
theorem readEnumerators_meets_members {tag : String} {group : Enumeration}
    (hempty : group.members = []) :
    Meets (readEnumerators node tag group)
      (fun later => ∃ members, later = { group with members } ∧
        List.Forall₂ group.Enters ((enumElements node).map (.declared tag)) members)
      fun _ => True := by
  refine .foldlM_along (fun (done : List Node) (state : Enumeration) =>
    ∃ members, state = { group with members } ∧
      List.Forall₂ group.Enters ((done.filter (·.tag == "enum")).map (.declared tag)) members)
    ⟨[], by rw [← hempty], .nil⟩ ?_
  intro done state child _ hstate
  obtain ⟨members, rfl, hmembers⟩ := hstate
  refine .ofValues fun next hnext => ?_
  rw [List.filter_append, List.map_append]
  unfold readEnumerator at hnext
  split at hnext
  · rename_i henum
    obtain ⟨rawName, hname, hadd⟩ := bind_registry_eq_ok_iff.1 hnext
    obtain ⟨shown, hshown, rfl⟩ := add_eq_ok hadd
    refine ⟨members ++ [⟨shown, rawName⟩], rfl, List.rel_append hmembers ?_⟩
    rw [List.filter_singleton, henum, cond_true]
    exact .cons ⟨requireAttribute_eq_ok.1 hname, hshown⟩ .nil
  · rename_i hother
    rw [List.filter_singleton, eq_false_of_ne_true hother, cond_false, List.map_nil,
      List.append_nil]
    split at hnext
    · obtain rfl := Except.ok.inj hnext
      exact ⟨members, rfl, hmembers⟩
    · cases hnext

/-! ## Changes -/

/-- No type has members to offer. -/
theorem TypeChange.hasMembers (h : TypeChange spec later) (hspec : HasMembers spec name [] []) :
    HasMembers later name [] [] := by
  cases h with
  | @bits flags other hname hnew =>
    by_cases heq : name = other
    · subst heq
      have hget : ((spec.enums.set name (.bare true "" "")).get? name) = some (.bare true "" "") :=
        (Table.get?_set ..).trans (if_pos rfl)
      exact (hasMembers_of_some hget).2 ⟨.inr ⟨rfl, flags, hname⟩, .nil⟩
    · exact hspec.congr ((Table.get?_set ..).trans (if_neg heq)) rfl
  | notes | outside | scalar | flags | handle | aggregate => exact hspec.congr rfl rfl

theorem TypeChanges.hasMembers (h : TypeChanges spec later) (hspec : HasMembers spec name [] []) :
    HasMembers later name [] [] := by
  induction h with
  | refl => exact hspec
  | tail _ hchange ih => exact hchange.hasMembers ih

theorem isGroupOf_eq {rawName : String} (hname : node.attribute? "name" = some rawName)
    (hkept : rawName ∉ skippedGroups) : isGroupOf name node = (typeName rawName == name) := by
  have hcontains : skippedGroups.contains rawName = false := by simpa using hkept
  unfold isGroupOf
  rw [hname, Option.any_some, hcontains, Bool.not_false, Bool.true_and]

/-- A group brings its enum along with all members. -/
theorem GroupChange.hasMembers (h : GroupChange node spec later) (hconsistent : spec.Consistent)
    {groups : List Node} (hspec : HasMembers spec name groups []) :
    HasMembers later name (groups ++ [node].filter (isGroupOf name)) [] := by
  cases h with
  | skip hname hskipped =>
    have hother : isGroupOf name node = false := by
      unfold isGroupOf
      rw [hname, Option.any_some]
      simp [hskipped]
    rw [List.filter_singleton, hother, cond_false, List.append_nil]
    exact hspec
  | @declare rawName tag group enumeration hname hkept hgroup hread hnew =>
    by_cases heq : name = typeName rawName
    · subst heq
      have hgroupOf : isGroupOf (typeName rawName) node = true := by
        rw [isGroupOf_eq hname hkept]
        exact beq_self_eq_true _
      -- The name is new, so nothing has been read for it.
      have hold : spec.enums.get? (typeName rawName) = none :=
        Table.not_contains_iff.1 (Spec.not_contains_of_new (hconsistent.enums _) hnew)
      obtain ⟨rfl, -⟩ := (hasMembers_of_none hold).1 hspec
      have htag : groupTag spec.tags node = tag := by
        unfold groupTag
        rw [hname, Option.getD_some, hgroup]
      have hget : ((spec.enums.set (typeName rawName) enumeration).get? (typeName rawName)) =
          some enumeration := (Table.get?_set ..).trans (if_pos rfl)
      rw [List.nil_append, List.filter_singleton, hgroupOf, cond_true]
      refine (hasMembers_of_some hget).2 ⟨.inl ⟨node, rfl⟩, ?_⟩
      obtain ⟨isBitmask, stem, ending, rfl⟩ := groupOf_bare hgroup
      obtain ⟨members, rfl, hmembers⟩ := (readEnumerators_meets_members rfl).of_ok hread
      unfold contributionsOf
      rw [List.flatMap_singleton, List.map_nil, List.append_nil]
      subst htag
      exact hmembers
    · have hother : isGroupOf name node = false := by
        rw [isGroupOf_eq hname hkept]
        exact beq_eq_false_iff_ne.2 (Ne.symm heq)
      rw [List.filter_singleton, hother, cond_false, List.append_nil]
      exact hspec.congr ((Table.get?_set ..).trans (if_neg heq)) rfl

theorem CommandChange.hasMembers (h : CommandChange node spec later) {groups : List Node}
    {items : List Requirement} (hspec : HasMembers spec name groups items) :
    HasMembers later name groups items := by
  cases h with
  | declare command =>
    refine hspec.congr ?_ (tags_withCommand command)
    rw [enums_withCommand]

theorem get?_guardEmpty (enums : Table Enumeration) (bits guard : String) :
    (guardEmpty enums bits guard).get? name = (enums.get? name).map fun enumeration =>
      if name = bits ∧ enumeration.members = [] then { enumeration with guard }
      else enumeration := by
  unfold guardEmpty
  cases hbits : enums.get? bits with
  | none =>
    dsimp only
    by_cases heq : name = bits
    · rw [heq, hbits]
      rfl
    · simp [heq]
  | some enumeration =>
    dsimp only
    by_cases heq : name = bits
    · subst heq
      rw [hbits]
      split
      · rename_i hempty
        simp [List.isEmpty_iff.1 hempty]
      · rename_i hnonempty
        have hnonempty : enumeration.members ≠ [] := fun h => hnonempty (List.isEmpty_iff.2 h)
        simp [hbits, hnonempty]
    · split <;> simp [heq]

/-- A guard is no concern of the members. -/
theorem GuardChange.hasMembers {type guard : String} (h : GuardChange spec type guard later)
    {groups : List Node} {items : List Requirement} (hspec : HasMembers spec name groups items) :
    HasMembers later name groups items := by
  cases h with
  | enum =>
    cases hget : spec.enums.get? name with
    | none =>
      refine hspec.congr ?_ rfl
      rw [Table.get?_modify, hget]
      simp
    | some enumeration =>
      by_cases heq : name = type
      · have hguarded : (spec.enums.modify type fun entry => { entry with guard }).get? name =
            some { enumeration with guard } := by
          rw [Table.get?_modify, if_pos heq, hget]
          rfl
        exact hspec.guarded hget hguarded rfl
      · exact hspec.congr ((Table.get?_modify ..).trans (if_neg heq)) rfl
  | @flags bits =>
    cases hget : spec.enums.get? name with
    | none =>
      refine hspec.congr ?_ rfl
      rw [get?_guardEmpty, hget]
      rfl
    | some enumeration =>
      by_cases hcovered : name = bits ∧ enumeration.members = []
      · have hguarded : (guardEmpty spec.enums bits guard).get? name =
            some { enumeration with guard } := by
          rw [get?_guardEmpty, hget, Option.map_some, if_pos hcovered]
        exact hspec.guarded hget hguarded rfl
      · refine hspec.congr ?_ rfl
        rw [get?_guardEmpty, hget, Option.map_some, if_neg hcovered]
  | scalar | aggregate | handle => exact hspec.congr rfl rfl
  | outside => exact hspec

/-- An item that contributes to an enum adds one member at its end. -/
theorem Requirement.Change.hasMembers {requirement : Requirement}
    (h : requirement.Change spec later) {groups : List Node} {items : List Requirement}
    (hspec : HasMembers spec name groups items) :
    HasMembers later name groups (items ++ [requirement].filter (·.contributesTo name)) := by
  have hskip : requirement.contributesTo name = false → ∀ {state : Spec},
      HasMembers state name groups items →
      HasMembers state name groups (items ++ [requirement].filter (·.contributesTo name)) := by
    intro hother state hstate
    rw [List.filter_singleton, hother, cond_false, List.append_nil]
    exact hstate
  cases h with
  | command htag =>
    refine hskip ?_ (hspec.congr rfl rfl)
    simp [contributesTo, htag]
  | type htag hname hguard =>
    refine hskip ?_ (hguard.hasMembers hspec)
    simp [contributesTo, htag]
  | skip _ _ hextends =>
    refine hskip ?_ hspec
    by_cases henum : requirement.item.tag = "enum"
    · simp [contributesTo, hextends henum]
    · simp [contributesTo, henum]
  | @enumerator extended rawName enumeration added htag hextends hname hget hadd =>
    by_cases heq : name = typeName extended
    · subst heq
      have hcontributes : requirement.contributesTo (typeName extended) = true := by
        simp [contributesTo, htag, hextends]
      obtain ⟨hgroups, hmembers⟩ := (hasMembers_of_some hget).1 hspec
      obtain ⟨shown, hshown, rfl⟩ := add_eq_ok hadd
      rw [List.filter_singleton, hcontributes, cond_true]
      refine (hasMembers_of_some ((Table.get?_set ..).trans (if_pos rfl))).2 ⟨hgroups, ?_⟩
      unfold contributionsOf
      rw [List.map_append, ← List.append_assoc]
      exact List.rel_append hmembers (.cons ⟨hname, hshown⟩ .nil)
    · refine hskip ?_ (hspec.congr ((Table.get?_set ..).trans (if_neg heq)) rfl)
      simp [contributesTo, hextends, Ne.symm heq]

/-! ## The whole registry -/

/-- The groups of a document bring their enums along. -/
theorem hasMembers_of_groups {nodes : List Node} (h : Along GroupChange spec nodes later)
    (hread : Changes .initial spec) (hspec : HasMembers spec name [] []) :
    HasMembers later name (nodes.filter (isGroupOf name)) [] := by
  induction h with
  | nil => exact hspec
  | @snoc done state next item hdone hitem ih =>
    have hstate : state.Consistent :=
      consistent_of_along hdone hread fun _ _ _ hgroup => hgroup.early.changes
    rw [List.filter_append]
    exact hitem.hasMembers hstate ih

/-- The items of extensions contribute to enums that are there. -/
theorem hasMembers_of_requirements {items : List Requirement}
    (h : Along Requirement.Change spec items later) {groups : List Node}
    (hspec : HasMembers spec name groups []) :
    HasMembers later name groups (items.filter (·.contributesTo name)) := by
  induction h with
  | nil => exact hspec
  | snoc _ hitem ih =>
    rw [List.filter_append]
    exact hitem.hasMembers ih

/-- Before extensions are read, an enum has the members of its group. -/
theorem hasMembers_of_stages {tagged typed grouped listed : Spec}
    (h : Stages root tagged typed grouped listed spec) (name : String) :
    HasMembers listed name (groupsOf root name) [] := by
  have htagged : HasMembers tagged name [] [] := by
    obtain ⟨license, tags, -, rfl⟩ := h.start
    exact ⟨rfl, rfl⟩
  have htyped : HasMembers typed name [] [] := h.types.hasMembers htagged
  have hgrouped : HasMembers grouped name (groupsOf root name) [] :=
    hasMembers_of_groups h.groups h.changes_typed htyped
  exact h.commands.invariant (HasMembers · name (groupsOf root name) []) hgrouped
    fun _ _ _ hcommand => hcommand.hasMembers

/-- An enum of a registry has one member for each element of its group that names an
enumerator, and for each item that an extension contributes to it. -/
theorem hasMembers_of_ofRegistry (h : Spec.ofRegistry root = .ok spec) (name : String) :
    HasMembers spec name (groupsOf root name) (contributorsTo root name) := by
  obtain ⟨tagged, typed, grouped, listed, hstages⟩ := exists_stages h
  have hrequirements := along_requirements hstages.extensions hstages.changes_listed
  exact hasMembers_of_requirements hrequirements (hasMembers_of_stages hstages name)

/-- The values of an enum are the names of the elements that name its members, in the order of
the document. -/
theorem values_of_ofRegistry (h : Spec.ofRegistry root = .ok spec) {enumeration : Enumeration}
    (hget : spec.enums.get? name = some enumeration) :
    enumeration.members.map (some ·.value) =
      (enumeratorElements root name).map (·.attribute? "name") := by
  obtain ⟨-, hmembers⟩ := (hasMembers_of_some hget).1 (hasMembers_of_ofRegistry h name)
  unfold enumeratorElements
  rw [values_of_enters hmembers, ← elements_contributionsOf spec.tags, List.map_map]
  rfl

end VulkanBindings.Registry
