import VulkanBindings.Proofs.Registry.Reading
import VulkanBindings.Proofs.Text.Search

/-!
# What becomes of the enumerators of a document

The words between the stem and the tag of a native name become the name of the enumerator
(`nameOf_of_between`), which an enum takes in under that name (`add_eq_ok`).

Once there is an enum of some name, it keeps the stem that its group gave it, and all
members that it has got (`Enumeration.Extends`).  `Change.develops` says so of each
change, and also that a new enum is a group or the enum of some bits.

A reader goes through the document from one spec to the next, by changes only.  So the
enumerator that an element declares is a member of the enum in the end, under the name
that `nameOf` gave it when it was read: `exists_declared` says this of the elements of a
group, and `exists_contributed` of those of an extension.
-/

namespace VulkanBindings.Registry

open Naming (between camelCase enumeratorMark extensionTag typeName)
open Xml (Node)

/-! ## Names of enumerators -/

section Names

variable {enumeration : Enumeration} {rawName tag name : String} {appendTag : Bool}

/-- The words of a native name that carries its tag become the name of the enumerator, to which
the tag is put on demand. -/
theorem nameOf_of_between {words : String} (hcarried : tag = "" ∨ Text.occurs tag rawName = true)
    (hwords : between enumeration.stem tag rawName = .ok words) (appendTag : Bool) :
    enumeration.nameOf rawName tag appendTag =
      .ok (if appendTag then enumeration.cutEnding (enumeratorMark ++ camelCase words) ++ tag
        else enumeration.cutEnding (enumeratorMark ++ camelCase words)) := by
  have hpassed : ¬ (!tag.isEmpty && !Text.occurs tag rawName) = true := by
    rcases hcarried with rfl | hoccurs
    · simp
    · simp [hoccurs]
  unfold Enumeration.nameOf
  dsimp only
  rw [if_neg hpassed, hwords]
  rfl

/-- A native name that gets a name carries its tag, and has words. -/
theorem exists_words (h : enumeration.nameOf rawName tag appendTag = .ok name) :
    (tag = "" ∨ Text.occurs tag rawName = true) ∧
      ∃ words, between enumeration.stem tag rawName = .ok words := by
  unfold Enumeration.nameOf at h
  dsimp only at h
  split at h
  · cases h
  · rename_i hpassed
    refine ⟨by simpa [Classical.or_iff_not_imp_left] using hpassed, ?_⟩
    cases hwords : between enumeration.stem tag rawName with
    | error fault =>
      rw [hwords] at h
      cases h
    | ok words => exact ⟨words, rfl⟩

theorem cutEnding_plain (hplain : enumeration.isBitmask = false) (name : String) :
    enumeration.cutEnding name = name := by
  unfold Enumeration.cutEnding
  rw [hplain]
  rfl

/-- An enum that has no bits names an enumerator after its words. -/
theorem nameOf_plain {words : String} (hplain : enumeration.isBitmask = false)
    (hcarried : tag = "" ∨ Text.occurs tag rawName = true)
    (hwords : between enumeration.stem tag rawName = .ok words) (appendTag : Bool) :
    enumeration.nameOf rawName tag appendTag =
      .ok (if appendTag then enumeratorMark ++ camelCase words ++ tag
        else enumeratorMark ++ camelCase words) := by
  rw [nameOf_of_between hcarried hwords, cutEnding_plain hplain]

/-- An enum takes the enumerator in under its name. -/
theorem add_eq_ok {later : Enumeration} (h : enumeration.add rawName tag appendTag = .ok later) :
    ∃ name, enumeration.nameOf rawName tag appendTag = .ok name ∧
      later = { enumeration with members := enumeration.members ++ [⟨name, rawName⟩] } := by
  unfold Enumeration.add at h
  obtain ⟨name, hname, h⟩ := bind_eq_ok_iff.1 h
  exact ⟨name, hname, (Except.ok.inj h).symm⟩

theorem add_of_nameOf (h : enumeration.nameOf rawName tag appendTag = .ok name) :
    enumeration.add rawName tag appendTag =
      .ok { enumeration with members := enumeration.members ++ [⟨name, rawName⟩] } := by
  unfold Enumeration.add
  rw [h]
  rfl

end Names

/-! ## Enums grow -/

/-- An enumerator gets the same name before and after. -/
theorem Enumeration.Extends.nameOf_eq {old new : Enumeration} (h : old.Extends new) :
    new.nameOf = old.nameOf := by
  funext rawName tag appendTag
  unfold nameOf cutEnding
  rw [h.isBitmask, h.stem, h.ending]

/-- What reading does to the enum of a name, if there is one. -/
inductive Develops (origin : Enumeration → Prop) : Option Enumeration → Option Enumeration → Prop
  where
  | absent : Develops origin none none
  | new {enumeration : Enumeration} (h : origin enumeration) :
    Develops origin none (some enumeration)
  | grown {old new : Enumeration} (h : old.Extends new) : Develops origin (some old) (some new)

theorem Develops.refl {origin : Enumeration → Prop} (entry : Option Enumeration) :
    Develops origin entry entry := by
  cases entry with
  | none => exact .absent
  | some enumeration => exact .grown (.refl enumeration)

variable {spec later : Spec} {root node : Node}

/-- What a change does to the enum of a name. -/
theorem Change.develops (hchange : Change spec later) (h : spec.Consistent) (name : String) :
    Develops (EnumOrigin spec.tags name) (spec.enums.get? name) (later.enums.get? name) := by
  cases hchange with
  | @enum other enumeration horigin hnew =>
    show Develops _ _ ((spec.enums.set other enumeration).get? name)
    rw [Table.get?_set]
    split
    · rename_i heq
      subst heq
      rw [Table.not_contains_iff.1 (Spec.not_contains_of_new (h.enums name) hnew)]
      exact .new horigin
    · exact .refl _
  | guardEnum other guard =>
    rw [Table.get?_modify]
    split
    · cases spec.enums.get? name with
      | none => exact .absent
      | some enumeration => exact .grown ⟨rfl, rfl, rfl, List.prefix_refl _⟩
    · exact .refl _
  | guardBits guard hbits _ =>
    rw [Table.get?_set]
    split
    · rename_i heq
      subst heq
      rw [hbits]
      exact .grown ⟨rfl, rfl, rfl, List.prefix_refl _⟩
    · exact .refl _
  | contribute enumerator hname =>
    rw [Table.get?_set]
    split
    · rename_i heq
      subst heq
      rw [hname]
      exact .grown ⟨rfl, rfl, rfl, List.prefix_append _ _⟩
    · exact .refl _
  | @command other command =>
    have henums : (spec.withCommand other command).enums = spec.enums := by
      unfold Spec.withCommand
      cases command.owner <;> rfl
    rw [henums]
    exact .refl _
  | notes | outside | scalar | flags | handle | aggregate | guardFlags | guardScalar
  | guardAggregate | guardHandle | guardCommand => exact .refl _

theorem Change.tags (hchange : Change spec later) {tag : String} (htag : tag ∈ spec.tags) :
    tag ∈ later.tags := by
  cases hchange with
  | notes htags => exact htags tag htag
  | command command =>
    unfold Spec.withCommand
    cases command.owner <;> exact htag
  | outside | scalar | enum | flags | handle | aggregate | guardEnum | guardFlags | guardScalar
  | guardAggregate | guardHandle | guardCommand | guardBits | contribute => exact htag

theorem Changes.tags (h : Changes spec later) {tag : String} (htag : tag ∈ spec.tags) :
    tag ∈ later.tags := by
  induction h with
  | refl => exact htag
  | tail _ hchange ih => exact hchange.tags ih

/-- An enum never goes away. -/
theorem Changes.exists_extends (h : Changes spec later) (hspec : spec.Consistent) {name : String}
    {old : Enumeration} (hold : spec.enums.get? name = some old) :
    ∃ new, later.enums.get? name = some new ∧ old.Extends new := by
  induction h with
  | refl => exact ⟨old, hold, .refl old⟩
  | @tail middle later hearlier hchange ih =>
    obtain ⟨enumeration, hget, hextends⟩ := ih
    have hdevelops := hchange.develops (Changes.consistent hearlier hspec) name
    rw [hget] at hdevelops
    generalize hnew : later.enums.get? name = entry at hdevelops
    cases hdevelops with
    | grown h => exact ⟨_, rfl, hextends.trans h⟩

/-- Every enum comes from a group or from a type of flags, at a time when no more tags were
known. -/
theorem Changes.exists_origin (h : Changes .initial spec) {name : String}
    {enumeration : Enumeration} (hget : spec.enums.get? name = some enumeration) :
    ∃ tags origin, (∀ tag ∈ tags, tag ∈ spec.tags) ∧ EnumOrigin tags name origin ∧
      origin.Extends enumeration := by
  induction h generalizing enumeration with
  | refl => simp [Spec.initial] at hget
  | @tail middle later hearlier hchange ih =>
    have hdevelops := hchange.develops (Changes.consistent hearlier Spec.consistent_initial) name
    rw [hget] at hdevelops
    generalize hold : middle.enums.get? name = entry at hdevelops
    cases hdevelops with
    | new horigin =>
      exact ⟨middle.tags, enumeration, fun _ => hchange.tags, horigin, .refl _⟩
    | grown h =>
      obtain ⟨tags, origin, htags, horigin, hextends⟩ := ih hold
      exact ⟨tags, origin, fun tag htag => hchange.tags (htags tag htag), horigin,
        hextends.trans h⟩

/-- An enum of bits has its name from a type of flags. -/
theorem occurs_of_flagBits {flags bits : String} (h : Naming.flagBits flags = .ok bits) :
    Text.occurs "FlagBits" bits = true := by
  unfold Naming.flagBits at h
  split at h
  · obtain rfl := Except.ok.inj h
    rw [Text.occurs_iff, String.toList_append, String.toList_append]
    exact ⟨_, _, rfl⟩
  · cases h

/-! ## On the way through the document -/

/-- Every section makes changes. -/
theorem section_changes (h : Changes .initial spec) (kind : Section) :
    Meets (kind.read node spec) (Changes spec) ReadingFailure := by
  cases kind with
  | comment | tags | types | enums =>
    exact (section_read_meets (by decide)).imp fun _ => EarlyChanges.changes
  | commands => exact readCommands_changes
  | extensions =>
    exact (readExtensions_meets (h.consistent Spec.consistent_initial)).imp fun _ =>
      Amendments.changes

/-- Each item of a loop on the way is read at some time. -/
theorem exists_on_way {α : Type} {step : Spec → α → Except Failure Spec} {items : List α}
    {start final : Spec} (hstart : Changes .initial start) (hfinal : Changes final spec)
    (hstep : ∀ state item, Changes .initial state →
      Meets (step state item) (Changes state) ReadingFailure)
    (h : items.foldlM step start = .ok final) {item : α} (hitem : item ∈ items) :
    ∃ before after, Changes .initial before ∧ step before item = .ok after ∧
      Changes after spec := by
  obtain ⟨before, after, hbefore, hread, hafter⟩ := exists_step Changes (fun _ => .refl)
    (fun h h' => h.trans h') (fun state item _ hstate => hstep state item (hstart.trans hstate))
    h hitem
  exact ⟨before, after, hstart.trans hbefore, hread, hafter.trans hfinal⟩

/-- Each section of a document is read at some time. -/
theorem exists_read (h : Spec.ofRegistry root = .ok spec) {child : Node}
    (hchild : child ∈ root.children) {kind : Section}
    (hkind : Section.ofTag? child.tag = some kind) :
    ∃ before after, Changes .initial before ∧ kind.read child before = .ok after ∧
      Changes after spec := by
  unfold Spec.ofRegistry at h
  obtain ⟨sections, hsections, h⟩ := bind_registry_eq_ok_iff.1 h
  dsimp only at h
  split at h
  · cases h
  have htag : kind.tag = child.tag := by simpa using List.find?_some hkind
  have hmem : (kind, child) ∈ sections := by
    unfold sectionsOf at hsections
    refine (mem_of_mapM hsections).2 ⟨child, List.mem_filter.2 ⟨hchild, ?_⟩, ?_⟩
    · rw [← htag]
      cases kind <;> decide
    · rw [hkind]
  have hordered : (kind, child) ∈ readingOrder sections := by
    refine List.mem_flatMap.2 ⟨kind, ?_, List.mem_filter.2 ⟨hmem, beq_self_eq_true _⟩⟩
    cases kind <;> decide
  exact exists_on_way .refl .refl (fun _ entry hstate => section_changes hstate entry.1) h hordered

/-! ## Enumerators of groups -/

/-- An element of a section, or of something that a section holds, names an enumerator. -/
def NamesEnumerator (element : Node) (rawName : String) : Prop :=
  element.tag = "enum" ∧ element.attribute? "name" = some rawName

theorem requireAttribute_eq_ok {label value : String} :
    requireAttribute node label = .ok value ↔ node.attribute? label = some value := by
  unfold requireAttribute
  split
  · rename_i found hfound
    rw [hfound, Except.ok.injEq, Option.some_inj]
  · rename_i hnone
    simp [hnone]

/-- What an element of a group names becomes a member. -/
theorem exists_member_of_readEnumerators {tag rawName : String} {group enumeration : Enumeration}
    (h : readEnumerators node tag group = .ok enumeration) {child : Node}
    (hchild : child ∈ node.children) (hnames : NamesEnumerator child rawName) :
    ∃ name, group.nameOf rawName tag false = .ok name ∧ ⟨name, rawName⟩ ∈ enumeration.members := by
  obtain ⟨htag, hname⟩ := hnames
  unfold readEnumerators at h
  obtain ⟨before, after, hbefore, hstep, hafter⟩ := exists_step Enumeration.Extends .refl .trans
    (fun state child _ _ => readEnumerator_meets tag state child) h hchild
  unfold readEnumerator at hstep
  rw [htag, requireAttribute_eq_ok.2 hname] at hstep
  obtain ⟨name, hnameOf, rfl⟩ := add_eq_ok hstep
  refine ⟨name, hbefore.nameOf_eq ▸ hnameOf, hafter.members.subset ?_⟩
  exact List.mem_append_right _ (List.mem_singleton_self _)

/-- Some section of the document is a group of the given name, and has an element for the
enumerator. -/
def DeclaresEnumerator (root : Node) (group rawName : String) : Prop :=
  ∃ node ∈ root.children, node.tag = Section.enums.tag ∧ node.attribute? "name" = some group ∧
    ∃ child ∈ node.children, NamesEnumerator child rawName

/-- Some enabled extension with the given tag adds the enumerator to an enum, and gives no
value for it. -/
def ContributesEnumerator (root : Node) (tag extended rawName : String) : Prop :=
  ∃ node ∈ root.children, node.tag = Section.extensions.tag ∧
    ∃ extension ∈ node.children, extension.tag = "extension" ∧
      (∃ name, extension.attribute? "name" = some name ∧ extensionTag name = .ok tag) ∧
      extension.attribute? "supported" ≠ some disabledSupport ∧
      ∃ required ∈ extension.children, required.tag = "require" ∧
        ∃ item ∈ required.children, NamesEnumerator item rawName ∧
          item.attribute? "extends" = some extended ∧ item.attribute? "value" = none

/-- The group that a section makes. -/
theorem readEnums_eq_ok (h : readEnums node spec = .ok later) {group : String}
    (hgroup : node.attribute? "name" = some group) (hkept : group ∉ skippedGroups) :
    ∃ origin tag enumeration, groupOf node (typeName group) spec.tags = .ok (origin, tag) ∧
      readEnumerators node tag origin = .ok enumeration ∧
      later.enums.get? (typeName group) = some enumeration := by
  have hchange : GroupChange node spec later := readEnums_meets.of_ok h
  cases hchange with
  | skip hname hskipped =>
    obtain rfl := Option.some.inj (hgroup.symm.trans hname)
    exact absurd hskipped hkept
  | @declare rawName tag origin enumeration hname _ horigin hread _ =>
    obtain rfl := Option.some.inj (hgroup.symm.trans hname)
    exact ⟨origin, tag, enumeration, horigin, hread, (Table.get?_set ..).trans (if_pos rfl)⟩

/-- A group that is neither one of bits nor the result codes has its name in its stem, but for
the tag at the end. -/
theorem groupOf_eq_ok {name tag : String} {tags : NameSet} {group : Enumeration}
    (h : groupOf node name tags = .ok (group, tag)) (hresult : name ≠ resultEnum)
    (hbits : Text.cut? "FlagBits" name = none) :
    tag = Naming.tagOfStart tags (stemOf name) ∧
      group = .bare false (dropTag (stemOf name) tag) "" := by
  unfold groupOf at h
  rw [if_neg fun heq => hresult (beq_iff_eq.1 heq)] at h
  obtain ⟨kind, -, h⟩ := bind_eq_ok_iff.1 h
  dsimp only at h
  split at h
  · rw [hbits] at h
    cases h
  · split at h
    · obtain ⟨rfl, rfl⟩ := Prod.mk.inj (Except.ok.inj h)
      exact ⟨rfl, rfl⟩
    · cases h

/-- What a group declares is a member in the end, under the name that it gets from what the
group makes of its own name. -/
theorem exists_declared (h : Spec.ofRegistry root = .ok spec) {group rawName : String}
    (hkept : group ∉ skippedGroups) (hdeclares : DeclaresEnumerator root group rawName) :
    ∃ node tags origin tag name enumeration, (∀ tag ∈ tags, tag ∈ spec.tags) ∧
      groupOf node (typeName group) tags = .ok (origin, tag) ∧
      origin.nameOf rawName tag false = .ok name ∧
      spec.enums.get? (typeName group) = some enumeration ∧
      ⟨name, rawName⟩ ∈ enumeration.members := by
  obtain ⟨node, hnode, htag, hgroup, child, hchild, hnames⟩ := hdeclares
  have hkind : Section.ofTag? node.tag = some .enums := by
    rw [htag]
    decide
  obtain ⟨before, after, hbefore, hread, hafter⟩ := exists_read h hnode hkind
  obtain ⟨origin, tag, enumeration, horigin, henumeration, hget⟩ :=
    readEnums_eq_ok hread hgroup hkept
  have hconsistent := (section_changes hbefore .enums).of_ok hread
  obtain ⟨final, hfinal, hextends⟩ := hafter.exists_extends
    (Changes.consistent (hbefore.trans hconsistent) Spec.consistent_initial) hget
  obtain ⟨name, hname, hmember⟩ := exists_member_of_readEnumerators henumeration hchild hnames
  exact ⟨node, before.tags, origin, tag, name, final,
    fun _ htag => Changes.tags (hconsistent.trans hafter) htag, horigin, hname, hfinal,
    hextends.members.subset hmember⟩

/-- What an extension with its tag amounts to: nothing if it is disabled, or else a loop over
its elements. -/
theorem readExtension_eq_ok (h : readExtension node spec = .ok later) :
    ∃ name tag, node.attribute? "name" = some name ∧ extensionTag name = .ok tag ∧
      tag ∈ spec.tags ∧
      if node.attribute? "supported" = some disabledSupport then later = spec
      else node.children.foldlM
        (readRequirement node ((node.attribute? "protect").getD "") tag) spec = .ok later := by
  unfold readExtension at h
  obtain ⟨name, hname, h⟩ := bind_registry_eq_ok_iff.1 h
  obtain ⟨tag, htag, h⟩ := bind_registry_eq_ok_iff.1 h
  refine ⟨name, tag, requireAttribute_eq_ok.1 hname, htag, ?_⟩
  dsimp only at h
  split at h
  · cases h
  · rename_i hknown
    refine ⟨not_not.1 hknown, ?_⟩
    by_cases hsupported : node.attribute? "supported" = some disabledSupport
    · rw [if_pos (by simpa using hsupported)] at h
      rw [if_pos hsupported]
      exact (Except.ok.inj h).symm
    · rw [if_neg (by simpa using hsupported)] at h
      rw [if_neg hsupported]
      exact h

/-- An enumerator without a value is entered with the tag of its extension. -/
theorem ItemChange.contributes {guard tag extended rawName : String}
    (h : ItemChange node guard tag spec later) (henum : node.tag = "enum")
    (hname : node.attribute? "name" = some rawName)
    (hextends : node.attribute? "extends" = some extended)
    (hvalue : node.attribute? "value" = none) :
    ∃ enumeration added, spec.enums.get? (typeName extended) = some enumeration ∧
      enumeration.add rawName tag true = .ok added ∧
      later.enums.get? (typeName extended) = some added := by
  cases h with
  | command htag _ => simp [henum] at htag
  | type htag _ _ => simp [henum] at htag
  | @enumerator other raw enumeration added _ hother hraw hget hadd =>
    obtain rfl := Option.some.inj (hextends.symm.trans hother)
    obtain rfl := Option.some.inj (hname.symm.trans hraw)
    rw [hvalue] at hadd
    exact ⟨enumeration, added, hget, hadd, (Table.get?_set ..).trans (if_pos rfl)⟩
  | skip _ _ hnone => simp [hnone henum] at hextends

/-- What an enabled extension contributes is read at some time. -/
theorem exists_contribute (h : Spec.ofRegistry root = .ok spec) {tag extended rawName : String}
    (hcontributes : ContributesEnumerator root tag extended rawName) :
    ∃ item guard before after, NamesEnumerator item rawName ∧
      item.attribute? "extends" = some extended ∧ item.attribute? "value" = none ∧
      Changes .initial before ∧ ItemChange item guard tag before after ∧ Changes after spec := by
  obtain ⟨node, hnode, htag, extension, hextension, hextensionTag, ⟨extensionName, hname, hvendor⟩,
    hsupported, required, hrequired, hrequire, item, hitem, hnames, hextends, hvalue⟩ :=
    hcontributes
  have hconsistent : ∀ {state : Spec}, Changes .initial state → state.Consistent :=
    fun hstate => Changes.consistent hstate Spec.consistent_initial
  have hkind : Section.ofTag? node.tag = some .extensions := by
    rw [htag]
    decide
  -- Each loop on the way down to the item is entered at the state that it was read in.
  obtain ⟨before, after, hbefore, hread, hafter⟩ := exists_read h hnode hkind
  obtain ⟨before, after, hbefore, hread, hafter⟩ := exists_on_way hbefore hafter
    (fun state child hstate => (readExtensionsChild_meets (hconsistent hstate) child).imp fun _ =>
      Amendments.changes) hread hextension
  have hread : readExtension extension before = .ok after := by
    unfold readExtensionsChild at hread
    rwa [hextensionTag] at hread
  obtain ⟨extensionName, vendor, hfound, hfoundTag, -, hread⟩ := readExtension_eq_ok hread
  obtain rfl := Option.some.inj (hname.symm.trans hfound)
  obtain rfl := Except.ok.inj (hvendor.symm.trans hfoundTag)
  rw [if_neg hsupported] at hread
  obtain ⟨before, after, hbefore, hread, hafter⟩ := exists_on_way hbefore hafter
    (fun state child hstate => (readRequirement_meets (hconsistent hstate) _ tag child).imp
      fun _ => Amendments.changes) hread hrequired
  unfold readRequirement at hread
  rw [hrequire] at hread
  obtain ⟨before, after, hbefore, hread, hafter⟩ := exists_on_way hbefore hafter
    (fun state child hstate => (readItem_meets (hconsistent hstate) required _ tag).imp
      fun _ hnext => hnext.amendments.changes) hread hitem
  exact ⟨item, _, before, after, hnames, hextends, hvalue, hbefore,
    (readItem_meets (hconsistent hbefore) required _ tag).of_ok hread, hafter⟩

/-- What an enabled extension contributes without a value is a member in the end, under the
name that it gets from the enum as it was. -/
theorem exists_contributed (h : Spec.ofRegistry root = .ok spec) {tag extended rawName : String}
    (hcontributes : ContributesEnumerator root tag extended rawName) :
    ∃ tags origin name enumeration, (∀ tag ∈ tags, tag ∈ spec.tags) ∧
      EnumOrigin tags (typeName extended) origin ∧ origin.nameOf rawName tag true = .ok name ∧
      spec.enums.get? (typeName extended) = some enumeration ∧
      ⟨name, rawName⟩ ∈ enumeration.members := by
  obtain ⟨item, guard, before, after, ⟨henum, hitemName⟩, hextends, hvalue, hbefore, hitem,
    hafter⟩ :=
    exists_contribute h hcontributes
  have hstep : Changes before after := hitem.amendments.changes
  obtain ⟨enumeration, added, hget, hadded, hgetAdded⟩ :=
    hitem.contributes henum hitemName hextends hvalue
  obtain ⟨name, hnameOf, rfl⟩ := add_eq_ok hadded
  have hconsistent : after.Consistent :=
    Changes.consistent (hbefore.trans hstep) Spec.consistent_initial
  obtain ⟨tags, origin, htags, horigin, hgrown⟩ := hbefore.exists_origin hget
  obtain ⟨final, hfinal, hextends⟩ := hafter.exists_extends hconsistent hgetAdded
  refine ⟨tags, origin, name, final, fun tag htag => ?_, horigin,
    hgrown.nameOf_eq ▸ hnameOf, hfinal,
    hextends.members.subset (List.mem_append_right _ (List.mem_singleton_self _))⟩
  exact Changes.tags (hstep.trans hafter) (htags tag htag)

end VulkanBindings.Registry
