import VulkanBindings.Proofs.Outcome
import VulkanBindings.Proofs.Registry.Declarations

/-!
# Every reader makes changes

A reader takes an element of the registry and a spec, and yields the spec after
what the element says.  Each lemma of this file says of one reader that the
spec it yields comes from the first by changes (`Changes`), and how it can fail.
The readers of extensions rely on the spec being consistent, which it is after
any changes; at the end, `ofRegistry_meets` says of a whole registry what spec it
yields and how reading it fails.
-/

namespace VulkanBindings.Registry

open Xml (Node)

variable {node : Node} {spec : Spec}

/-! ## How reading fails -/

/-- A failure that reading a registry can end in: the registry has a defect, or a
name was to be cut at a marker that it does not hold. -/
inductive ReadingFailure : Failure → Prop where
  | registry (fault : Fault) : ReadingFailure (.registry fault)
  | unmarked {start marker name : String}
    (h : Naming.between start marker name = .error (.markerAbsent name marker)) :
    ReadingFailure (.text (.markerAbsent name marker))

/-- A reader that knows defects of the registry only. -/
theorem meets_lift_reading {α : Type} {x : Except Fault α} {value : α → Prop}
    (h : Meets x value fun _ => True) : Meets (liftM x : Except Failure α) value ReadingFailure :=
  meets_lift_defects .registry h

/-- A step that the registry may be refused at, and of whose result nothing is used. -/
theorem meets_required {α β : Type} {x : Except Fault α} {f : α → Except Failure β}
    {value : β → Prop} (h : ∀ a, Meets (f a) value ReadingFailure) :
    Meets ((liftM x : Except Failure α) >>= f) value ReadingFailure :=
  meets_bind.2 (meets_lift_reading (.ofValues fun a _ => h a))

/-- Cutting a name fails for one reason only. -/
theorem between_meets (start marker name : String) :
    Meets (Naming.between start marker name) (fun _ => True) fun fault =>
      ReadingFailure (.text fault) := by
  cases h : Naming.between start marker name with
  | ok rest => trivial
  | error fault =>
    have hfault : fault = .markerAbsent name marker := by
      simp only [Naming.between] at h
      split at h
      · cases h
      · split at h
        · cases h
        · exact (Except.error.inj h).symm
    subst hfault
    exact .unmarked h

/-! ## Attributes and children -/

theorem requireAttribute_meets (label : String) :
    Meets (requireAttribute node label) (fun value => node.attribute? label = some value)
      fun _ => True := by
  unfold requireAttribute
  cases hvalue : node.attribute? label with
  | some value => exact rfl
  | none => trivial

theorem requireChild_meets (tag : String) :
    Meets (requireChild node tag) (fun child => node.find? tag = some child) fun _ => True := by
  unfold requireChild
  cases hfind : node.find? tag with
  | some child => exact rfl
  | none => trivial

/-! ## Members -/

theorem member_read_meets (needs : NameSet) :
    Meets (Member.read node needs) (fun read => read.2 = needs.insert read.1.baseType)
      fun _ => True := by
  unfold Member.read
  rw [meets_bind]
  exact .ofValues fun member _ => rfl

theorem typesOf_append (members : List Member) (member : Member) :
    typesOf (members ++ [member]) = (typesOf members).insert member.baseType := by
  unfold typesOf
  rw [List.map_append, List.map_singleton, NameSet.ofList_append]

theorem readMembers_meets :
    Meets (readMembers node) (fun read => read.2 = typesOf read.1) fun _ => True := by
  refine .foldlM (fun read : List Member × NameSet => read.2 = typesOf read.1) rfl
    fun (members, needs) child _ hread => ?_
  dsimp only
  split
  · rw [meets_bind]
    refine (member_read_meets needs).imp fun (member, later) hlater => ?_
    show later = typesOf (members ++ [member])
    rw [typesOf_append, ← hread]
    exact hlater
  · split
    · exact hread
    · trivial

theorem readParameters_meets (children : List Node) (returnType : String) :
    Meets (readParameters node children (NameSet.ofList [returnType]))
      (fun read => read.needs = NameSet.ofList (returnType :: read.arguments.map (·.baseType)))
      fun _ => True := by
  refine .foldlM (fun (read : Parameters) =>
    read.needs = NameSet.ofList (returnType :: read.arguments.map (·.baseType))) rfl
    fun read child _ hread => ?_
  dsimp only
  split
  · rw [meets_bind]
    refine (member_read_meets read.needs).imp fun (member, later) hlater => ?_
    show later = NameSet.ofList (returnType :: (read.arguments ++ [member]).map (·.baseType))
    rw [List.map_append, List.map_singleton, ← List.cons_append, NameSet.ofList_append, ← hread]
    exact hlater
  · split
    · exact hread
    · trivial

/-! ## Types -/

theorem requireNew_meets (name : String) :
    Meets (spec.requireNew name) (fun _ => spec.hasEntity name = false) fun _ => True := by
  unfold Spec.requireNew
  split
  · trivial
  · exact eq_false_of_ne_true ‹_›

theorem declare_meets (kind : EntityKind) (name : String) (needs : NameSet) :
    Meets (spec.declare kind name needs)
      (fun later => spec.hasEntity name = false ∧ later = spec.withEntity kind name needs)
      fun _ => True := by
  unfold Spec.declare
  rw [meets_bind]
  exact (requireNew_meets name).imp fun _ hnew => ⟨hnew, rfl⟩

theorem readRequired_meets :
    Meets (readRequired node spec) (TypeChanges spec) fun _ => True := by
  unfold readRequired
  rw [meets_bind]
  refine .ofValues fun _ _ => ?_
  rw [meets_bind]
  refine .ofValues fun name _ => ?_
  refine (declare_meets .required name ∅).imp ?_
  rintro _ ⟨hnew, rfl⟩
  exact .single (.outside (.inl rfl) hnew)

theorem readScalar_meets : Meets (readScalar node spec) (TypeChanges spec) fun _ => True := by
  unfold readScalar
  rw [meets_bind]
  refine .ofValues fun underlying _ => ?_
  extract_lets underlying
  rw [meets_bind]
  refine .ofValues fun nameNode _ => ?_
  extract_lets name
  split
  · exact .refl
  · rw [meets_bind]
    refine (declare_meets .scalar name (NameSet.ofList [underlying])).imp ?_
    rintro _ ⟨hnew, rfl⟩
    exact .single (.scalar underlying hnew)

theorem declareBits_meets {flags bits : String} (hbits : Naming.flagBits flags = .ok bits) :
    Meets (declareBits spec bits) (TypeChange spec) fun _ => True := by
  unfold declareBits
  rw [meets_bind]
  refine (declare_meets .enum bits ∅).imp ?_
  rintro _ ⟨hnew, rfl⟩
  exact .bits hbits hnew

theorem readFlags_meets : Meets (readFlags node spec) (TypeChanges spec) fun _ => True := by
  unfold readFlags
  rw [meets_bind]
  refine .ofValues fun nameNode _ => ?_
  extract_lets name rest
  -- The type of flags comes after the enum of its bits, if it brings one along.
  have hrest : ∀ bits earlier, TypeChanges spec earlier →
      Meets (rest (bits, earlier)) (TypeChanges spec) fun _ => True := by
    intro bits earlier hearlier
    unfold rest
    rw [meets_bind]
    refine (declare_meets .flags name (NameSet.ofList [bits])).imp ?_
    rintro _ ⟨hnew, rfl⟩
    exact hearlier.tail (.flags bits hnew)
  split
  · exact hrest _ _ .refl
  · rw [meets_bind]
    refine .ofValues fun bits hbits => ?_
    rw [meets_bind]
    refine (declareBits_meets hbits).imp fun earlier hearlier => ?_
    exact hrest bits earlier (.single hearlier)

theorem readDefine_meets : Meets (readDefine node spec) (TypeChanges spec) fun _ => True := by
  unfold readDefine
  split
  · split
    · exact .single (.notes _ spec.typesafeCheck)
    · trivial
  · split
    · split
      · exact .single (.notes spec.version _)
      · trivial
    · exact .refl

theorem readCallback_meets : Meets (readCallback node spec) (TypeChanges spec) fun _ => True := by
  unfold readCallback
  split
  · split
    · refine (declare_meets .callback _ ∅).imp ?_
      rintro _ ⟨hnew, rfl⟩
      exact .single (.outside (.inr rfl) hnew)
    · trivial
  · trivial

theorem readHandle_meets : Meets (readHandle node spec) (TypeChanges spec) fun _ => True := by
  unfold readHandle
  rw [meets_bind]
  refine .ofValues fun typeNode _ => ?_
  extract_lets declaration
  rw [meets_bind]
  refine .ofValues fun nameNode _ => ?_
  extract_lets name rest
  split
  · trivial
  · unfold rest
    rw [meets_bind]
    refine (declare_meets .handle name ∅).imp ?_
    rintro _ ⟨hnew, rfl⟩
    exact .single (.handle hnew)

theorem readAggregate_meets {kind : EntityKind} (hkind : kind = .struct ∨ kind = .union) :
    Meets (readAggregate kind node spec) (TypeChanges spec) fun _ => True := by
  unfold readAggregate
  rw [meets_bind]
  refine .ofValues fun rawName _ => ?_
  extract_lets name rest
  have hrest : ∀ returnedOnly, Meets (rest returnedOnly) (TypeChanges spec) fun _ => True := by
    intro returnedOnly
    unfold rest
    split
    · exact .refl
    · rw [meets_bind]
      refine (requireNew_meets name).imp fun _ hnew => ?_
      rw [meets_bind]
      refine readMembers_meets.imp fun (members, needs) hneeds => ?_
      obtain rfl : needs = typesOf members := hneeds
      exact .single (.aggregate returnedOnly members hkind hnew)
  split
  · exact hrest false
  · exact hrest true
  · trivial

theorem readType_meets : Meets (readType node spec) (TypeChanges spec) fun _ => True := by
  unfold readType
  split
  · exact readRequired_meets
  · exact .refl
  · exact .refl
  · exact readScalar_meets
  · exact readFlags_meets
  · exact readDefine_meets
  · exact readCallback_meets
  · exact readHandle_meets
  · exact readAggregate_meets (.inl rfl)
  · exact readAggregate_meets (.inr rfl)
  · trivial

theorem readTypes_meets : Meets (readTypes node spec) (TypeChanges spec) fun _ => True := by
  refine .foldlM (TypeChanges spec) .refl fun earlier child _ hearlier => ?_
  split
  · exact hearlier
  · split
    · exact readType_meets.imp fun _ => hearlier.trans
    · trivial

/-! ## Enums -/

theorem nameOf_meets (enumeration : Enumeration) (rawName tag : String) (appendTag : Bool) :
    Meets (enumeration.nameOf rawName tag appendTag) (fun _ => True) ReadingFailure := by
  unfold Enumeration.nameOf
  extract_lets rest
  have hrest : Meets (rest ()) (fun _ => True) ReadingFailure := by
    unfold rest
    rw [meets_bind, meets_lift_text]
    exact (between_meets enumeration.stem tag rawName).imp fun _ _ => trivial
  split
  · exact .registry _
  · exact hrest

theorem add_meets (enumeration : Enumeration) (rawName tag : String) (appendTag : Bool) :
    Meets (enumeration.add rawName tag appendTag)
      (fun later => ∃ enumerator,
        later = { enumeration with members := enumeration.members ++ [enumerator] })
      ReadingFailure := by
  unfold Enumeration.add
  rw [meets_bind]
  exact (nameOf_meets enumeration rawName tag appendTag).imp fun name _ => ⟨⟨name, rawName⟩, rfl⟩

theorem add_extends (enumeration : Enumeration) (rawName tag : String) (appendTag : Bool) :
    Meets (enumeration.add rawName tag appendTag) enumeration.Extends ReadingFailure := by
  refine (add_meets enumeration rawName tag appendTag).imp ?_
  rintro _ ⟨enumerator, rfl⟩
  exact ⟨rfl, rfl, rfl, List.prefix_append _ _⟩

theorem readEnumerator_meets (tag : String) (group : Enumeration) (child : Node) :
    Meets (readEnumerator node tag group child) group.Extends ReadingFailure := by
  unfold readEnumerator
  split
  · exact meets_required fun rawName => add_extends group rawName tag false
  · split
    · exact .refl group
    · exact .registry _

theorem readEnumerators_meets (tag : String) (group : Enumeration) :
    Meets (readEnumerators node tag group) group.Extends ReadingFailure := by
  unfold readEnumerators
  refine .foldlM group.Extends (.refl group) fun earlier child _ hearlier => ?_
  exact (readEnumerator_meets tag earlier child).imp fun _ => hearlier.trans

theorem readEnums_meets : Meets (readEnums node spec) (GroupChange node spec) ReadingFailure := by
  unfold readEnums
  rw [meets_bind]
  refine (meets_lift_reading (requireAttribute_meets "name")).imp fun rawName hname => ?_
  split
  · rename_i hskipped
    exact .skip hname (by simpa using hskipped)
  · rename_i hkept
    extract_lets name
    rw [meets_bind]
    refine (meets_lift_reading (Meets.self (groupOf node name spec.tags))).imp ?_
    intro (group, tag) hgroup
    rw [meets_bind]
    refine (meets_lift_reading (requireNew_meets name)).imp fun _ hnew => ?_
    rw [meets_bind]
    refine (readEnumerators_meets tag group).yields.imp fun enumeration hread => ?_
    exact .declare hname (by simpa using hkept) hgroup hread hnew

/-- The enum of a group has the stem that the group gave it. -/
theorem GroupChange.early {later : Spec} (h : GroupChange node spec later) :
    EarlyChanges spec later := by
  cases h with
  | skip _ _ => exact .refl
  | @declare rawName tag group enumeration _ _ hgroup hread hnew =>
    have hextends : group.Extends enumeration := (readEnumerators_meets tag group).of_ok hread
    exact .single ⟨.enum (.group hgroup hextends) hnew, rfl⟩

/-! ## Commands -/

theorem successCodesOf_meets (tags : NameSet) :
    Meets (successCodesOf node tags) (fun _ => True) fun fault =>
      ReadingFailure (.text fault) := by
  unfold successCodesOf
  split
  · trivial
  · trivial
  · refine .mapM_any fun code _ => ?_
    unfold Naming.successCode
    rw [meets_bind]
    exact (between_meets Naming.resultStart _ code).imp fun _ _ => trivial

/-- Mending an entry leaves its signature and its guard alone. -/
theorem mended_signature (name : String) (command : Command) :
    (Command.mended name command).returnType = command.returnType ∧
      (Command.mended name command).arguments = command.arguments ∧
      (Command.mended name command).owner = command.owner ∧
      (Command.mended name command).guard = command.guard := by
  unfold Command.mended
  split
  · exact ⟨rfl, rfl, rfl, rfl⟩
  · split <;> exact ⟨rfl, rfl, rfl, rfl⟩

theorem readCommand_meets :
    Meets (readCommand node spec) (CommandChange node spec) ReadingFailure := by
  unfold readCommand
  extract_lets rest
  have hrest : ∀ prototype children, node.children = prototype :: children →
      Meets (rest (prototype, children)) (CommandChange node spec) ReadingFailure := by
    intro prototype children hchildren
    unfold rest
    dsimp -zeta only
    refine meets_required fun typeNode => ?_
    extract_lets returnType
    rw [meets_bind]
    refine (meets_lift_reading (requireChild_meets "name")).imp fun nameNode hnameNode => ?_
    extract_lets name
    rw [meets_bind]
    refine (meets_lift_reading (requireNew_meets name)).imp fun _ hnew => ?_
    rw [meets_bind, meets_lift_text]
    refine (successCodesOf_meets spec.tags).yields.imp fun successCodes hcodes => ?_
    rw [meets_bind]
    refine (meets_lift_reading (readParameters_meets children returnType)).imp fun read hneeds => ?_
    extract_lets owner command declared entered finish
    split
    · exact .registry _
    · rename_i hnonempty
      obtain ⟨hreturn, harguments, howner, hguard⟩ := mended_signature name
        { returnType, arguments := read.arguments, successCodes, guard := "", owner,
          twoStep := read.twoStep }
      have hneeds : read.needs = NameSet.ofList command.types := by
        rw [hneeds]
        unfold Command.types
        rw [hreturn, harguments]
      have hname : declaredName? node = some name := by
        unfold declaredName?
        rw [hchildren]
        show (prototype.find? "name" >>= fun child => some (Naming.commandName child.text)) = _
        rw [hnameNode]
        rfl
      have hchange : CommandChange node spec (spec.withCommand name command) := by
        refine .declare command hname hnew ?_
          (howner.trans (congrArg (ownerOf? spec) harguments.symm)) hguard ?_
        · rw [harguments]
          simpa using hnonempty
        · intro hfaultless
          have hsame : command.successCodes = successCodes :=
            congrArg Command.successCodes (hfaultless _)
          rw [hsame]
          exact hcodes
      have hwith : finish () = .ok (spec.withCommand name command) := by
        unfold finish Spec.withCommand
        rw [howner, ← hneeds]
        cases owner <;> rfl
      rw [hwith]
      exact hchange
  split
  · rename_i first others hchildren
    split
    · exact hrest first others hchildren
    · exact .registry _
  · exact .registry _

theorem readCommands_changes : Meets (readCommands node spec) (Changes spec) ReadingFailure := by
  refine .foldlM (Changes spec) .refl fun later child _ hlater => ?_
  split
  · exact hlater
  split
  · exact readCommand_meets.imp fun next hnext => hlater.tail hnext.change
  · exact .registry _

theorem readCommands_meets {elements : List Node} (h : Changes .initial spec)
    (hlisted : spec.CommandsFrom elements) :
    Meets (readCommands node spec)
      (fun later => Changes .initial later ∧ later.CommandsFrom (elements ++ declarationsIn node))
      ReadingFailure := by
  refine .foldlM_along (fun (done : List Node) (later : Spec) => Changes .initial later ∧
    later.CommandsFrom (elements ++ done.filter (·.tag == "command"))) ?_ ?_
  · exact ⟨h, by rwa [List.filter_nil, List.append_nil]⟩
  · rintro done later child - ⟨hlater, hdone⟩
    rw [List.filter_append, ← List.append_assoc]
    split
    · rename_i hcomment
      have hskipped : (child.tag == "command") = false := by
        rw [beq_iff_eq.1 hcomment]
        rfl
      exact ⟨hlater, by simpa [hskipped] using hdone⟩
    split
    · rename_i hcommand
      rw [List.filter_singleton, hcommand, cond_true]
      refine readCommand_meets.imp fun next hnext => ⟨hlater.tail hnext.change, ?_⟩
      exact hdone.declare (hlater.consistent Spec.consistent_initial) hnext
    · exact .registry _

/-! ## Extensions -/

theorem guardFlags_meets (h : spec.Consistent) {name : String} (guard : String)
    (hname : spec.flags.contains name = true) :
    Meets (guardFlags spec name guard) (GuardChange spec name guard) ReadingFailure := by
  unfold guardFlags
  extract_lets guarded
  obtain ⟨entity, -, -, -, bits, hbacking, -⟩ := h.backing_of_flags hname
  rw [meets_bind]
  have hbits : guarded.backing name = .ok bits := hbacking
  rw [hbits, meets_ok]
  have hchange : GuardChange spec name guard _ := .flags hname hbacking
  unfold guardEmpty at hchange
  split
  · rename_i enumeration hget
    have hget : spec.enums.get? bits = some enumeration := hget
    rw [hget] at hchange
    dsimp only at hchange
    split
    · rename_i hempty
      rwa [if_pos hempty] at hchange
    · rename_i hnonempty
      rwa [if_neg hnonempty] at hchange
  · rename_i hget
    have hget : spec.enums.get? bits = none := hget
    rwa [hget] at hchange

theorem guardType_meets (h : spec.Consistent) (name guard : String) :
    Meets (guardType spec name guard) (GuardChange spec name guard) ReadingFailure := by
  unfold guardType
  split
  · exact .enum ‹_›
  split
  · exact guardFlags_meets h guard ‹_›
  split
  · exact .scalar ‹_›
  split
  · exact .aggregate ‹_›
  split
  · exact .handle ‹_›
  split
  · exact .outside (eq_false_of_ne_true ‹_›) (eq_false_of_ne_true ‹_›) (eq_false_of_ne_true ‹_›)
      (eq_false_of_ne_true ‹_›) (eq_false_of_ne_true ‹_›)
  · exact .registry _

theorem contribute_meets {guard tag extended : String} (htag : node.tag = "enum")
    (hextends : node.attribute? "extends" = some extended) :
    Meets (contribute spec node extended tag) (ItemChange node guard tag spec) ReadingFailure := by
  unfold contribute
  extract_lets name symbolic
  split
  · exact .registry _
  · rename_i enumeration hget
    rw [meets_bind]
    refine (meets_lift_reading (requireAttribute_meets "name")).imp fun rawName hname => ?_
    rw [meets_bind]
    refine (add_meets enumeration rawName _ symbolic).yields.imp fun added hadd => ?_
    exact .enumerator htag hextends hname hget hadd

theorem readItem_meets (h : spec.Consistent) (parent : Node) (guard tag : String) :
    Meets (readItem parent guard tag spec node) (ItemChange node guard tag spec)
      ReadingFailure := by
  unfold readItem
  split
  · rename_i hcommand
    rw [meets_bind]
    refine (meets_lift_reading (requireAttribute_meets "name")).imp fun rawName hname => ?_
    unfold guardCommand
    split
    · exact .command (beq_iff_eq.1 hcommand) hname
    · exact .registry _
  split
  · rename_i htype
    rw [meets_bind]
    refine (meets_lift_reading (requireAttribute_meets "name")).imp fun rawName hname => ?_
    exact (guardType_meets h (Naming.typeName rawName) guard).imp fun _ hlater =>
      .type (beq_iff_eq.1 htype) hname hlater
  rename_i hcommand htype
  have hcommand : node.tag ≠ "command" := fun heq => hcommand (beq_iff_eq.2 heq)
  have htype : node.tag ≠ "type" := fun heq => htype (beq_iff_eq.2 heq)
  split
  · rename_i henum
    split
    · exact contribute_meets (beq_iff_eq.1 henum) ‹_›
    · exact .skip hcommand htype fun _ => ‹_›
  split
  · rename_i henum _
    exact .skip hcommand htype fun heq => absurd (beq_iff_eq.2 heq) henum
  · exact .registry _

/-! ### Amendments -/

theorem GuardChange.amendments {name guard : String} {later : Spec}
    (h : GuardChange spec name guard later) : Amendments spec later := by
  cases h with
  | enum hname => exact .single ⟨.guardEnum name guard, rfl, fun _ => rfl⟩
  | @flags bits hname hbits =>
    have hflags : Amendment spec { spec with flags := spec.flags.set name guard } :=
      ⟨.guardFlags guard hname, rfl, fun _ => rfl⟩
    unfold guardEmpty
    split
    · rename_i enumeration hget
      split
      · rename_i hempty
        exact .tail (.single hflags)
          ⟨.guardBits guard hget (List.isEmpty_iff.1 hempty), rfl, fun _ => rfl⟩
      · exact .single hflags
    · exact .single hflags
  | scalar hname => exact .single ⟨.guardScalar guard hname, rfl, fun _ => rfl⟩
  | aggregate hname => exact .single ⟨.guardAggregate name guard, rfl, fun _ => rfl⟩
  | handle hname => exact .single ⟨.guardHandle name guard, rfl, fun _ => Table.contains_modify⟩
  | outside => exact .refl

theorem ItemChange.amendments {guard tag : String} {later : Spec}
    (h : ItemChange node guard tag spec later) : Amendments spec later := by
  cases h with
  | @command rawName htag hname =>
    exact .single ⟨.guardCommand _ guard, Table.keys_modify .., fun _ => rfl⟩
  | type htag hname hguard => exact hguard.amendments
  | @enumerator extended rawName enumeration added htag hextends hname hget hadd =>
    obtain ⟨enumerator, rfl⟩ := (add_meets enumeration rawName _ _).of_ok hadd
    exact .single ⟨.contribute enumerator hget, rfl, fun _ => rfl⟩
  | skip => exact .refl

theorem readRequirement_meets (h : spec.Consistent) (guard tag : String) (child : Node) :
    Meets (readRequirement node guard tag spec child) (Amendments spec) ReadingFailure := by
  unfold readRequirement
  split
  · refine .foldlM (Amendments spec) .refl fun later item _ hlater => ?_
    refine (readItem_meets (hlater.changes.consistent h) child guard tag).imp fun next hnext => ?_
    exact hlater.trans hnext.amendments
  · exact .registry _

theorem readExtension_meets (h : spec.Consistent) :
    Meets (readExtension node spec) (Amendments spec) ReadingFailure := by
  unfold readExtension
  refine meets_required fun name => ?_
  refine meets_required fun tag => ?_
  extract_lets rest
  split
  · exact .registry _
  · unfold rest
    split
    · exact .refl
    · refine .foldlM (Amendments spec) .refl fun earlier child _ hearlier => ?_
      exact (readRequirement_meets (hearlier.changes.consistent h) _ tag child).imp fun _ =>
        hearlier.trans

theorem readExtensionsChild_meets (h : spec.Consistent) (child : Node) :
    Meets (readExtensionsChild node spec child) (Amendments spec) ReadingFailure := by
  unfold readExtensionsChild
  split
  · exact .refl
  · split
    · exact readExtension_meets h
    · exact .registry _

theorem readExtensions_meets (h : spec.Consistent) :
    Meets (readExtensions node spec) (Amendments spec) ReadingFailure := by
  unfold readExtensions
  refine .foldlM (Amendments spec) .refl fun earlier child _ hearlier => ?_
  exact (readExtensionsChild_meets (hearlier.changes.consistent h) child).imp fun _ =>
    hearlier.trans

/-! ## The whole registry -/

theorem readComment_meets :
    Meets (readComment node spec) (fun later => ∃ license, later = { spec with license })
      fun _ => True := by
  unfold readComment
  split
  · exact ⟨_, rfl⟩
  · trivial

theorem readTags_meets :
    Meets (readTags node spec)
      (fun later => ∃ tags, (∀ tag ∈ spec.tags, tag ∈ tags) ∧ later = { spec with tags })
      fun _ => True := by
  refine .foldlM (fun later => ∃ tags, (∀ tag ∈ spec.tags, tag ∈ tags) ∧ later = { spec with tags })
    ⟨spec.tags, fun _ => id, rfl⟩ ?_
  intro earlier child _ hearlier
  obtain ⟨tags, htags, rfl⟩ := hearlier
  split
  · rw [meets_bind]
    refine .ofValues fun name _ => ?_
    refine ⟨tags.insert name, fun tag htag => ?_, rfl⟩
    exact NameSet.mem_insert.2 (.inr (htags tag htag))
  · trivial

/-- The sections that are read before the commands. -/
def Section.early : List Section :=
  [comment, tags, types, enums]

theorem section_read_meets {kind : Section} (hkind : kind ∈ Section.early) :
    Meets (kind.read node spec) (EarlyChanges spec) ReadingFailure := by
  cases kind with
  | comment =>
    refine (meets_lift_reading readComment_meets).imp fun later hlater => ?_
    obtain ⟨license, rfl⟩ := hlater
    exact .single ⟨.notes (fun _ => id) license spec.version spec.typesafeCheck, rfl⟩
  | tags =>
    refine (meets_lift_reading readTags_meets).imp fun later hlater => ?_
    obtain ⟨tags, htags, rfl⟩ := hlater
    exact .single ⟨.notes htags spec.license spec.version spec.typesafeCheck, rfl⟩
  | types => exact (meets_lift_reading readTypes_meets).imp fun _ => TypeChanges.early
  | enums => exact readEnums_meets.imp fun _ => GroupChange.early
  | commands | extensions => simp [Section.early] at hkind

/-- The sections of a kind, as they are picked out of all sections. -/
def sectionsOfKind (kind : Section) (sections : List (Section × Node)) : List (Section × Node) :=
  sections.filter (·.1 == kind)

theorem kind_of_mem_sectionsOfKind {kind : Section} {sections : List (Section × Node)}
    {entry : Section × Node} (h : entry ∈ sectionsOfKind kind sections) : entry.1 = kind :=
  beq_iff_eq.1 (List.mem_filter.1 h).2

theorem readingOrder_eq (sections : List (Section × Node)) :
    readingOrder sections = Section.early.flatMap (sectionsOfKind · sections) ++
      (sectionsOfKind .commands sections ++ sectionsOfKind .extensions sections) := by
  simp [readingOrder, Section.all, Section.early, sectionsOfKind]

/-- A section of the document and its entry among the sections that are read. -/
def IsEntryOf (child : Node) (entry : Section × Node) : Prop :=
  entry.2 = child ∧ Section.ofTag? child.tag = some entry.1

theorem sectionsOf_meets (root : Node) :
    Meets (sectionsOf root)
      (List.Forall₂ IsEntryOf
        (root.children.filter fun child => !ignoredSections.contains child.tag))
      fun _ => True := by
  unfold sectionsOf
  extract_lets children
  refine .mapM fun child _ => ?_
  split
  · rename_i kind hkind
    exact ⟨rfl, hkind⟩
  · trivial

theorem ofTag?_beq {tag : String} {found : Section} (h : Section.ofTag? tag = some found)
    (kind : Section) : (found == kind) = (tag == kind.tag) := by
  have htag : found.tag = tag := by simpa using List.find?_some h
  subst htag
  cases found <;> cases kind <;> rfl

/-- The entries of a kind are the sections of the document with its tag. -/
theorem nodes_of_sectionsOfKind {children : List Node} {sections : List (Section × Node)}
    (h : List.Forall₂ IsEntryOf children sections) (kind : Section) :
    (sectionsOfKind kind sections).map (·.2) = children.filter (·.tag == kind.tag) := by
  unfold sectionsOfKind
  induction h with
  | nil => rfl
  | @cons child entry children sections hentry _ ih =>
    obtain ⟨hnode, hkind⟩ := hentry
    rw [List.filter_cons, List.filter_cons, ofTag?_beq hkind]
    split
    · rw [List.map_cons, hnode, ih]
    · exact ih

/-- No section that is read is passed over. -/
theorem filter_not_ignored (children : List Node) (kind : Section) :
    (children.filter fun child => !ignoredSections.contains child.tag).filter
      (·.tag == kind.tag) = children.filter (·.tag == kind.tag) := by
  rw [List.filter_filter]
  refine List.filter_congr fun child _ => ?_
  cases htag : child.tag == kind.tag with
  | false => rfl
  | true =>
    rw [beq_iff_eq.1 htag]
    cases kind <;> decide

/-- The elements that declare commands are those of the sections that are read for them. -/
theorem flatMap_declarationsIn {root : Node} {sections : List (Section × Node)}
    (h : List.Forall₂ IsEntryOf
      (root.children.filter fun child => !ignoredSections.contains child.tag) sections) :
    (sectionsOfKind .commands sections).flatMap (fun entry => declarationsIn entry.2) =
      commandElements root := by
  have hnodes := (nodes_of_sectionsOfKind h .commands).trans (filter_not_ignored _ _)
  unfold commandElements
  show _ = (root.children.filter (·.tag == Section.commands.tag)).flatMap declarationsIn
  rw [← hnodes, List.flatMap_map]

/-- Reading a registry makes changes to the initial spec, and enters the commands of
the document in their order. -/
theorem ofRegistry_reads (root : Node) :
    Meets (Spec.ofRegistry root)
      (fun spec => Changes .initial spec ∧ spec.CommandsFrom (commandElements root))
      ReadingFailure := by
  unfold Spec.ofRegistry
  rw [meets_bind]
  refine (meets_lift_reading (sectionsOf_meets root)).imp fun sections hsections => ?_
  extract_lets rest
  split
  · exact .registry _
  unfold rest
  rw [readingOrder_eq, List.foldlM_append, meets_bind]
  have hearly : Meets ((Section.early.flatMap (sectionsOfKind · sections)).foldlM
      (fun spec entry => entry.1.read entry.2 spec) Spec.initial)
      (EarlyChanges .initial) ReadingFailure := by
    refine .foldlM (EarlyChanges .initial) .refl ?_
    rintro spec ⟨kind, node⟩ hmem hspec
    obtain ⟨other, hother, hentry⟩ := List.mem_flatMap.1 hmem
    obtain rfl : kind = other := kind_of_mem_sectionsOfKind hentry
    exact (section_read_meets hother).imp fun _ => hspec.trans
  refine hearly.imp fun typed htyped => ?_
  rw [List.foldlM_append, meets_bind, ← flatMap_declarationsIn hsections]
  have hlisted : Meets ((sectionsOfKind .commands sections).foldlM
      (fun spec entry => entry.1.read entry.2 spec) typed)
      (fun spec => Changes .initial spec ∧
        spec.CommandsFrom ((sectionsOfKind .commands sections).flatMap
          fun entry => declarationsIn entry.2)) ReadingFailure := by
    refine .foldlM_along (fun (done : List (Section × Node)) (spec : Spec) =>
      Changes .initial spec ∧ spec.CommandsFrom (done.flatMap fun entry => declarationsIn entry.2))
      ⟨htyped.changes, .of_early htyped⟩ ?_
    rintro done spec ⟨kind, node⟩ hmem ⟨hspec, hdone⟩
    obtain rfl : kind = .commands := kind_of_mem_sectionsOfKind hmem
    rw [List.flatMap_append, List.flatMap_singleton]
    exact readCommands_meets hspec hdone
  refine hlisted.imp fun listed hlisted => ?_
  refine .foldlM (fun (spec : Spec) => Changes .initial spec ∧ spec.CommandsFrom
    ((sectionsOfKind .commands sections).flatMap fun entry => declarationsIn entry.2)) hlisted ?_
  rintro spec ⟨kind, node⟩ hmem ⟨hspec, hcommands⟩
  obtain rfl : kind = .extensions := kind_of_mem_sectionsOfKind hmem
  refine (readExtensions_meets (hspec.consistent Spec.consistent_initial)).imp
    fun later hlater => ?_
  exact ⟨hspec.trans hlater.changes, hcommands.amends hlater⟩

/-- Reading a registry makes changes to the initial spec. -/
theorem ofRegistry_meets (root : Node) :
    Meets (Spec.ofRegistry root) (Changes .initial) ReadingFailure :=
  (ofRegistry_reads root).imp fun _ => And.left

/-- The spec of a registry is consistent. -/
theorem consistent_of_ofRegistry {root : Node} (h : Spec.ofRegistry root = .ok spec) :
    spec.Consistent :=
  ((ofRegistry_meets root).of_ok h).consistent Spec.consistent_initial

end VulkanBindings.Registry
