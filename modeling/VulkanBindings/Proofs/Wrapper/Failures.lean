import VulkanBindings.Proofs.Wrapper.Writing

/-!
# How making a header fails

Making the header of a registry goes through reading, checking, ordering,
analysis and writing, and most of these stages can fail.  `CompileFailure` says
how the whole can fail: there is a defect of the registry, the entities cannot be
ordered, a text cannot be used, an array is too long, or the enum of the bits
behind a type of flags is unknown.  That no other lookup goes wrong rests on the
consistency of what was read.
-/

namespace VulkanBindings.Wrapper

open Registry (Entity Spec)

variable {root : Xml.Node} {context : Context} {spec : Spec}

/-! ## Flags as text -/

/-- The entity is a type of flags, and nothing is known of the enum behind it. -/
def LacksBits (context : Context) (entity : Entity) (bits : String) : Prop :=
  entity.kind = .flags ∧ entity.backing = .ok bits ∧ context.spec.enums.contains bits = false

theorem toStringLines_meets (h : Prepared root context) {entity : Entity}
    (hmem : entity ∈ context.entities) :
    Meets (toStringLines context entity) (fun _ => ∀ bits, ¬ LacksBits context entity bits)
      fun failure => ∃ bits, LacksBits context entity bits ∧ failure = .missing .enums bits := by
  have hdescribed := h.described hmem
  have hbacking := hdescribed.backing
  unfold Spec.Describes at hdescribed
  -- Only of a type of flags there is something to show.
  have hother : entity.kind ≠ .flags → ∀ bits, ¬ LacksBits context entity bits :=
    fun hkind bits hlacks => hkind hlacks.1
  unfold toStringLines
  extract_lets name
  cases hkind : entity.kind with
  | flags =>
    obtain ⟨bits, -, hbits⟩ := hbacking (.inl hkind)
    simp only [hkind] at hdescribed ⊢
    obtain ⟨guard, hguard⟩ := Table.contains_iff.1 hdescribed.1
    unfold Context.flagsGuard Context.enum
    rw [hbits, meets_bind, meets_ok, find_of_get? hguard, meets_bind, meets_ok, meets_bind]
    cases hget : context.spec.enums.get? bits with
    | none =>
      have hlacks := Table.not_contains_iff.2 hget
      unfold Context.find
      rw [hget]
      exact ⟨bits, ⟨hkind, hbits, hlacks⟩, rfl⟩
    | some enumeration =>
      rw [find_of_get? hget]
      rintro other ⟨-, hother, hlacks⟩
      rw [hbits] at hother
      obtain rfl := Except.ok.inj hother
      rw [Table.contains_iff.2 ⟨enumeration, hget⟩] at hlacks
      cases hlacks
  | enum =>
    simp only [hkind] at hdescribed ⊢
    obtain ⟨enumeration, henum⟩ := Table.contains_iff.1 hdescribed.1
    unfold Context.enum
    rw [find_of_get? henum]
    exact hother (by rw [hkind]; decide)
  | command | callback | handle | required | scalar | struct | union =>
    exact hother (by rw [hkind]; decide)

theorem allToStringLines_meets (h : Prepared root context) :
    Meets (allToStringLines context)
      (fun _ => ∀ entity ∈ context.entities, ∀ bits, ¬ LacksBits context entity bits)
      fun failure => ∃ entity ∈ context.entities, ∃ bits,
        LacksBits context entity bits ∧ failure = .missing .enums bits := by
  unfold allToStringLines
  rw [meets_bind]
  have hblocks : Meets ((context.entities.filter (!isResultEnum ·)).mapM fun entity => do
        pure (spacedBlock (← toStringLines context entity)))
      (List.Forall₂ (fun entity _ => (∀ bits, ¬ LacksBits context entity bits) ∧ True)
        (context.entities.filter (!isResultEnum ·)))
      fun failure => ∃ entity ∈ context.entities, ∃ bits,
        LacksBits context entity bits ∧ failure = .missing .enums bits := by
    refine .mapM fun entity hentity => ?_
    have hmem := List.mem_of_mem_filter hentity
    rw [meets_bind]
    exact (toStringLines_meets h hmem).mono (fun _ hnone => ⟨hnone, trivial⟩)
      fun _ hfailure => ⟨entity, hmem, hfailure⟩
  refine hblocks.imp fun blocks hnone entity hmem bits hlacks => ?_
  -- The enum of result codes is left out, but that is no type of flags.
  have hkept : entity ∈ context.entities.filter (!isResultEnum ·) := by
    refine List.mem_filter.2 ⟨hmem, ?_⟩
    unfold isResultEnum
    rw [hlacks.1]
    rfl
  exact ((List.forall₂_and_left _ _).1 hnone).1 entity hkept bits hlacks

/-! ## The header -/

/-- A failure that writing the header of a registry can end in. -/
inductive HeaderFailure (context : Context) : Failure → Prop where
  | types {failure : Failure} (h : typeLines context = .error failure)
    (hwriting : WritingFailure context failure) : HeaderFailure context failure
  | noBits {lines : List String} {entity : Entity} {bits : String}
    (htypes : typeLines context = .ok lines) (hmem : entity ∈ context.entities)
    (hlacks : LacksBits context entity bits) : HeaderFailure context (.missing .enums bits)

theorem validate_eq_ok (h : spec.validate = .ok ()) :
    spec.enums.contains Registry.resultEnum = true ∧ spec.version.isEmpty = false := by
  unfold Spec.validate at h
  split at h
  · cases h
  rename_i henum
  split at h
  · cases h
  rename_i hversion
  exact ⟨by simpa using henum, eq_false_of_ne_true hversion⟩

/-- The only thing that can be wrong with a preamble is an empty version. -/
theorem preambleLines_meets {config : HeaderConfig} (h : config.version.isEmpty = false)
    (license typesafeCheck : String) :
    Meets (preambleLines config license typesafeCheck) (fun _ => True) fun _ => False := by
  unfold preambleLines bannerLines
  rw [h]
  trivial

theorem headerText_meets (h : Prepared root context) (includeGuard source : String) :
    Meets (headerText (configOf context.spec includeGuard source) context)
      (fun _ => ∀ entity ∈ context.entities, ∀ bits, ¬ LacksBits context entity bits)
      (HeaderFailure context) := by
  obtain ⟨hresults, hversion⟩ := validate_eq_ok h.valid
  obtain ⟨results, hresults⟩ := Table.contains_iff.1 hresults
  unfold headerText Context.enum
  rw [find_of_get? hresults, meets_bind, meets_ok, meets_bind, meets_lift_text]
  refine (preambleLines_meets hversion _ _).never.imp fun preamble _ => ?_
  rw [meets_bind]
  cases htypes : typeLines context with
  | error failure => exact .types htypes ((typeLines_meets h).of_error htypes)
  | ok types =>
    rw [meets_ok, meets_bind]
    refine (allToStringLines_meets h).mono (fun _ hnone => hnone) ?_
    rintro _ ⟨entity, hmem, bits, hlacks, rfl⟩
    exact .noBits htypes hmem hlacks

/-! ## Preparing a registry -/

/-- A failure that preparing a registry can end in. -/
inductive PreparingFailure (root : Xml.Node) : Failure → Prop where
  | registry (fault : Registry.Fault) : PreparingFailure root (.registry fault)
  | deadlock {spec : Spec} {deadlock : Deadlock} (hread : readChecked root = .ok spec)
    (h : spec.ordered = .error deadlock) : PreparingFailure root (.deadlock deadlock)
  /-- A name is cut, while the registry is read, at a marker that it does not hold. -/
  | unmarked {start marker name : String}
    (hread : Spec.ofRegistry root = .error (.text (.markerAbsent name marker)))
    (h : Naming.between start marker name = .error (.markerAbsent name marker)) :
    PreparingFailure root (.text (.markerAbsent name marker))

/-- All types of a consistent spec have a default value, unless they need none. -/
theorem defaultsOf_meets (h : spec.Consistent) {entities : List Entity}
    (hentities : ∀ entity ∈ entities, entity ∈ spec.entities) :
    Meets (defaultsOf spec entities) (fun _ => True) fun _ => False := by
  refine .foldlM (fun _ => True) trivial fun defaults entity hmem _ => ?_
  rw [meets_bind]
  refine (?_ : Meets _ (fun _ => True) _).imp fun text _ => ?_
  · have hdescribed := h.described entity (hentities entity hmem)
    unfold Spec.Describes at hdescribed
    unfold defaultOf
    cases hkind : entity.kind with
    | enum =>
      simp only [hkind] at hdescribed ⊢
      obtain ⟨enumeration, henum⟩ := Table.contains_iff.1 hdescribed.1
      rw [find_of_get? henum]
      trivial
    | command | flags | callback | handle | required | scalar | struct | union => trivial
  · split <;> trivial

theorem readChecked_meets (root : Xml.Node) :
    Meets (readChecked root) Spec.Consistent (PreparingFailure root) := by
  unfold readChecked
  rw [meets_bind]
  cases hread : Spec.ofRegistry root with
  | error failure =>
    cases (Registry.ofRegistry_meets root).of_error hread with
    | registry fault => exact .registry fault
    | unmarked h => exact .unmarked hread h
  | ok spec =>
    rw [meets_ok, meets_bind]
    refine meets_lift_defects .registry (.ofValues fun _ _ => ?_)
    exact Registry.consistent_of_ofRegistry hread

theorem contextOf_meets (h : spec.Consistent) {entities : List Entity}
    (hentities : ∀ entity ∈ entities, entity ∈ spec.entities) :
    Meets (contextOf spec entities) (fun _ => True) (PreparingFailure root) := by
  unfold contextOf
  rw [meets_bind]
  refine meets_lift_defects .registry (.ofValues fun analyzed _ => ?_)
  rw [meets_bind]
  exact (defaultsOf_meets h hentities).never.imp fun _ _ => trivial

theorem prepare_meets (root : Xml.Node) :
    Meets (prepare root) (fun _ => True) (PreparingFailure root) := by
  unfold prepare
  rw [meets_bind]
  cases hread : readChecked root with
  | error failure => exact (readChecked_meets root).of_error hread
  | ok spec =>
    have hspec := (readChecked_meets root).of_ok hread
    rw [meets_ok, meets_bind, meets_lift_deadlock]
    cases hordered : spec.ordered with
    | error deadlock => exact .deadlock hread hordered
    | ok entities => exact contextOf_meets hspec (ordered_eq_ok hordered).1

/-! ## Making a header -/

/-- A failure that making the header of a registry can end in. -/
inductive CompileFailure (root : Xml.Node) : Failure → Prop where
  | preparing {failure : Failure} (hprepare : prepare root = .error failure)
    (h : PreparingFailure root failure) : CompileFailure root failure
  | writing {context : Context} {failure : Failure} (hprepare : prepare root = .ok context)
    (h : HeaderFailure context failure) : CompileFailure root failure

theorem compile_meets (root : Xml.Node) (includeGuard source : String) :
    Meets (compile root includeGuard source)
      (fun _ => ∃ context, prepare root = .ok context ∧
        ∀ entity ∈ context.entities, ∀ bits, ¬ LacksBits context entity bits)
      (CompileFailure root) := by
  unfold compile
  rw [meets_bind]
  cases hprepare : prepare root with
  | error failure => exact .preparing hprepare ((prepare_meets root).of_error hprepare)
  | ok context =>
    rw [meets_ok]
    refine (headerText_meets (prepare_eq_ok_iff.1 hprepare) includeGuard source).mono ?_ ?_
    · exact fun _ hnone => ⟨context, rfl, hnone⟩
    · exact fun _ hfailure => .writing hprepare hfailure

/-- Reading a number fails because of its digits. -/
theorem number_meets (text : String) :
    Meets (Text.number text) (fun _ => True) (· ≠ .versionEmpty) := by
  unfold Text.number
  extract_lets values count
  split
  · rintro ⟨⟩
  · split
    · trivial
    · rintro ⟨⟩

namespace CompileFailure

/-- Only the enum behind a type of flags is ever looked up in vain. -/
theorem noBits_of_missing {lookup : Lookup} {name : String}
    (h : CompileFailure root (.missing lookup name)) :
    ∃ context lines, prepare root = .ok context ∧ typeLines context = .ok lines ∧
      ∃ entity ∈ context.entities, ∃ bits, LacksBits context entity bits := by
  cases h with
  | preparing _ h => cases h
  | @writing context _ hprepare h =>
    cases h with
    | types _ hwriting => cases hwriting
    | @noBits lines entity _ htypes hmem hlacks =>
      exact ⟨context, lines, hprepare, htypes, entity, hmem, name, hlacks⟩

theorem not_notSingle {name : String} : ¬ CompileFailure root (.notSingle name) := by
  intro h
  cases h with
  | preparing _ h => cases h
  | writing _ h =>
    cases h with
    | types _ hwriting => cases hwriting

theorem not_versionEmpty : ¬ CompileFailure root (.text .versionEmpty) := by
  intro h
  cases h with
  | preparing _ h => cases h
  | writing _ h =>
    cases h with
    | types _ hwriting =>
      cases hwriting with
      | unreadableSize _ _ _ hnumber => exact (number_meets _).of_error hnumber rfl

end CompileFailure

/-- Where the entities can be written but the enum behind a type of flags is
unknown, that enum is looked up in vain. -/
theorem compile_of_lacksBits {lines : List String} {entity : Entity} {bits : String}
    (hprepare : prepare root = .ok context) (htypes : typeLines context = .ok lines)
    (hmem : entity ∈ context.entities) (hlacks : LacksBits context entity bits)
    (includeGuard source : String) :
    ∃ lookup name, compile root includeGuard source = .error (.missing lookup name) := by
  have hmeets := headerText_meets (prepare_eq_ok_iff.1 hprepare) includeGuard source
  unfold compile
  rw [hprepare]
  show ∃ lookup name,
    headerText (configOf context.spec includeGuard source) context = .error (.missing lookup name)
  cases htext : headerText (configOf context.spec includeGuard source) context with
  | ok text => exact absurd hlacks (hmeets.of_ok htext entity hmem bits)
  | error failure =>
    cases hmeets.of_error htext with
    | types herror _ =>
      rw [htypes] at herror
      cases herror
    | noBits => exact ⟨_, _, rfl⟩

/-- Making a header yields its text or fails in one of the ways of
`CompileFailure`.  A name is looked up in vain exactly when the registry can be
prepared and its entities be written, and some type of flags has an enum behind it
that is unknown.  No type has other than one name behind it where one is asked
for, the banner always has a version, and every command has the first parameter
that the wrapper of a method leaves out. -/
theorem compile_failures (root : Xml.Node) (includeGuard source : String) :
    Meets (compile root includeGuard source) (fun _ => True) (CompileFailure root) ∧
    ((∃ lookup name, compile root includeGuard source = .error (.missing lookup name)) ↔
      ∃ context lines, prepare root = .ok context ∧ typeLines context = .ok lines ∧
        ∃ entity ∈ context.entities, ∃ bits, LacksBits context entity bits) ∧
    (∀ name, compile root includeGuard source ≠ .error (.notSingle name)) ∧
    compile root includeGuard source ≠ .error (.text .versionEmpty) ∧
    (∀ context name command, prepare root = .ok context →
      context.spec.commands.get? name = some command → command.WellOwned) := by
  have hmeets := compile_meets root includeGuard source
  refine ⟨hmeets.imp fun _ _ => trivial, ⟨?_, ?_⟩, ?_, ?_, ?_⟩
  · rintro ⟨lookup, name, herror⟩
    exact (hmeets.of_error herror).noBits_of_missing
  · rintro ⟨context, lines, hprepare, htypes, entity, hmem, bits, hlacks⟩
    exact compile_of_lacksBits hprepare htypes hmem hlacks includeGuard source
  · intro name herror
    exact CompileFailure.not_notSingle (hmeets.of_error herror)
  · intro herror
    exact CompileFailure.not_versionEmpty (hmeets.of_error herror)
  · intro context name command hprepare hcommand
    exact (prepare_eq_ok_iff.1 hprepare).consistent.wellOwned hcommand

/-- The failures of a registry that cannot be used, of entities without an order, of
a text that cannot be used, and of a name that is looked up in vain. -/
def Foreseen : Failure → Prop
  | .registry _ | .deadlock _ | .text _ | .missing _ _ => True
  | .arrayTooLong _ | .notSingle _ => False

instance decidableForeseen : DecidablePred Foreseen
  | .registry _ | .deadlock _ | .text _ | .missing _ _ => isTrue trivial
  | .arrayTooLong _ | .notSingle _ => isFalse id

/-- An array with more values than any list can hold makes for a failure that is
none of these. -/
theorem array_failure_not_foreseen :
    ¬ Meets (compile (sampleRegistry "9223372036854775808") "VK_CPP_H_" "vk.xml") (fun _ => True)
      Foreseen := by
  have hsample : ∃ context, prepare (sampleRegistry "9223372036854775808") = .ok context ∧
      decide (¬ Meets (headerText (configOf context.spec "VK_CPP_H_" "vk.xml") context)
        (fun _ => True) Foreseen) = true :=
    exists_prepare_of_inOrder _ (by decide +kernel)
  obtain ⟨context, hprepare, htext⟩ := hsample
  unfold compile
  rw [hprepare, meets_bind, meets_ok]
  exact of_decide_eq_true htext

end VulkanBindings.Wrapper
