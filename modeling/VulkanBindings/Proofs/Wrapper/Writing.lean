import VulkanBindings.Proofs.Analysis.Analyzed
import VulkanBindings.Proofs.Wrapper.Prepared
import VulkanBindings.Wrapper.Header

/-!
# How writing the bindings fails

Each lemma of this file says of one writer how it fails.  A writer looks up
entries of tables, takes the single name behind a type apart, and reads numbers;
on a prepared registry the tables have all entries that are asked for, but for
one: the enum behind a type of flags, which only the functions that turn flags
into text need.  `WritingFailure` lists what is left.
-/

namespace VulkanBindings.Wrapper

open Analysis (Analyzed EntryOf Position)
open Registry (Aggregate Entity Handle Member Spec)

variable {root : Xml.Node} {context : Context} {spec : Spec}

/-- A failure that writing the entities of a registry can end in. -/
inductive WritingFailure (context : Context) : Failure → Prop where
  | registry (fault : Registry.Fault) : WritingFailure context (.registry fault)
  /-- The return type of a command mentions an allocator, but no comma. -/
  | noComma {name : String} {analyzed : Analyzed}
    (hcommand : context.analyzed.get? name = some analyzed)
    (h : templateOf analyzed = .error .commaAbsent) : WritingFailure context (.text .commaAbsent)
  /-- The digits of an array size are no decimal number, or too many. -/
  | unreadableSize {name : String} {aggregate : Aggregate} {member : Member} {fault : Text.Fault}
    (haggregate : context.spec.structs.get? name = some aggregate)
    (hmember : member ∈ aggregate.members) (hdigits : Text.isDigits member.arraySize = true)
    (h : Text.number member.arraySize = .error fault) : WritingFailure context (.text fault)
  /-- An array has more values than can be written. -/
  | tooLong {name : String} {aggregate : Aggregate} {member : Member} {count : Nat}
    (haggregate : context.spec.structs.get? name = some aggregate)
    (hmember : member ∈ aggregate.members) (hdigits : Text.isDigits member.arraySize = true)
    (h : Text.number member.arraySize = .ok count) (hcount : count > arrayLimit) :
    WritingFailure context (.arrayTooLong count)

/-! ## Commands -/

theorem emptyFlags_meets (h : spec.Consistent) (type : String) :
    Meets (emptyFlags? spec type) (fun _ => True) fun _ => False := by
  unfold emptyFlags?
  split
  · rename_i hflags
    obtain ⟨_, _, _, _, bits, hbits, _⟩ := h.backing_of_flags hflags
    rw [hbits, meets_bind, meets_ok]
    split <;> trivial
  · trivial

theorem parameterAt_meets (h : spec.Consistent) (analyzed : Analyzed)
    (position : Position analyzed.command) :
    Meets (parameterAt spec analyzed position) (fun _ => True) fun _ => False := by
  unfold parameterAt
  extract_lets member
  split
  · trivial
  split
  · trivial
  · unfold valueParameter
    extract_lets rest
    split
    · rw [meets_bind]
      exact (emptyFlags_meets h member.baseType).imp fun _ _ => trivial
    · trivial

theorem templateOf_meets (analyzed : Analyzed) :
    Meets (templateOf analyzed) (fun _ => True) fun fault => fault = .commaAbsent := by
  unfold templateOf
  split
  · trivial
  split
  · rw [meets_map]
    unfold allocatedElement
    split <;> trivial
  · trivial

section Commands

variable {name : String} {analyzed : Analyzed}

theorem signatureOf_meets (h : context.spec.Consistent)
    (hcommand : context.analyzed.get? name = some analyzed) (functionName : String) :
    Meets (signatureOf context.spec analyzed functionName) (fun _ => True)
      (WritingFailure context) := by
  unfold signatureOf
  rw [meets_bind, meets_lift_text]
  cases htemplate : templateOf analyzed with
  | error fault =>
    obtain rfl : fault = .commaAbsent := (templateOf_meets analyzed).of_error htemplate
    exact .noComma hcommand htemplate
  | ok template =>
    rw [meets_ok, meets_bind]
    have hparameters : Meets ((keptPositions analyzed).mapM (parameterAt context.spec analyzed))
        (fun _ => True) fun _ => False :=
      .mapM_any fun position _ => parameterAt_meets h analyzed position
    exact hparameters.never.imp fun _ _ => trivial

theorem overloadLines_meets (h : context.spec.Consistent)
    (hcommand : context.analyzed.get? name = some analyzed)
    (className functionName indent : String) :
    Meets (overloadLines context.spec analyzed className functionName indent) (fun _ => True)
      (WritingFailure context) := by
  unfold overloadLines enhancedLines signatureLines
  simp only [meets_bind]
  refine (signatureOf_meets h hcommand functionName).imp fun signature _ => ?_
  exact meets_lift_defects .registry (.ofValues fun _ _ => trivial)

theorem freeFunctionLines_meets (h : context.spec.Consistent)
    (hcommand : context.analyzed.get? name = some analyzed) :
    Meets (freeFunctionLines context.spec analyzed) (fun _ => True) (WritingFailure context) := by
  unfold freeFunctionLines
  split
  · trivial
  · exact overloadLines_meets h hcommand "" analyzed.name "  "

end Commands

/-- An entry that is there is found. -/
theorem find_of_get? {α : Type} {table : Table α} {lookup : Lookup} {name : String} {entry : α}
    (h : table.get? name = some entry) : Context.find table lookup name = .ok entry := by
  unfold Context.find
  rw [h]

/-- An entry that is found is there. -/
theorem get?_of_find {α : Type} {table : Table α} {lookup : Lookup} {name : String} {entry : α}
    (h : Context.find table lookup name = .ok entry) : table.get? name = some entry := by
  unfold Context.find at h
  split at h
  · rename_i found hfound
    rw [hfound, Except.ok.inj h]
  · cases h

theorem handleLines_meets (h : Prepared root context) {name : String} {handle : Handle}
    (hmethods : ∀ method ∈ handle.commands,
      ∃ command, context.spec.commands.get? method = some command) :
    Meets (handleLines context name handle) (fun _ => True) (WritingFailure context) := by
  unfold handleLines
  rw [meets_bind]
  refine (Meets.mapM_any fun method hmethod => ?_).imp fun _ _ => trivial
  obtain ⟨command, hcommand⟩ := hmethods method hmethod
  obtain ⟨analyzed, hanalyzed, -⟩ := Analysis.exists_analyzed h.analyzed hcommand
  unfold methodLines Context.command
  rw [find_of_get? hanalyzed, meets_bind, meets_ok, meets_bind]
  exact (overloadLines_meets h.consistent hanalyzed name _ "    ").imp fun _ _ => trivial

/-! ## Structs and unions -/

section Aggregates

variable {name : String} {aggregate : Aggregate} {member : Member}

theorem defaultFor_meets (defaults : Table String) (member : Member) :
    Meets (liftM (defaultFor defaults member) : Except Failure String) (fun _ => True)
      (WritingFailure context) :=
  meets_lift_defects .registry (.ofValues fun _ _ => trivial)

theorem arrayDefault_meets (haggregate : context.spec.structs.get? name = some aggregate)
    (hmember : member ∈ aggregate.members) (value : String) :
    Meets (arrayDefault value member.arraySize) (fun _ => True) (WritingFailure context) := by
  unfold arrayDefault
  split
  · rename_i hdigits
    rw [meets_bind, meets_lift_text]
    cases hnumber : Text.number member.arraySize with
    | error fault => exact .unreadableSize haggregate hmember hdigits hnumber
    | ok count =>
      rw [meets_ok]
      extract_lets rest
      split
      · rename_i hcount
        exact .tooLong haggregate hmember hdigits hnumber hcount
      · trivial
  · trivial

theorem constructorParameter_meets (haggregate : context.spec.structs.get? name = some aggregate)
    (hmember : member ∈ aggregate.members) (defaults : Table String) :
    Meets (constructorParameter defaults member) (fun _ => True) (WritingFailure context) := by
  unfold constructorParameter
  extract_lets rest
  have hrest : ∀ value, Meets (rest value) (fun _ => True) (WritingFailure context) := by
    intro value
    unfold rest
    split
    · trivial
    · rw [meets_bind]
      exact (arrayDefault_meets haggregate hmember value).imp fun _ _ => trivial
  split
  · exact hrest "nullptr"
  · rw [meets_bind]
    exact (defaultFor_meets defaults member).imp fun value _ => hrest value

theorem structLines_meets (haggregate : context.spec.structs.get? name = some aggregate) :
    Meets (structLines context.defaults name aggregate) (fun _ => True)
      (WritingFailure context) := by
  unfold structLines fillingLines
  rw [meets_bind]
  split
  · trivial
  · unfold constructorLines
    simp only [meets_bind]
    refine (Meets.mapM_any fun member hmember => ?_).imp
      fun _ _ => trivial
    exact constructorParameter_meets haggregate (List.mem_of_mem_filter hmember) context.defaults

theorem unionLines_meets (haggregate : context.spec.structs.get? name = some aggregate)
    (wrapped : NameSet) :
    Meets (unionLines context.defaults wrapped name aggregate) (fun _ => True)
      (WritingFailure context) := by
  unfold unionLines
  rw [meets_bind]
  refine (?_ : Meets _ (fun _ => True) _).imp fun _ _ => trivial
  cases hmembers : aggregate.members with
  | nil => trivial
  | cons first rest =>
    have hfirst : first ∈ aggregate.members := by
      rw [hmembers]
      exact List.mem_cons_self
    unfold unionConstructors unionDefault
    simp only [meets_bind]
    refine (defaultFor_meets context.defaults first).imp fun value _ => ?_
    split
    · trivial
    · exact (arrayDefault_meets haggregate hfirst value).imp fun _ _ => trivial

end Aggregates

/-! ## Entities -/

theorem entityLines_meets (h : Prepared root context) {entity : Entity}
    (hmem : entity ∈ context.entities) :
    Meets (entityLines context entity) (fun _ => True) (WritingFailure context) := by
  have hdescribed := h.described hmem
  have hbacking := hdescribed.backing
  unfold Spec.Describes at hdescribed
  unfold entityLines
  extract_lets name
  cases hkind : entity.kind with
  | command =>
    simp only [hkind] at hdescribed ⊢
    obtain ⟨command, hcommand, -⟩ := hdescribed
    obtain ⟨analyzed, hanalyzed, -⟩ := Analysis.exists_analyzed h.analyzed hcommand
    unfold Context.command
    rw [find_of_get? hanalyzed]
    exact freeFunctionLines_meets h.consistent hanalyzed
  | enum =>
    simp only [hkind] at hdescribed ⊢
    obtain ⟨enumeration, henum⟩ := Table.contains_iff.1 hdescribed.1
    unfold Context.enum
    rw [find_of_get? henum]
    trivial
  | flags =>
    obtain ⟨bits, -, hbits⟩ := hbacking (.inl hkind)
    simp only [hkind] at hdescribed ⊢
    obtain ⟨guard, hguard⟩ := Table.contains_iff.1 hdescribed.1
    unfold Context.flagsGuard
    rw [hbits, find_of_get? hguard]
    trivial
  | handle =>
    simp only [hkind] at hdescribed ⊢
    obtain ⟨handle, hhandle, hmethods⟩ := hdescribed
    unfold Context.handle
    rw [find_of_get? hhandle]
    exact handleLines_meets h fun method hmethod =>
      (hmethods method hmethod).imp fun _ hcommand => hcommand.1
  | scalar =>
    obtain ⟨underlying, -, hunderlying⟩ := hbacking (.inr hkind)
    simp only [hkind] at hdescribed ⊢
    obtain ⟨guard, hguard⟩ := Table.contains_iff.1 hdescribed.1
    unfold Context.scalarGuard
    rw [hunderlying, find_of_get? hguard]
    trivial
  | struct =>
    simp only [hkind] at hdescribed ⊢
    obtain ⟨aggregate, haggregate, -⟩ := hdescribed
    unfold Context.aggregate
    rw [find_of_get? haggregate]
    exact structLines_meets haggregate
  | union =>
    simp only [hkind] at hdescribed ⊢
    obtain ⟨aggregate, haggregate, -⟩ := hdescribed
    unfold Context.aggregate
    rw [find_of_get? haggregate]
    exact unionLines_meets haggregate context.spec.wrapped
  | callback | required => trivial

theorem typeLines_meets (h : Prepared root context) :
    Meets (typeLines context) (fun _ => True) (WritingFailure context) := by
  unfold typeLines
  rw [meets_bind]
  refine (Meets.mapM_any fun entity hentity => ?_).imp fun _ _ => trivial
  rw [meets_bind]
  exact (entityLines_meets h (List.mem_of_mem_filter hentity)).imp fun _ _ => trivial

end VulkanBindings.Wrapper
