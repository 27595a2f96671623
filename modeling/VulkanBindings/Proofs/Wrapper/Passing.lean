import Mathlib.Data.List.DropRight
import VulkanBindings.Proofs.Text.Search
import VulkanBindings.Proofs.Wrapper.Calls
import VulkanBindings.Proofs.Wrapper.Written

/-!
# Parameters are passed as they are declared

The signature of an enhanced overload gives each parameter a form, and each call of the
native command turns the parameter back into a native value.  Both look at the type of
the parameter, each in its own order and with its own tests.

* `Alike` says that the two came to the same conclusion, and `alike_parameterAt` that they
  do for every parameter but a buffer of elements of any type;
* `WrittenAlike` says the same of the texts in the header, by what a reader sees in the
  declaration and in the call (`Alike.written`);
* `passed_as_declared` says so for whole signatures and both calls.

A signature asks whether a type has an asterisk anywhere and a call whether it ends with
one.  That is the same for types that were read from declarations
(`hasStar_eq_isPointer`), and texts are told apart from wrapped types only as long as
`char` is not wrapped.  A declaration tells the form of its parameter only as long as no
type looks like one of those forms (`Member.IsPlain`): `look_alikes_passed_as_values` has
three types that do.
-/

namespace VulkanBindings.Registry

/-! ## Types that were read -/

/-- The type of a member is one that is declared with its base type, which is no pointer. -/
def Member.IsDeclared (member : Member) : Prop :=
  '*' ∉ member.baseType.toList ∧
    ∃ qualifier pointers, member.type = declaredType qualifier member.baseType pointers

namespace Member

variable {member : Member}

/-- What is read is declared like this. -/
theorem isDeclared_of_ofNode {node : Xml.Node} (h : ofNode node = .ok member)
    (hbase : '*' ∉ member.baseType.toList) : member.IsDeclared := by
  refine ⟨hbase, ?_⟩
  unfold ofNode at h
  split at h
  · rename_i read hread
    obtain rfl := Except.ok.inj h
    unfold ofTokens at hread
    obtain ⟨⟨qualifier, afterQualifier⟩, -, hread⟩ := bind_eq_ok_iff.1 hread
    obtain ⟨⟨typeText, afterType⟩, -, hread⟩ := bind_eq_ok_iff.1 hread
    obtain ⟨⟨pointers, afterPointers⟩, -, hread⟩ := bind_eq_ok_iff.1 hread
    obtain ⟨⟨nameText, afterName⟩, -, hread⟩ := bind_eq_ok_iff.1 hread
    obtain ⟨⟨name, arraySize⟩, -, hread⟩ := bind_eq_ok_iff.1 hread
    obtain rfl := Except.ok.inj hread
    exact ⟨qualifier, pointers, rfl⟩
  · cases h

theorem hasStar_iff : member.hasStar = true ↔ '*' ∈ member.type.toList :=
  Text.occurs_iff.trans (List.singleton_infix_iff _ _)

theorem isPointer_iff : member.isPointer = true ↔ ['*'] <:+ member.type.toList :=
  Text.endsWith_iff

/-- The asterisks of a declared type are at its end. -/
theorem hasStar_eq_isPointer (h : member.IsDeclared) : member.hasStar = member.isPointer := by
  obtain ⟨hbase, qualifier, pointers, htype⟩ := h
  rw [Bool.eq_iff_iff, hasStar_iff, isPointer_iff]
  refine ⟨fun hstar => ?_, fun hends => hends.subset List.mem_cons_self⟩
  cases pointers with
  | some pointers =>
    have hends : ['*'] <:+ pointers.text.toList := by
      cases pointers
      · exact ⟨[], rfl⟩
      · exact ⟨['*'], rfl⟩
      · exact ⟨"* const".toList, rfl⟩
    unfold declaredType at htype
    rw [htype, String.toList_append]
    exact hends.trans (List.suffix_append _ _)
  | none =>
    cases qualifier with
    | none =>
      have htype : member.type = member.baseType := htype
      exact absurd (htype ▸ hstar) hbase
    | some qualifier =>
      have hqualifier : '*' ∉ (qualifier.text ++ " ").toList := by
        cases qualifier <;> decide
      unfold declaredType at htype
      rw [htype, String.toList_append, List.mem_append] at hstar
      exact absurd hstar (not_or.2 ⟨hqualifier, hbase⟩)

/-! ## Types that look like no form of a parameter -/

/-- A declared type whose base type has none of the characters that references, options
and array proxies are written with, and is no text of the standard library. -/
structure IsPlain (member : Member) : Prop where
  isDeclared : member.IsDeclared
  bracket_notMem : '<' ∉ member.baseType.toList
  ampersand_notMem : '&' ∉ member.baseType.toList
  string_not_infix : ¬ "std::string".toList <:+: member.baseType.toList

/-- What a declared type adds to its base type. -/
theorem IsDeclared.exists_type_eq (h : member.IsDeclared) :
    ∃ front ∈ ["", "const ", "struct "], ∃ back ∈ ["", "*", "**", "* const*"],
      member.type = front ++ member.baseType ++ back := by
  obtain ⟨-, qualifier, pointers, htype⟩ := h
  refine ⟨qualifier.elim "" (·.text ++ " "), ?_, pointers.elim "" (·.text), ?_, ?_⟩
  · cases qualifier with
    | none => decide
    | some qualifier => cases qualifier <;> decide
  · cases pointers with
    | none => decide
    | some pointers => cases pointers <;> decide
  · rw [htype]
    cases qualifier <;> cases pointers <;> simp [declaredType]

theorem IsDeclared.mem_baseType (h : member.IsDeclared) {c : Char} (hc : c = '<' ∨ c = '&')
    (hmem : c ∈ member.type.toList) : c ∈ member.baseType.toList := by
  obtain ⟨front, hfront, back, hback, htype⟩ := h.exists_type_eq
  have hfronts : ∀ front ∈ ["", "const ", "struct "], c ∉ front.toList := by
    rcases hc with rfl | rfl <;> decide
  have hbacks : ∀ back ∈ ["", "*", "**", "* const*"], c ∉ back.toList := by
    rcases hc with rfl | rfl <;> decide
  rw [htype, String.toList_append, String.toList_append, List.mem_append, List.mem_append] at hmem
  rcases hmem with (hmem | hmem) | hmem
  · exact absurd hmem (hfronts front hfront)
  · exact hmem
  · exact absurd hmem (hbacks back hback)

/-- The type of a plain member does not begin as a constant text does. -/
theorem IsPlain.not_prefix_type (h : member.IsPlain) :
    ¬ "const std::string".toList <+: member.type.toList := by
  obtain ⟨front, hfront, back, hback, htype⟩ := h.isDeclared.exists_type_eq
  have hbacks : ∀ back ∈ ["", "*", "**", "* const*"],
      ∀ c ∈ back.toList.head?, c ∉ "const std::string".toList := by
    have hstars : ∀ back ∈ ["", "*", "**", "* const*"], ∀ c ∈ back.toList.head?, c = '*' := by
      simp
    have hstar : '*' ∉ "const std::string".toList := by
      simp
    intro back hback c hc
    rwa [hstars back hback c hc]
  rw [htype, String.toList_append]
  intro hprefix
  -- The pointers behind the type begin with an asterisk, which the text does not have.
  have hprefix : "const std::string".toList <+: (front ++ member.baseType).toList :=
    Text.Chars.prefix_of_prefix_append hprefix (hbacks back hback)
  rw [String.toList_append] at hprefix
  simp only [List.mem_cons, List.not_mem_nil, or_false] at hfront
  obtain rfl | rfl | rfl := hfront
  · exact h.string_not_infix (List.IsInfix.trans (by decide) hprefix.isInfix)
  · exact h.string_not_infix ((List.prefix_append_right_inj "const ".toList).1 hprefix).isInfix
  · simp at hprefix

end Member

end VulkanBindings.Registry

namespace VulkanBindings.Wrapper

open Analysis (Analyzed Position argument)
open Naming (reduced)
open Registry (Command Member Spec)

/-! ## Forms and values -/

/-- A parameter of the enhanced overload is passed on in the form that it is taken in. -/
structure Alike (wrapped : NameSet) (member : Member) (parameter : Parameter)
    (value : PassedValue) : Prop where
  name_eq : parameter.name = reduced member.name
  optionalText_iff :
    parameter.form = .optionalText ↔ value = .optionalCharacters (reduced member.name)
  text_iff : parameter.form = .text ↔ value = .characters (reduced member.name)
  array_iff : (∃ element, parameter.form = .array element) ↔
    value = .data (reduced member.name) ∨
      ∃ isConst element, value = .dataAs isConst element (reduced member.name)
  reference_iff : (∃ target, parameter.form = .reference target) ↔
    value = .address (reduced member.name) ∨
      ∃ isConst type, value = .nativeAddress isConst type (reduced member.name)
  optionalReference : ∀ target, parameter.form = .optionalReference target →
    value = if member.baseType ∈ wrapped then
        .nativeOptional member.mentionsConst member.baseType (reduced member.name)
      else .verbatim (reduced member.name)
  byValue : ∀ type arraySize, parameter.form = .value type arraySize →
    value = if member.baseType ∈ wrapped then .native member.baseType (reduced member.name)
      else .verbatim (reduced member.name)

section Parameters

variable {spec : Spec} {analyzed : Analyzed} {position : Position analyzed.command}

theorem baseType_of_isText {member : Member} (h : member.isText = true) :
    member.baseType = "char" :=
  beq_iff_eq.1 (Bool.and_eq_true_iff.1 h).1

/-- An array that is no buffer and is not returned. -/
theorem alike_array {wrapped : NameSet} (hchar : "char" ∉ wrapped)
    (hbuffer : analyzed.roles.buffer ≠ some position)
    (houtput : analyzed.roles.output ≠ some position)
    (count : Option (Position analyzed.command)) (step : Step) :
    Alike wrapped (argument position) (arrayParameter (argument position) false count.isNone)
      (arrayValue wrapped analyzed step position count) := by
  unfold arrayParameter arrayValue
  simp only [houtput, hbuffer, decide_false, Bool.false_and, Bool.false_eq_true, if_false]
  by_cases htext : (argument position).isText = true
  · have hbase : (argument position).baseType ∉ wrapped := by
      rwa [baseType_of_isText htext]
    rw [if_pos htext, if_neg hbase, if_pos htext]
    split <;> constructor <;> simp
  · rw [if_neg htext, if_neg htext]
    split <;> constructor <;> simp

/-- A single value, by a pointer or not. -/
theorem alike_pointer {wrapped : NameSet} {member : Member} (hchar : "char" ∉ wrapped)
    (hpointer : member.isPointer = true) :
    Alike wrapped member (pointerParameter member)
      (if member.baseType ∈ wrapped then wrappedValue member else plainValue member) := by
  unfold pointerParameter wrappedValue plainValue
  simp only [hpointer, Bool.not_true, Bool.false_eq_true, if_false]
  by_cases htext : (member.isText && member.mentionsConst) = true
  · have hbase : member.baseType ∉ wrapped := by
      rwa [baseType_of_isText (Bool.and_eq_true_iff.1 htext).1]
    rw [if_pos htext, if_neg hbase, if_pos htext]
    split <;> constructor <;> simp
  · rw [if_neg htext, if_neg htext]
    by_cases hoptional : member.optional = true
    · simp only [if_pos hoptional]
      split <;> constructor <;> simp [*]
    · simp only [if_neg hoptional]
      split <;> constructor <;> simp

theorem valueParameter_eq_ok {member : Member} {isLast : Bool} {parameter : Parameter}
    (h : valueParameter spec member isLast = .ok parameter) :
    ∃ default, parameter = ⟨.value member.type member.arraySize, reduced member.name, default⟩ := by
  unfold valueParameter at h
  dsimp only at h
  split at h
  · obtain ⟨default, -, h⟩ := bind_eq_ok_iff.1 h
    exact ⟨default, (Except.ok.inj h).symm⟩
  · exact ⟨none, (Except.ok.inj h).symm⟩

theorem alike_value {wrapped : NameSet} {member : Member} {isLast : Bool} {parameter : Parameter}
    (hpointer : member.isPointer = false) (h : valueParameter spec member isLast = .ok parameter) :
    Alike wrapped member parameter
      (if member.baseType ∈ wrapped then wrappedValue member else plainValue member) := by
  obtain ⟨default, rfl⟩ := valueParameter_eq_ok h
  unfold wrappedValue plainValue
  simp only [hpointer, Bool.not_false, if_true]
  split <;> constructor <;> simp [*]

/-- Every parameter is passed alike, but for a buffer. -/
theorem alike_parameterAt (htype : (argument position).IsDeclared) (hchar : "char" ∉ spec.wrapped)
    (hkept : position ∈ keptPositions analyzed) (hbuffer : analyzed.roles.buffer ≠ some position)
    {parameter : Parameter} (h : parameterAt spec analyzed position = .ok parameter) (step : Step) :
    Alike spec.wrapped (argument position) parameter
      (enhancedValue spec.wrapped analyzed step position) := by
  obtain ⟨-, hkept⟩ := List.mem_filter.1 hkept
  obtain ⟨hcounts, houtput⟩ := Bool.and_eq_true_iff.1 hkept
  rw [Option.isNone_iff_eq_none] at hcounts
  unfold parameterAt at h
  unfold enhancedValue
  rw [hcounts]
  cases harray : analyzed.roles.arrays.lookup position with
  | some count =>
    simp only [harray, hbuffer, decide_false] at h
    obtain rfl := Except.ok.inj h
    exact alike_array hchar hbuffer (bne_iff_ne.1 houtput) count step
  | none =>
    simp only [harray, Registry.Member.hasStar_eq_isPointer htype] at h
    split at h
    · rename_i hpointer
      obtain rfl := Except.ok.inj h
      exact alike_pointer hchar hpointer
    · rename_i hpointer
      exact alike_value (eq_false_of_ne_true hpointer) h

/-! ## Texts of declarations and calls -/

/-- The text that is passed for a parameter fits the type that the parameter is declared
with: characters for texts, data for arrays, addresses for references, and else the
parameter as it is, converted when it is wrapped. -/
structure WrittenAlike (wrapped : NameSet) (member : Member) (type value : String) : Prop where
  optionalText_iff : type = "Optional<const std::string>" ↔
    value = s!"{reduced member.name} ? {reduced member.name}->c_str() : nullptr"
  text_iff : type = "const std::string &" ↔ value = s!"{reduced member.name}.c_str()"
  array_iff : (∃ element : String, type = s!"ArrayProxy<{element}>") ↔
    value = s!"{reduced member.name}.data()" ∨
      ∃ target : String, value = s!"reinterpret_cast<{target}>( {reduced member.name}.data() )"
  reference_iff :
    (type ≠ "const std::string &" ∧ ∃ target : String, type = s!"{target} &") ↔
      value = s!"&{reduced member.name}" ∨
        ∃ target : String, value = s!"reinterpret_cast<{target}>( &{reduced member.name} )"
  optionalReference : type ≠ "Optional<const std::string>" →
    (∃ target : String, type = s!"Optional<{target}>") →
      value = if member.baseType ∈ wrapped then
          let const := if member.mentionsConst then "const " else ""
          s!"reinterpret_cast<{const}Vk{member.baseType}*>( " ++
            s!"static_cast<{const}{member.baseType}*>( {reduced member.name} ) )"
        else reduced member.name
  byValue : (∀ target : String, type ≠ s!"Optional<{target}>" ∧
      type ≠ s!"ArrayProxy<{target}>" ∧ type ≠ s!"{target} &") →
    type = member.type ∧
      value = if member.baseType ∈ wrapped then
          s!"static_cast<Vk{member.baseType}>( {reduced member.name} )"
        else reduced member.name

section Texts

variable {wrapped : NameSet} {member : Member} {parameter : Parameter} {value : PassedValue}

theorem Alike.isUseOf (h : Alike wrapped member parameter value) :
    value.IsUseOf (reduced member.name) := by
  cases hform : parameter.form with
  | text => exact h.text_iff.1 hform ▸ .characters
  | optionalText => exact h.optionalText_iff.1 hform ▸ .optionalCharacters
  | array element =>
    obtain rfl | ⟨isConst, element, rfl⟩ := h.array_iff.1 ⟨element, hform⟩
    · exact .data
    · exact .dataAs isConst element
  | reference target =>
    obtain rfl | ⟨isConst, type, rfl⟩ := h.reference_iff.1 ⟨target, hform⟩
    · exact .address
    · exact .nativeAddress isConst type
  | optionalReference target =>
    rw [h.optionalReference target hform]
    split
    · exact .nativeOptional member.mentionsConst member.baseType
    · exact .verbatim
  | value type arraySize =>
    rw [h.byValue type arraySize hform]
    split
    · exact .native member.baseType
    · exact .verbatim

/-- What is alike is written alike. -/
theorem Alike.written (h : Alike wrapped member parameter value)
    (htell : parameter.form.IsTellable)
    (htype : ∀ type arraySize, parameter.form = .value type arraySize → type = member.type) :
    WrittenAlike wrapped member parameter.form.typeText value.text where
  optionalText_iff := (ParameterForm.typeText_eq_optionalText_iff htell).trans
    (h.optionalText_iff.trans (PassedValue.text_eq_optionalCharacters_iff h.isUseOf).symm)
  text_iff := (ParameterForm.typeText_eq_text_iff htell).trans
    (h.text_iff.trans (PassedValue.text_eq_characters_iff h.isUseOf).symm)
  array_iff := (ParameterForm.typeText_eq_array_iff htell).trans
    (h.array_iff.trans (PassedValue.text_eq_data_iff h.isUseOf).symm)
  reference_iff := (ParameterForm.typeText_eq_reference_iff htell).trans
    (h.reference_iff.trans (PassedValue.text_eq_address_iff h.isUseOf).symm)
  optionalReference := by
    intro hother htarget
    obtain ⟨target, hform⟩ :=
      (ParameterForm.typeText_eq_optionalReference_iff htell).1 ⟨hother, htarget⟩
    rw [h.optionalReference target hform]
    split <;> rfl
  byValue := by
    intro hother
    cases hform : parameter.form with
    | value type arraySize =>
      refine ⟨htype type arraySize hform, ?_⟩
      rw [h.byValue type arraySize hform]
      split <;> rfl
    | text => exact absurd (congrArg ParameterForm.typeText hform) (hother "const std::string").2.2
    | optionalText =>
      exact absurd (congrArg ParameterForm.typeText hform) (hother "const std::string").1
    | array element => exact absurd (congrArg ParameterForm.typeText hform) (hother element).2.1
    | reference target => exact absurd (congrArg ParameterForm.typeText hform) (hother target).2.2
    | optionalReference target =>
      exact absurd (congrArg ParameterForm.typeText hform) (hother target).1

theorem toList_trimEnd (text : String) :
    (Text.trimEnd text).toList = text.toList.rdropWhile Text.isBlank :=
  String.toList_ofList

theorem cut?_star {type before rest : String} (h : Text.cut? "*" type = some (before, rest)) :
    type = before ++ "*" ++ rest ∧ '*' ∉ before.toList := by
  have hmarker : "*" = String.singleton '*' := by decide
  rw [hmarker] at h ⊢
  exact Text.cut?_singleton_eq_some.1 h

/-- What a type points to is a start of the type. -/
theorem target_prefix (type : String) : (target type).toList <+: type.toList := by
  unfold target
  split
  · rename_i before rest hcut
    rw [(cut?_star hcut).1, toList_trimEnd, String.append_assoc, String.toList_append]
    exact (List.rdropWhile_prefix _ _).trans (List.prefix_append _ _)
  · rw [toList_trimEnd, String.toList_ofList]
    exact (List.rdropWhile_prefix _ _).trans (List.dropLast_prefix _)

/-- The form of a parameter with a plain type shows in its declaration, and a value is
declared with the type that it has. -/
theorem isTellable_parameterAt {spec : Spec} {analyzed : Analyzed}
    {position : Position analyzed.command} {parameter : Parameter}
    (hplain : (argument position).IsPlain)
    (h : parameterAt spec analyzed position = .ok parameter) :
    parameter.form.IsTellable ∧ ∀ type arraySize, parameter.form = .value type arraySize →
      type = (argument position).type := by
  have htarget : target (argument position).type ≠ "const std::string" := fun heq =>
    hplain.not_prefix_type (heq ▸ target_prefix _)
  unfold parameterAt at h
  dsimp only at h
  split at h
  · obtain rfl := Except.ok.inj h
    unfold arrayParameter
    dsimp only
    split_ifs <;> exact ⟨trivial, nofun⟩
  · split at h
    · obtain rfl := Except.ok.inj h
      unfold pointerParameter
      dsimp only
      split_ifs
      · exact ⟨trivial, nofun⟩
      · exact ⟨trivial, nofun⟩
      · exact ⟨htarget, nofun⟩
      · exact ⟨htarget, nofun⟩
    · obtain ⟨default, rfl⟩ := valueParameter_eq_ok h
      refine ⟨⟨fun hmem => ?_, fun hmem => ?_⟩, fun type arraySize hform => ?_⟩
      · exact hplain.bracket_notMem (hplain.isDeclared.mem_baseType (.inl rfl) hmem)
      · exact hplain.ampersand_notMem (hplain.isDeclared.mem_baseType (.inr rfl) hmem)
      · exact (ParameterForm.value.inj hform).1.symm

end Texts

/-! ## Whole signatures -/

/-- Only defaults change when they are settled. -/
theorem forall₂_settleDefaults {α : Type} {related : α → Parameter → Prop} {items : List α}
    {parameters : List Parameter}
    (hdefault : ∀ item parameter default, related item parameter →
      related item { parameter with default })
    (h : List.Forall₂ related items parameters) :
    List.Forall₂ related items (Parameter.settleDefaults parameters) := by
  induction h with
  | nil => exact .nil
  | cons hfirst _ ih => exact .cons (hdefault _ _ _ hfirst) ih

/-- A method does not take its handle as a parameter. -/
theorem ne_zero_of_mem_keptPositions (hkept : position ∈ keptPositions analyzed) :
    analyzed.command.isMethod = true → position.val ≠ 0 :=
  mem_ownPositions.1 (List.mem_filter.1 hkept).1

end Parameters

section Signatures

variable {spec : Spec} {name functionName : String} {command : Command} {analyzed : Analyzed}
  {signature : Signature}

/-- The native calls of a wrapper are its first and its second one.  The parameters of its
signature belong to the positions that are kept, in their order, and each of them but a
buffer is declared with the type that fits what either call passes for it. -/
theorem passed_as_declared (hanalyze : Analysis.analyze name command = .ok analyzed)
    (htypes : ∀ member ∈ command.arguments, member.IsPlain) (hchar : "char" ∉ spec.wrapped)
    (hsignature : signatureOf spec analyzed functionName = .ok signature) :
    (∀ caller body, bodyOf spec.wrapped analyzed caller = .ok body →
      ∀ call ∈ Statement.callsOfAll body,
        ∃ step, call = enhancedCall spec.wrapped analyzed step) ∧
      ∀ step, ∃ passed, (enhancedCall spec.wrapped analyzed step).text =
          Naming.nativeCommand analyzed.name ++ parenthesized passed ∧
        List.Forall₂
          (fun position parameter => analyzed.roles.buffer ≠ some position →
            ∃ type arraySize value,
              parameter.declaration =
                s!"{type} {reduced (argument position).name}{brackets arraySize}" ∧
              passed[position.val]? = some value ∧
              WrittenAlike spec.wrapped (argument position) type value)
          (keptPositions analyzed) signature.parameters := by
  refine ⟨fun caller body hbody call hcall => exists_step_of_mem_calls _ hbody hcall,
    fun step => ⟨_, rfl, ?_⟩⟩
  obtain ⟨parameters, hparameters, -, hsettled⟩ := signatureOf_eq_ok hsignature
  have hcommand : analyzed.command = command :=
    ((Analysis.analyze_meets name command).of_ok hanalyze).2
  rw [hsettled]
  have hread := (List.forall₂_and_left (p := (· ∈ keptPositions analyzed)) _ _).2
    ⟨fun _ hkept => hkept, forall₂_of_mapM hparameters⟩
  refine forall₂_settleDefaults (fun _ _ _ h => h) (hread.imp ?_)
  rintro position parameter ⟨hkept, hparameter⟩ hbuffer
  have hplain : (argument position).IsPlain :=
    htypes _ (hcommand ▸ List.getElem_mem position.isLt)
  have halike :=
    alike_parameterAt hplain.isDeclared hchar hkept hbuffer hparameter step
  obtain ⟨htell, htype⟩ := isTellable_parameterAt hplain hparameter
  refine ⟨_, parameter.form.arraySize, _, ?_, ?_, halike.written htell htype⟩
  · rw [← halike.name_eq]
    exact ParameterForm.declaration_eq parameter
  · rw [List.getElem?_map, value_of_enhancedCall _ step (ne_zero_of_mem_keptPositions hkept)]
    rfl

/-- A command with parameters of most forms. -/
def sampleDescription : Command where
  returnType := Registry.voidType
  arguments :=
    [⟨"Device", "device", "Device", "", "", false⟩,
     ⟨"const char*", "pName", "char", "", "null-terminated", true⟩,
     ⟨"uint32_t", "regionCount", "uint32_t", "", "", false⟩,
     ⟨"const Region*", "pRegions", "Region", "", "regionCount", false⟩,
     ⟨"const Info*", "pInfo", "Info", "", "", false⟩,
     ⟨"const Info*", "pMore", "Info", "", "", true⟩,
     ⟨"float", "width", "float", "", "", false⟩]
  successCodes := []
  guard := ""
  owner := some "Device"
  twoStep := false

/-- A registry that wraps the types of the sample. -/
def sampleWrapping : Spec :=
  { Spec.initial with wrapped := NameSet.ofList ["Device", "Info", "Region"] }

/-- Each form of the sample is passed on as it is declared. -/
theorem description_passed_as_declared :
    ∃ analyzed signature, Analysis.analyze "describe" sampleDescription = .ok analyzed ∧
      (∀ member ∈ sampleDescription.arguments, member.IsPlain) ∧
      "char" ∉ sampleWrapping.wrapped ∧
      signatureOf sampleWrapping analyzed "describe" = .ok signature ∧
      signature.parameters.map (·.declaration) = ["Optional<const std::string> name",
        "ArrayProxy<const Region> regions", "const Info & info", "Optional<const Info> more",
        "float width"] ∧
      ∀ step, ∃ passed, (enhancedCall sampleWrapping.wrapped analyzed step).text =
          Naming.nativeCommand analyzed.name ++ parenthesized passed ∧
        List.Forall₂
          (fun position parameter => analyzed.roles.buffer ≠ some position →
            ∃ type arraySize value,
              parameter.declaration =
                s!"{type} {reduced (argument position).name}{brackets arraySize}" ∧
              passed[position.val]? = some value ∧
              WrittenAlike sampleWrapping.wrapped (argument position) type value)
          (keptPositions analyzed) signature.parameters := by
  have hsample : (Analysis.rolesOf "describe" sampleDescription).toOption.any (fun roles =>
      (signatureOf sampleWrapping ⟨"describe", sampleDescription, roles⟩
        "describe").toOption.any fun signature =>
          signature.parameters.map (·.declaration) == ["Optional<const std::string> name",
            "ArrayProxy<const Region> regions", "const Info & info",
            "Optional<const Info> more", "float width"]) =
      true := by
    decide +kernel
  obtain ⟨roles, hroles, hsample⟩ := exists_of_any hsample
  obtain ⟨signature, hsignature, hdeclarations⟩ := exists_of_any hsample
  have hanalyze : Analysis.analyze "describe" sampleDescription =
      .ok ⟨"describe", sampleDescription, roles⟩ :=
    Analysis.analyze_eq_ok_iff.2 ⟨roles, hroles, rfl⟩
  have hchar : "char" ∉ sampleWrapping.wrapped := by decide +kernel
  have htypes : ∀ member ∈ sampleDescription.arguments, member.IsDeclared := by
    simp only [sampleDescription, List.forall_mem_cons, List.not_mem_nil, false_implies,
      implies_true, and_true]
    exact ⟨⟨by decide, none, none, by decide⟩,
      ⟨by decide, some .const, some .one, by decide⟩,
      ⟨by decide, none, none, by decide⟩,
      ⟨by decide, some .const, some .one, by decide⟩,
      ⟨by decide, some .const, some .one, by decide⟩,
      ⟨by decide, some .const, some .one, by decide⟩,
      ⟨by decide, none, none, by decide⟩⟩
  have hbases : ∀ member ∈ sampleDescription.arguments, '<' ∉ member.baseType.toList ∧
      '&' ∉ member.baseType.toList ∧ ¬ "std::string".toList <:+: member.baseType.toList := by
    decide
  have hplain (member : Member) (hmember : member ∈ sampleDescription.arguments) :
      member.IsPlain :=
    ⟨htypes member hmember, (hbases member hmember).1, (hbases member hmember).2.1,
      (hbases member hmember).2.2⟩
  exact ⟨_, signature, hanalyze, hplain, hchar, hsignature, beq_iff_eq.1 hdeclarations,
    (passed_as_declared hanalyze hplain hchar hsignature).2⟩

/-- A command whose types look like the forms of parameters. -/
def sampleLookAlikes : Command where
  returnType := Registry.voidType
  arguments :=
    [⟨"const std::string*", "pName", "std::string", "", "", true⟩,
     ⟨"Optional<const std::string>", "label", "Optional<const std::string>", "", "", false⟩,
     ⟨"Size &", "size", "Size &", "", "", false⟩]
  successCodes := []
  guard := ""
  owner := none
  twoStep := false

/-- Types that look like a form are declared like it, and passed as any other value: a text
that may be absent without its characters, and a reference without its address. -/
theorem look_alikes_passed_as_values :
    (∀ member ∈ sampleLookAlikes.arguments, member.IsDeclared) ∧
      "char" ∉ sampleWrapping.wrapped ∧
      ∃ analyzed signature, Analysis.analyze "describe" sampleLookAlikes = .ok analyzed ∧
        signatureOf sampleWrapping analyzed "describe" = .ok signature ∧
        analyzed.roles.buffer = none ∧
        signature.parameters.map (·.declaration) = ["Optional<const std::string> name",
          "Optional<const std::string> label", "Size & size"] ∧
        ∀ step, (enhancedCall sampleWrapping.wrapped analyzed step).text =
          "vkDescribe( name, label, size )" := by
  have hsample : (Analysis.rolesOf "describe" sampleLookAlikes).toOption.any (fun roles =>
      (signatureOf sampleWrapping ⟨"describe", sampleLookAlikes, roles⟩
        "describe").toOption.any fun signature =>
          (roles.buffer.isNone &&
            signature.parameters.map (·.declaration) == ["Optional<const std::string> name",
              "Optional<const std::string> label", "Size & size"]) &&
          [Step.query, .fill].all fun step =>
            (enhancedCall sampleWrapping.wrapped ⟨"describe", sampleLookAlikes, roles⟩ step).text ==
              "vkDescribe( name, label, size )") = true := by
    decide +kernel
  obtain ⟨roles, hroles, hsample⟩ := exists_of_any hsample
  obtain ⟨signature, hsignature, hsample⟩ := exists_of_any hsample
  obtain ⟨hsample, hcalls⟩ := Bool.and_eq_true_iff.1 hsample
  obtain ⟨hbuffer, hdeclarations⟩ := Bool.and_eq_true_iff.1 hsample
  have hcalls := List.all_eq_true.1 hcalls
  refine ⟨?_, by decide +kernel, ⟨"describe", sampleLookAlikes, roles⟩, signature,
    Analysis.analyze_eq_ok_iff.2 ⟨roles, hroles, rfl⟩, hsignature,
    Option.isNone_iff_eq_none.1 hbuffer, beq_iff_eq.1 hdeclarations, ?_⟩
  · simp only [sampleLookAlikes, List.forall_mem_cons, List.not_mem_nil, false_implies,
      implies_true, and_true]
    exact ⟨⟨by decide, some .const, some .one, by decide⟩, ⟨by decide, none, none, by decide⟩,
      ⟨by decide, none, none, by decide⟩⟩
  · intro step
    cases step
    · exact beq_iff_eq.1 (hcalls .query (by simp))
    · exact beq_iff_eq.1 (hcalls .fill (by simp))

end Signatures

end VulkanBindings.Wrapper
