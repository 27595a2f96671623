import VulkanBindings.Proofs.Text.Search
import VulkanBindings.Wrapper.Signature

/-!
# Forms and values as they are written

A reader of the header sees neither a `ParameterForm` nor a `PassedValue`, only their texts.
The lemmas here recognise the one from the other:

* a parameter is declared as a type, its name and an array size (`declaration_eq`), and the
  type tells the form (`typeText_eq_text_iff`, `typeText_eq_array_iff` and so on) unless it
  is made of a type that looks like one of another form (`ParameterForm.IsTellable`);
* what is passed tells how a name is used (`text_eq_characters_iff`, `text_eq_data_iff` and
  so on), whatever the name is (`PassedValue.IsUseOf`).

Most texts differ in how they end.  That is not enough for `&x` and `x.data()` in casts to
types that are left open: `Text.mark_append_ne_append` says why no name makes these the same.
-/

namespace VulkanBindings.Wrapper

/-! ## Types in declarations -/

namespace ParameterForm

/-- The type in the declaration of a parameter. -/
def typeText : ParameterForm → String
  | text => "const std::string &"
  | optionalText => "Optional<const std::string>"
  | array element => s!"ArrayProxy<{element}>"
  | value type _ => type
  | reference target => s!"{target} &"
  | optionalReference target => s!"Optional<{target}>"

/-- The array size behind the name of a parameter. -/
def arraySize : ParameterForm → String
  | value _ arraySize => arraySize
  | text | optionalText | array _ | reference _ | optionalReference _ => ""

/-- No type that the form is made of looks like one of another form. -/
def IsTellable : ParameterForm → Prop
  | value type _ => '<' ∉ type.toList ∧ '&' ∉ type.toList
  | reference target | optionalReference target => target ≠ "const std::string"
  | text | optionalText | array _ => True

theorem declaration_eq (parameter : Parameter) :
    parameter.declaration =
      s!"{parameter.form.typeText} {parameter.name}{brackets parameter.form.arraySize}" := by
  obtain ⟨form, name, default⟩ := parameter
  cases form <;>
    simp [Parameter.declaration, typeText, arraySize, brackets, toString, String.append_assoc]

variable {form : ParameterForm}

/-- A type with a bracket or an ampersand is not the type of a value. -/
theorem ne_value_of_mem {type other : String} (htell : '<' ∉ type.toList ∧ '&' ∉ type.toList)
    (hmem : '<' ∈ other.toList ∨ '&' ∈ other.toList) : type ≠ other := by
  rintro rfl
  exact hmem.elim htell.1 htell.2

theorem typeText_eq_text_iff (htell : form.IsTellable) :
    form.typeText = "const std::string &" ↔ form = .text := by
  cases form with
  | text => exact iff_of_true rfl rfl
  | optionalText => exact iff_of_false (by decide) nofun
  | array element => exact iff_of_false (by simp [typeText, toString, ← String.toList_inj]) nofun
  | value type arraySize => exact iff_of_false (ne_value_of_mem htell (.inr (by decide))) nofun
  | reference target =>
    exact iff_of_false (fun h => htell ((String.append_left_inj " &").1 h)) nofun
  | optionalReference target =>
    exact iff_of_false (by simp [typeText, toString, ← String.toList_inj]) nofun

theorem typeText_eq_optionalText_iff (htell : form.IsTellable) :
    form.typeText = "Optional<const std::string>" ↔ form = .optionalText := by
  cases form with
  | optionalText => exact iff_of_true rfl rfl
  | text => exact iff_of_false (by decide) nofun
  | array element => exact iff_of_false (by simp [typeText, toString, ← String.toList_inj]) nofun
  | value type arraySize => exact iff_of_false (ne_value_of_mem htell (.inl (by decide))) nofun
  | reference target =>
    refine iff_of_false (fun h => ?_) nofun
    simpa [typeText, toString] using congrArg (·.toList.getLast?) h
  | optionalReference target =>
    refine iff_of_false (fun h => htell ?_) nofun
    exact (String.append_right_inj "Optional<").1 ((String.append_left_inj ">").1 h)

theorem typeText_eq_array_iff (htell : form.IsTellable) :
    (∃ element : String, form.typeText = s!"ArrayProxy<{element}>") ↔
      ∃ element, form = .array element := by
  cases form with
  | array element => exact iff_of_true ⟨element, rfl⟩ ⟨element, rfl⟩
  | text => exact iff_of_false (by simp [typeText, toString, ← String.toList_inj]) nofun
  | optionalText => exact iff_of_false (by simp [typeText, toString, ← String.toList_inj]) nofun
  | value type arraySize =>
    refine iff_of_false ?_ nofun
    rintro ⟨element, h⟩
    exact ne_value_of_mem htell (.inl (by simp [toString])) h
  | reference target =>
    refine iff_of_false ?_ nofun
    rintro ⟨element, h⟩
    exact Text.append_ne_append (by decide) h
  | optionalReference target =>
    exact iff_of_false (by simp [typeText, toString, ← String.toList_inj]) nofun

theorem typeText_eq_reference_iff (htell : form.IsTellable) :
    (form.typeText ≠ "const std::string &" ∧ ∃ target : String, form.typeText = s!"{target} &") ↔
      ∃ target, form = .reference target := by
  cases form with
  | reference target =>
    refine iff_of_true ⟨fun h => ?_, target, rfl⟩ ⟨target, rfl⟩
    exact htell ((String.append_left_inj " &").1 h)
  | text => exact iff_of_false (fun h => h.1 rfl) nofun
  | optionalText =>
    refine iff_of_false ?_ nofun
    rintro ⟨-, target, h⟩
    simpa [typeText, toString] using congrArg (·.toList.getLast?) h
  | array element =>
    refine iff_of_false ?_ nofun
    rintro ⟨-, target, h⟩
    exact Text.append_ne_append (by decide) h
  | value type arraySize =>
    refine iff_of_false ?_ nofun
    rintro ⟨-, target, h⟩
    exact ne_value_of_mem htell (.inr (by simp [toString])) h
  | optionalReference target =>
    refine iff_of_false ?_ nofun
    rintro ⟨-, target, h⟩
    exact Text.append_ne_append (by decide) h

theorem typeText_eq_optionalReference_iff (htell : form.IsTellable) :
    (form.typeText ≠ "Optional<const std::string>" ∧
        ∃ target : String, form.typeText = s!"Optional<{target}>") ↔
      ∃ target, form = .optionalReference target := by
  cases form with
  | optionalReference target =>
    refine iff_of_true ⟨fun h => htell ?_, target, rfl⟩ ⟨target, rfl⟩
    exact (String.append_right_inj "Optional<").1 ((String.append_left_inj ">").1 h)
  | optionalText => exact iff_of_false (fun h => h.1 rfl) nofun
  | text => exact iff_of_false (by simp [typeText, toString, ← String.toList_inj]) nofun
  | array element => exact iff_of_false (by simp [typeText, toString, ← String.toList_inj]) nofun
  | reference target =>
    refine iff_of_false ?_ nofun
    rintro ⟨-, other, h⟩
    exact Text.append_ne_append (by decide) h
  | value type arraySize =>
    refine iff_of_false ?_ nofun
    rintro ⟨-, target, h⟩
    exact ne_value_of_mem htell (.inl (by simp [toString])) h

end ParameterForm

/-! ## Values in calls -/

namespace PassedValue

/-- What can be passed for a parameter, by the name of that parameter. -/
inductive IsUseOf (name : String) : PassedValue → Prop
  | verbatim : IsUseOf name (.verbatim name)
  | address : IsUseOf name (.address name)
  | data : IsUseOf name (.data name)
  | dataAs (isConst : Bool) (element : String) : IsUseOf name (.dataAs isConst element name)
  | characters : IsUseOf name (.characters name)
  | optionalCharacters : IsUseOf name (.optionalCharacters name)
  | native (type : String) : IsUseOf name (.native type name)
  | nativeAddress (isConst : Bool) (type : String) :
      IsUseOf name (.nativeAddress isConst type name)
  | nativeOptional (isConst : Bool) (type : String) :
      IsUseOf name (.nativeOptional isConst type name)

variable {name : String} {value : PassedValue}

/-- The text is longer than a name with an ampersand. -/
def IsLonger (name text : String) : Prop :=
  name.toList.length + 1 < text.toList.length

theorem isLonger_append {after : String} (h : 1 < after.toList.length) :
    IsLonger name (name ++ after) := by
  unfold IsLonger
  rw [String.toList_append, List.length_append]
  omega

theorem isLonger_around {before after : String} (h : 1 < after.toList.length) :
    IsLonger name (before ++ name ++ after) := by
  unfold IsLonger
  simp only [String.toList_append, List.length_append]
  omega

theorem IsLonger.ne_verbatim {text : String} (h : IsLonger name text) :
    name ≠ text := by
  rintro rfl
  unfold IsLonger at h
  omega

theorem IsLonger.ne_address {text : String} (h : IsLonger name text) :
    s!"&{name}" ≠ text := by
  rintro rfl
  have hone : "&".toList.length = 1 := rfl
  simp only [IsLonger, toString, String.toList_append, List.length_append] at h
  omega

/-! Both parts of a cast, the type and what is cast. -/

theorem text_dataAs (name : String) (isConst : Bool) (element : String) : ∃ type : String,
    (dataAs isConst element name).text = s!"reinterpret_cast<{type}>( {name}.data() )" := by
  refine ⟨constText isConst ++ element ++ "*", ?_⟩
  change s!"reinterpret_cast<{constText isConst}{element}*>( {name}.data() )" = _
  simp [toString, ← String.toList_inj]

theorem text_nativeAddress (name : String) (isConst : Bool) (type : String) : ∃ target : String,
    (nativeAddress isConst type name).text = s!"reinterpret_cast<{target}>( &{name} )" := by
  refine ⟨constText isConst ++ "Vk" ++ type ++ "*", ?_⟩
  change s!"reinterpret_cast<{constText isConst}Vk{type}*>( &{name} )" = _
  simp [toString, ← String.toList_inj]

theorem text_nativeOptional (isConst : Bool) (type : String) :
    (nativeOptional isConst type name).text =
      s!"reinterpret_cast<{constText isConst}Vk{type}*>( " ++
        s!"static_cast<{constText isConst}{type}*>( " ++ name ++ " ) )" := by
  change s!"reinterpret_cast<{constText isConst}Vk{type}*>( " ++
    s!"static_cast<{constText isConst}{type}*>( {name} ) )" = _
  simp [toString, ← String.toList_inj]

/-- A cast of an address is no cast of the same name with `tail` behind it. -/
theorem addressCast_ne {tail : String} (htail : tail ≠ "") (hmark : '&' ∉ tail.toList)
    (type before name : String) :
    s!"reinterpret_cast<{type}>( &{name} )" ≠ before ++ name ++ tail ++ " )" := by
  have hne := Text.mark_append_ne_append htail hmark s!"reinterpret_cast<{type}>( " before name
  intro heq
  refine hne ((String.append_left_inj " )").1 (Eq.trans ?_ heq))
  simp [toString, ← String.toList_inj]

theorem addressCast_ne_dataCast (type other : String) :
    s!"reinterpret_cast<{type}>( &{name} )" ≠ s!"reinterpret_cast<{other}>( {name}.data() )" := by
  have hdata : ".data()" ≠ "" ∧ '&' ∉ ".data()".toList := by decide
  intro heq
  refine addressCast_ne hdata.1 hdata.2 type s!"reinterpret_cast<{other}>( " name (heq.trans ?_)
  simp [toString, ← String.toList_inj]

theorem addressCast_ne_nativeOptional (type : String) (isConst : Bool) (target : String) :
    s!"reinterpret_cast<{type}>( &{name} )" ≠ (nativeOptional isConst target name).text := by
  have hclose : " )" ≠ "" ∧ '&' ∉ " )".toList := by decide
  intro heq
  refine addressCast_ne hclose.1 hclose.2 type
    (s!"reinterpret_cast<{constText isConst}Vk{target}*>( " ++
      s!"static_cast<{constText isConst}{target}*>( ") name
    ((heq.trans (text_nativeOptional isConst target)).trans ?_)
  simp [← String.toList_inj]

/-- Characters are passed only of a text. -/
theorem text_eq_characters_iff (h : IsUseOf name value) :
    value.text = s!"{name}.c_str()" ↔ value = .characters name := by
  cases h with
  | characters => exact iff_of_true rfl rfl
  | verbatim => exact iff_of_false (isLonger_append (by decide)).ne_verbatim nofun
  | address => exact iff_of_false (isLonger_append (by decide)).ne_address nofun
  | data => exact iff_of_false (Text.append_ne_append (by decide)) nofun
  | optionalCharacters => exact iff_of_false (Text.append_ne_append (by decide)) nofun
  | dataAs isConst element => exact iff_of_false (Text.append_ne_append (by decide)) nofun
  | native type => exact iff_of_false (Text.append_ne_append (by decide)) nofun
  | nativeAddress isConst type => exact iff_of_false (Text.append_ne_append (by decide)) nofun
  | nativeOptional isConst type =>
    rw [text_nativeOptional]
    exact iff_of_false (Text.append_ne_append (by decide)) nofun

/-- Characters or null are passed only of a text that may be absent. -/
theorem text_eq_optionalCharacters_iff (h : IsUseOf name value) :
    value.text = s!"{name} ? {name}->c_str() : nullptr" ↔
      value = .optionalCharacters name := by
  cases h with
  | optionalCharacters => exact iff_of_true rfl rfl
  | verbatim => exact iff_of_false (isLonger_around (by decide)).ne_verbatim nofun
  | address => exact iff_of_false (isLonger_around (by decide)).ne_address nofun
  | data => exact iff_of_false (Text.append_ne_append (by decide)) nofun
  | characters => exact iff_of_false (Text.append_ne_append (by decide)) nofun
  | dataAs isConst element => exact iff_of_false (Text.append_ne_append (by decide)) nofun
  | native type => exact iff_of_false (Text.append_ne_append (by decide)) nofun
  | nativeAddress isConst type => exact iff_of_false (Text.append_ne_append (by decide)) nofun
  | nativeOptional isConst type =>
    rw [text_nativeOptional]
    exact iff_of_false (Text.append_ne_append (by decide)) nofun

/-- The data of an array is passed as such or in a cast, and only of an array. -/
theorem text_eq_data_iff (h : IsUseOf name value) :
    (value.text = s!"{name}.data()" ∨
        ∃ type : String, value.text = s!"reinterpret_cast<{type}>( {name}.data() )") ↔
      value = .data name ∨ ∃ isConst element, value = .dataAs isConst element name := by
  cases h with
  | data => exact iff_of_true (.inl rfl) (.inl rfl)
  | dataAs isConst element =>
    exact iff_of_true (.inr (text_dataAs name isConst element)) (.inr ⟨isConst, element, rfl⟩)
  | verbatim =>
    refine iff_of_false (not_or.2 ⟨(isLonger_append (by decide)).ne_verbatim, ?_⟩) (by simp)
    rintro ⟨type, h⟩
    exact (isLonger_around (by decide)).ne_verbatim h
  | address =>
    refine iff_of_false (not_or.2 ⟨(isLonger_append (by decide)).ne_address, ?_⟩) (by simp)
    rintro ⟨type, h⟩
    exact (isLonger_around (by decide)).ne_address h
  | characters =>
    refine iff_of_false (not_or.2 ⟨Text.append_ne_append (by decide), ?_⟩) (by simp)
    rintro ⟨type, h⟩
    exact Text.append_ne_append (by decide) h
  | optionalCharacters =>
    refine iff_of_false (not_or.2 ⟨Text.append_ne_append (by decide), ?_⟩) (by simp)
    rintro ⟨type, h⟩
    exact Text.append_ne_append (by decide) h
  | native type =>
    refine iff_of_false (not_or.2 ⟨Text.append_ne_append (by decide), ?_⟩) (by simp)
    rintro ⟨other, h⟩
    change s!"static_cast<Vk{type}>( {name} )" = _ at h
    simp [toString, ← String.toList_inj] at h
  | nativeAddress isConst type =>
    refine iff_of_false (not_or.2 ⟨Text.append_ne_append (by decide), ?_⟩) (by simp)
    rintro ⟨other, h⟩
    obtain ⟨target, htext⟩ := text_nativeAddress name isConst type
    exact addressCast_ne_dataCast target other (htext.symm.trans h)
  | nativeOptional isConst type =>
    rw [text_nativeOptional]
    refine iff_of_false (not_or.2 ⟨Text.append_ne_append (by decide), ?_⟩) (by simp)
    rintro ⟨other, h⟩
    exact Text.append_ne_append (by decide) h

/-- An address is passed as such or in a cast, and only of a reference. -/
theorem text_eq_address_iff (h : IsUseOf name value) :
    (value.text = s!"&{name}" ∨
        ∃ type : String, value.text = s!"reinterpret_cast<{type}>( &{name} )") ↔
      value = .address name ∨ ∃ isConst type, value = .nativeAddress isConst type name := by
  cases h with
  | address => exact iff_of_true (.inl rfl) (.inl rfl)
  | nativeAddress isConst type =>
    exact iff_of_true (.inr (text_nativeAddress name isConst type)) (.inr ⟨isConst, type, rfl⟩)
  | verbatim =>
    refine iff_of_false (not_or.2 ⟨?_, ?_⟩) (by simp)
    · intro h
      change name = s!"&{name}" at h
      simpa [toString] using congrArg (·.toList.length) h
    · rintro ⟨type, h⟩
      exact (isLonger_around (by decide)).ne_verbatim h
  | data =>
    refine iff_of_false (not_or.2 ⟨(isLonger_append (by decide)).ne_address.symm, ?_⟩) (by simp)
    rintro ⟨type, h⟩
    exact Text.append_ne_append (by decide) h
  | characters =>
    refine iff_of_false (not_or.2 ⟨(isLonger_append (by decide)).ne_address.symm, ?_⟩) (by simp)
    rintro ⟨type, h⟩
    exact Text.append_ne_append (by decide) h
  | optionalCharacters =>
    refine iff_of_false (not_or.2 ⟨(isLonger_around (by decide)).ne_address.symm, ?_⟩) (by simp)
    rintro ⟨type, h⟩
    exact Text.append_ne_append (by decide) h
  | dataAs isConst element =>
    refine iff_of_false (not_or.2 ⟨(isLonger_around (by decide)).ne_address.symm, ?_⟩) (by simp)
    rintro ⟨type, h⟩
    obtain ⟨other, htext⟩ := text_dataAs name isConst element
    exact addressCast_ne_dataCast type other (h.symm.trans htext)
  | native type =>
    refine iff_of_false (not_or.2 ⟨(isLonger_around (by decide)).ne_address.symm, ?_⟩) (by simp)
    rintro ⟨other, h⟩
    change s!"static_cast<Vk{type}>( {name} )" = _ at h
    simp [toString, ← String.toList_inj] at h
  | nativeOptional isConst type =>
    refine iff_of_false (not_or.2 ⟨?_, ?_⟩) (by simp)
    · rw [text_nativeOptional]
      exact (isLonger_around (by decide)).ne_address.symm
    · rintro ⟨other, h⟩
      exact addressCast_ne_nativeOptional other isConst type h.symm

end PassedValue

end VulkanBindings.Wrapper
