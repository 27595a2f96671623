import VulkanBindings.Proofs.Registry.Consistent
import VulkanBindings.Proofs.Wrapper.TwoCalls
import VulkanBindings.Wrapper.Standard

/-!
# The shape of native calls

A native command is called by position, so that a value too many or too few would shift all
values after it.  `HasShape` says that a call passes exactly one value for each parameter, in
the order of the parameters, with the handle of a method first.  All calls of both overloads
have this shape (`hasShape_standardCall`, `hasShape_enhancedCall`), since each of them is the
handle followed by one value for each of the other parameters (`hasShape_of_values`).

The enhanced overload writes the call of a command that is asked for a count twice.  The two
texts differ at the array that is asked for, if there is one (`AskedFor`), and nowhere else:
the first call passes a null pointer for it.  As all other parts of the texts are the same, the
texts differ if these two values are written differently (`parenthesized_set_inj`).
-/

namespace VulkanBindings.Wrapper

open Analysis (Analyzed Position argument isArray)
open Naming (nativeCommand reduced)
open Registry (Command Member)

/-! ## Text of calls -/

/-- Parts between separators are the same texts if all but one part are the same and that one
is. -/
theorem intercalate_append_cons_inj (separator : String) (before after : List String)
    {part other : String} :
    separator.intercalate (before ++ part :: after) =
      separator.intercalate (before ++ other :: after) ↔ part = other := by
  induction before with
  | nil =>
    cases after with
    | nil => simp
    | cons next after => simp [String.append_assoc, String.append_left_inj]
  | cons first before ih =>
    rw [List.cons_append, List.cons_append, String.intercalate_cons_of_ne_nil (by simp),
      String.intercalate_cons_of_ne_nil (by simp), String.append_right_inj, ih]

theorem parenthesized_set_inj {parts : List String} {index : Nat} (hindex : index < parts.length)
    {part other : String} :
    parenthesized (parts.set index part) = parenthesized (parts.set index other) ↔
      part = other := by
  rw [List.set_eq_take_append_cons_drop, List.set_eq_take_append_cons_drop, if_pos hindex,
    if_pos hindex]
  unfold parenthesized
  rw [if_neg (by simp), if_neg (by simp), String.append_left_inj, String.append_right_inj,
    intercalate_append_cons_inj]

/-- Two calls of one command that differ in one value at most are written alike just if that
value is. -/
theorem text_set_inj {call : NativeCall} {index : Nat} (hindex : index < call.values.length)
    {value other : PassedValue} :
    NativeCall.text { call with values := call.values.set index value } =
      NativeCall.text { call with values := call.values.set index other } ↔
        value.text = other.text := by
  unfold NativeCall.text
  rw [String.append_right_inj, List.map_set, List.map_set,
    parenthesized_set_inj (by rwa [List.length_map])]

/-! ## Values -/

namespace PassedValue

/-- The name of the parameter or of the local that a value is made of. -/
def operand? : PassedValue → Option String
  | ownHandle _ | null => none
  | verbatim name | address name | size name _ | data name | dataAs _ _ name | characters name
  | optionalCharacters name | native _ name | nativePointer _ _ name | nativeAddress _ _ name
  | nativeOptional _ _ name => some name

/-- What an array or a text holds. -/
def IsContents : PassedValue → Prop
  | data _ | dataAs _ _ _ | characters _ | optionalCharacters _ => True
  | _ => False

/-- Contents are asked of their container by a call, and a null pointer is not. -/
theorem IsContents.text_ne {value : PassedValue} (h : value.IsContents) :
    null.text ≠ value.text := by
  have hend : ∀ {front back : String}, '(' ∈ back.toList → '(' ∈ (front ++ back).toList :=
    fun hback => String.toList_append ▸ List.mem_append_right _ hback
  have hcall : '(' ∈ value.text.toList := by
    cases value with
    | data | dataAs | characters | optionalCharacters => exact hend (by decide)
    | _ => exact False.elim h
  intro heq
  rw [← heq] at hcall
  exact absurd hcall (by decide)

end PassedValue

/-! ## The shape of a call -/

/-- A call passes one value for each parameter of a command, in their order: the handle of a
method first, and for each other parameter a value that is made for it. -/
structure HasShape (name : String) (command : Command)
    (madeFor : Position command → PassedValue → Prop) (call : NativeCall) : Prop where
  function_eq : call.function = nativeCommand name
  length_eq : call.values.length = command.arguments.length
  handle_first : command.isMethod = true →
    call.values.head? = command.arguments.head?.map fun handle => .ownHandle handle.baseType
  others : ∀ position : Position command, (command.isMethod = true → position.val ≠ 0) →
    ∃ value, call.values[position.val]? = some value ∧ madeFor position value

section Shape

variable {name : String} {command : Command} {call : NativeCall}
  {madeFor : Position command → PassedValue → Prop}

theorem hasShape_of_values (howned : command.isMethod = true → command.WellOwned)
    (value : Position command → PassedValue) (hfunction : call.function = nativeCommand name)
    (hvalues : call.values = ownHandleValue command ++ (ownPositions command).map value)
    (hvalue : ∀ position, madeFor position (value position)) :
    HasShape name command madeFor call where
  function_eq := hfunction
  length_eq := by
    have hown := congrArg List.length (ownArguments_eq command)
    rw [List.length_map] at hown
    rw [hvalues, List.length_append, length_ownHandleValue, List.length_map, ← hown, ownArguments]
    split
    · rename_i hmethod
      obtain ⟨first, rest, harguments, -⟩ := howned hmethod
      simp [harguments, Nat.add_comm]
    · simp
  handle_first hmethod := by
    obtain ⟨first, rest, harguments, hhandle⟩ := howned hmethod
    obtain ⟨handle, howner⟩ := Option.isSome_iff_exists.1 hmethod
    rw [hvalues, ownHandleValue, howner, harguments, hhandle handle howner]
    rfl
  others position hposition := by
    refine ⟨value position, ?_, hvalue position⟩
    rw [hvalues, getElem?_ownValues_of_own value hposition]

/-- The standard overload passes each of its parameters on. -/
theorem hasShape_standardCall (wrapped : NameSet) (name : String)
    (howned : command.isMethod = true → command.WellOwned) :
    HasShape name command (fun position value => value.operand? = some (argument position).name)
      (standardCall wrapped name command) := by
  refine hasShape_of_values howned (fun position => standardValue wrapped (argument position))
    rfl ?_
    fun position => ?_
  · unfold standardCall
    rw [ownArguments_eq, List.map_map]
    rfl
  · unfold standardValue
    split
    · rfl
    · split <;> rfl

end Shape

section Enhanced

variable {wrapped : NameSet} {analyzed : Analyzed} {output : Position analyzed.command}

/-- A value that the enhanced overload passes for the parameter at a position: it is made of the
parameter or the local there, or is the size of the array that the parameter counts, or nothing
if the parameter is the output that is only asked for. -/
inductive StandsFor (analyzed : Analyzed) (step : Step) (position : Position analyzed.command) :
    PassedValue → Prop
  | own {value : PassedValue}
      (operand_eq : value.operand? = some (reduced (argument position).name)) :
    StandsFor analyzed step position value
  | size {array : Position analyzed.command} (scaled : Bool)
    (counts : analyzed.roles.counts.lookup position = some array) :
    StandsFor analyzed step position (.size (reduced (argument array).name) scaled)
  | null (asked : step = .query) (output_eq : analyzed.roles.output = some position) :
    StandsFor analyzed step position .null

theorem standsFor_countValue {step : Step} {count array : Position analyzed.command}
    (hcounts : analyzed.roles.counts.lookup count = some array) :
    StandsFor analyzed step count (countValue analyzed count array) := by
  unfold countValue
  split
  · exact .own rfl
  · exact .size _ hcounts

theorem isContents_arrayValue (wrapped : NameSet) (step : Step)
    (position : Position analyzed.command)
    (count : Option (Position analyzed.command))
    (hasked : ¬ (analyzed.roles.output = some position ∧ analyzed.command.twoStep = true ∧
      step = .query)) :
    (arrayValue wrapped analyzed step position count).IsContents ∧
      (arrayValue wrapped analyzed step position count).operand? =
        some (reduced (argument position).name) := by
  unfold arrayValue
  dsimp only
  rw [if_neg (by simpa [and_assoc] using hasked)]
  split
  · exact ⟨trivial, rfl⟩
  · split
    · exact ⟨trivial, rfl⟩
    · split
      · split <;> exact ⟨trivial, rfl⟩
      · exact ⟨trivial, rfl⟩

theorem operand?_singleValue (wrapped : NameSet) (member : Member) :
    (if member.baseType ∈ wrapped then wrappedValue member else plainValue member).operand? =
      some (reduced member.name) := by
  unfold wrappedValue plainValue
  dsimp only
  split
  · split
    · rfl
    · split <;> rfl
  · split
    · rfl
    · split
      · split <;> rfl
      · split <;> rfl

theorem standsFor_enhancedValue (wrapped : NameSet) (step : Step)
    (position : Position analyzed.command) :
    StandsFor analyzed step position (enhancedValue wrapped analyzed step position) := by
  unfold enhancedValue
  cases hcounts : analyzed.roles.counts.lookup position with
  | some array => exact standsFor_countValue hcounts
  | none =>
    cases analyzed.roles.arrays.lookup position with
    | some count =>
      by_cases hasked : analyzed.roles.output = some position ∧ analyzed.command.twoStep = true ∧
          step = .query
      · obtain ⟨houtput, htwoStep, hquery⟩ := hasked
        have hnull : arrayValue wrapped analyzed step position count = .null := by
          unfold arrayValue
          simp [houtput, htwoStep, hquery]
        dsimp only
        rw [hnull]
        exact .null hquery houtput
      · exact .own (isContents_arrayValue wrapped step position count hasked).2
    | none => exact .own (operand?_singleValue wrapped (argument position))

theorem hasShape_enhancedCall (wrapped : NameSet)
    (howned : analyzed.command.isMethod = true → analyzed.command.WellOwned) (step : Step) :
    HasShape analyzed.name analyzed.command (StandsFor analyzed step)
      (enhancedCall wrapped analyzed step) :=
  hasShape_of_values howned _ rfl rfl (standsFor_enhancedValue wrapped step)

/-! ## The two calls -/

/-- The output of a command that is called twice is an array, and the calls have a place for
it. -/
structure AskedFor (analyzed : Analyzed) (output : Position analyzed.command) : Prop where
  twoStep : analyzed.command.twoStep = true
  output_eq : analyzed.roles.output = some output
  array : isArray analyzed.roles.arrays output = true
  not_count : analyzed.roles.counts.lookup output = none
  not_handle : analyzed.command.isMethod = true → output.val ≠ 0

/-- The first of two calls passes a null pointer at one place where the second one passes
something that is written differently, and all other values are the same. -/
structure DifferAt (query fill : NativeCall) (index : Nat) : Prop where
  null : query.values[index]? = some .null
  other : ∃ value, fill.values[index]? = some value ∧ PassedValue.null.text ≠ value.text
  same : ∀ other, other ≠ index → query.values[other]? = fill.values[other]?

/-- What a parameter passes only depends on the call if it is asked for. -/
theorem enhancedValue_eq_of_not (wrapped : NameSet) {position : Position analyzed.command}
    (hposition : analyzed.command.isMethod = true → position.val ≠ 0)
    (h : ¬ AskedFor analyzed position) :
    enhancedValue wrapped analyzed .query position =
      enhancedValue wrapped analyzed .fill position := by
  unfold enhancedValue
  cases hcounts : analyzed.roles.counts.lookup position with
  | some array => rfl
  | none =>
    cases hlookup : analyzed.roles.arrays.lookup position with
    | some count =>
      have harray : isArray analyzed.roles.arrays position = true := by
        rw [isArray, hlookup]
        rfl
      have hnot : ¬ (analyzed.roles.output = some position ∧ analyzed.command.twoStep = true) :=
        fun ⟨houtput, htwoStep⟩ => h ⟨htwoStep, houtput, harray, hcounts, hposition⟩
      unfold arrayValue
      simp [hnot]
    | none => rfl

theorem enhancedCall_eq_of_not (wrapped : NameSet)
    (h : ¬ ∃ output : Position analyzed.command, AskedFor analyzed output) :
    enhancedCall wrapped analyzed .query = enhancedCall wrapped analyzed .fill := by
  have hvalues : (ownPositions analyzed.command).map (enhancedValue wrapped analyzed .query) =
      (ownPositions analyzed.command).map (enhancedValue wrapped analyzed .fill) :=
    List.map_congr_left fun position hposition =>
      enhancedValue_eq_of_not wrapped (mem_ownPositions.1 hposition)
        fun hasked => h ⟨position, hasked⟩
  unfold enhancedCall
  rw [hvalues]

theorem differAt_of_askedFor (wrapped : NameSet) (h : AskedFor analyzed output) :
    DifferAt (enhancedCall wrapped analyzed .query) (enhancedCall wrapped analyzed .fill)
      output.val := by
  obtain ⟨count, hlookup⟩ := Option.isSome_iff_exists.1 h.array
  have hvalue : ∀ step, enhancedValue wrapped analyzed step output =
      arrayValue wrapped analyzed step output count := by
    intro step
    unfold enhancedValue
    rw [h.not_count, hlookup]
  refine ⟨?_, ⟨_, value_of_enhancedCall wrapped .fill h.not_handle, ?_⟩,
    fun other hother => values_eq_of_ne h.output_eq hother⟩
  · rw [value_of_enhancedCall wrapped .query h.not_handle, hvalue]
    unfold arrayValue
    simp [h.output_eq, h.twoStep]
  · rw [hvalue]
    exact (isContents_arrayValue wrapped .fill output count (by simp)).1.text_ne

theorem DifferAt.text_ne {query fill : NativeCall} {index : Nat} (h : DifferAt query fill index)
    (hfunction : query.function = fill.function) : query.text ≠ fill.text := by
  obtain ⟨value, hvalue, hne⟩ := h.other
  obtain ⟨hindex, hvalue⟩ := List.getElem?_eq_some_iff.1 hvalue
  have hquery : query = { fill with values := fill.values.set index .null } := by
    have hvalues : query.values = fill.values.set index .null := by
      refine List.ext_getElem? fun other => ?_
      rw [List.getElem?_set]
      by_cases heq : index = other
      · subst heq
        rw [if_pos rfl, if_pos hindex, h.null]
      · rw [if_neg heq, h.same other (Ne.symm heq)]
    rw [← hvalues, ← hfunction]
  have hfill : fill = { fill with values := fill.values.set index value } := by
    rw [← hvalue, List.set_getElem_self]
  rw [hquery, hfill, List.set_set]
  exact fun heq => hne ((text_set_inj hindex).1 heq)

end Enhanced

/-! ## Both overloads -/

/-- The standard overload makes its call and nothing else. -/
theorem exists_standardStatement (wrapped : NameSet) (name : String) (command : Command) :
    ∃ front back, standardStatement wrapped name command =
      front ++ (standardCall wrapped name command).text ++ back := by
  unfold standardStatement
  dsimp only
  split
  · exact ⟨"", ";", by rw [String.empty_append]; rfl⟩
  · split
    · exact ⟨s!"return static_cast<{command.returnType}>( ", " );", rfl⟩
    · exact ⟨"return ", ";", rfl⟩

/-- Both overloads of a command call the same native command, with one value for each of its
parameters in their order and the handle of a method first.  The two calls that the enhanced
overload has are written alike, unless the command is asked for an array first that has a place
in them: then they differ at this place only, where the first one passes a null pointer. -/
theorem overloads_call_alike (wrapped : NameSet) (analyzed : Analyzed)
    (howned : analyzed.command.isMethod = true → analyzed.command.WellOwned) :
    (∃ front back, standardStatement wrapped analyzed.name analyzed.command =
      front ++ (standardCall wrapped analyzed.name analyzed.command).text ++ back) ∧
    HasShape analyzed.name analyzed.command
      (fun position value => value.operand? = some (argument position).name)
      (standardCall wrapped analyzed.name analyzed.command) ∧
    (∀ step, HasShape analyzed.name analyzed.command (StandsFor analyzed step)
      (enhancedCall wrapped analyzed step)) ∧
    ((enhancedCall wrapped analyzed .query).text = (enhancedCall wrapped analyzed .fill).text ↔
      ¬ ∃ output : Position analyzed.command, AskedFor analyzed output) ∧
    ∀ output : Position analyzed.command, AskedFor analyzed output →
      DifferAt (enhancedCall wrapped analyzed .query) (enhancedCall wrapped analyzed .fill)
        output.val := by
  refine ⟨exists_standardStatement wrapped analyzed.name analyzed.command,
    hasShape_standardCall wrapped analyzed.name howned, hasShape_enhancedCall wrapped howned, ?_,
    fun output => differAt_of_askedFor wrapped⟩
  constructor
  · rintro htext ⟨output, hasked⟩
    exact (differAt_of_askedFor wrapped hasked).text_ne rfl htext
  · intro hnone
    rw [enhancedCall_eq_of_not wrapped hnone]

/-- A method that lists the layers of a device which may have a given name. -/
def sampleLookup : Command where
  returnType := Registry.voidType
  arguments :=
    [⟨"Device", "device", "Device", "", "", false⟩,
     ⟨"const char*", "pName", "char", "", "null-terminated", true⟩,
     ⟨"uint32_t*", "pCount", "uint32_t", "", "", false⟩,
     ⟨"Layer*", "pLayers", "Layer", "", "pCount", false⟩]
  successCodes := []
  guard := ""
  owner := some "Device"
  twoStep := true

/-- All calls of the sample have four values, and the two of the enhanced overload differ at the
last one. -/
theorem lookup_calls_alike :
    ∃ analyzed, Analysis.analyze "getDeviceLayers" sampleLookup = .ok analyzed ∧
      (standardCall ∅ analyzed.name analyzed.command).text =
        "vkGetDeviceLayers( m_device, pName, pCount, pLayers )" ∧
      (enhancedCall ∅ analyzed .fill).text =
        "vkGetDeviceLayers( m_device, name ? name->c_str() : nullptr, &count, layers.data() )" ∧
      (∀ step, (enhancedCall ∅ analyzed step).values.length = 4) ∧
      DifferAt (enhancedCall ∅ analyzed .query) (enhancedCall ∅ analyzed .fill) 3 := by
  have hsample : (Analysis.rolesOf "getDeviceLayers" sampleLookup).toOption.any (fun roles =>
      decide ((standardCall ∅ "getDeviceLayers" sampleLookup).text =
        "vkGetDeviceLayers( m_device, pName, pCount, pLayers )" ∧
      (enhancedCall ∅ ⟨"getDeviceLayers", sampleLookup, roles⟩ .fill).text =
        "vkGetDeviceLayers( m_device, name ? name->c_str() : nullptr, &count, layers.data() )" ∧
      roles.output = some ⟨3, by decide⟩ ∧ isArray roles.arrays ⟨3, by decide⟩ = true ∧
      roles.counts.lookup ⟨3, by decide⟩ = none)) = true := by
    decide +kernel
  obtain ⟨roles, hroles, hsample⟩ := exists_of_any hsample
  obtain ⟨hstandard, hfill, houtput, harray, hcount⟩ := of_decide_eq_true hsample
  obtain ⟨-, -, hshape, -, hdiffer⟩ := overloads_call_alike ∅
    ⟨"getDeviceLayers", sampleLookup, roles⟩ fun _ => ⟨_, _, rfl, by
      rintro handle hhandle
      exact (Option.some.inj hhandle).symm⟩
  exact ⟨_, Analysis.analyze_eq_ok_iff.2 ⟨roles, hroles, rfl⟩, hstandard, hfill,
    fun step => (hshape step).length_eq,
    hdiffer _ ⟨rfl, houtput, harray, hcount, fun _ => Nat.succ_ne_zero 2⟩⟩

end VulkanBindings.Wrapper
