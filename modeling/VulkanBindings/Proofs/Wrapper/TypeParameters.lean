import VulkanBindings.Proofs.Wrapper.Answers
import VulkanBindings.Proofs.Wrapper.Passing
import VulkanBindings.Proofs.Wrapper.TwoCalls

/-!
# Type parameters are declared

An enhanced overload can depend on two types that its caller chooses: the element type of a
buffer, and the allocator of a vector that is returned.  Both have to be declared in front of
the signature, in a line of their own.

`UsesElement` and `UsesAllocator` say where signature and body make use of them.  The element
type is declared wherever it is used.  The line of the signature declares one type only, and
the element type goes first, so that the allocator is left out where a vector is returned
beside a buffer (`ReturnsBesideBuffer`).  `type_parameters_declared_iff` says that this is the
only way to miss it for types that are written as those of native commands are, and for all
others what the ways are (`LacksAllocator`).
-/

namespace VulkanBindings.Wrapper

open Analysis (Analyzed Position argument isArray)
open Naming (reduced)
open Registry (Command Member Spec resultEnum voidType)

/-! ## Uses of type parameters -/

/-- The form says no more than the type of the native parameter. -/
def ParameterForm.OfType (member : Member) : ParameterForm → Prop
  | .text | .optionalText => True
  | .array element => element = target member.type
  | .value type arraySize => type = member.type ∧ arraySize = member.arraySize
  | .reference pointed | .optionalReference pointed => pointed = target member.type

/-- The type that a declared type is made of. -/
def DeclaredType.value : DeclaredType → String
  | .unlessFailed value | .withResult value | .plain value => value

/-- What is written with the element type that the caller chooses. -/
inductive UsesElement (analyzed : Analyzed) (signature : Signature) (body : List Statement) : Prop
  /-- A parameter that is declared with another type than its own. -/
  | parameter {index : Nat} {position : Position analyzed.command} {parameter : Parameter}
    (kept : (keptPositions analyzed)[index]? = some position)
    (declared : signature.parameters[index]? = some parameter)
    (other : ¬ parameter.form.OfType (argument position))
  /-- A size that is given in bytes. -/
  | size {call : NativeCall} {array : String} (made : call ∈ Statement.callsOfAll body)
    (scaled : .size array true ∈ call.values)
  /-- The check of the size of an element. -/
  | check {type : String} (made : .checkElement type ∈ Statement.flattenAll body)

/-- What is declared as a vector with the allocator that the caller chooses. -/
inductive UsesAllocator (signature : Signature) (body : List Statement) (element : String) : Prop
  /-- The overload itself. -/
  | returned (declared : signature.declared.value = vectorOf element)
  /-- A local. -/
  | kept {name : String} {length : Option LengthExpression}
    (made : .declare (vectorOf element) name length ∈ Statement.flattenAll body)

/-- A vector is returned, and there is a buffer besides. -/
def ReturnsBesideBuffer (analyzed : Analyzed) : Prop :=
  ∃ output buffer, analyzed.roles.output = some output ∧ analyzed.roles.buffer = some buffer ∧
    output ≠ buffer ∧ isArray analyzed.roles.arrays output = true ∧
    collapses analyzed.command = true

/-- The types of a command are written without commas, as all types of native commands are.  A
comma ends the element of a vector. -/
def WithoutCommas (command : Command) : Prop :=
  ',' ∉ command.returnType.toList ∧
    ∀ member ∈ command.arguments, ',' ∉ member.type.toList ∧ ',' ∉ member.baseType.toList

instance decidableWithoutCommas (command : Command) : Decidable (WithoutCommas command) :=
  inferInstanceAs (Decidable (_ ∧ _))

theorem WithoutCommas.of_argument {command : Command} (h : WithoutCommas command)
    (position : Position command) :
    ',' ∉ (argument position).type.toList ∧ ',' ∉ (argument position).baseType.toList :=
  h.2 _ (List.getElem_mem position.isLt)

/-- What is written as a vector with an allocator, in terms of the command. -/
inductive NamesVector (analyzed : Analyzed) (element : String) : Prop
  /-- The type that the overload is declared with. -/
  | declared (value : (declaredOf analyzed).value = vectorOf element)
  /-- The type of the local that the native command fills. -/
  | output {locals : List Statement} {name : String} {length : Option LengthExpression}
    (declares : outputDeclaration analyzed = .ok locals)
    (made : .declare (vectorOf element) name length ∈ locals)
  /-- The type of a count that is asked for first. -/
  | count {count : Position analyzed.command} (twoStep : analyzed.command.twoStep = true)
    (queried : queriedCount analyzed = .ok count)
    (type : (argument count).baseType = vectorOf element)

/-- The allocator is declared for elements of a type: those that the returned type names before
its first comma, where no other element type is declared. -/
structure GivesAllocator (analyzed : Analyzed) (element : String) : Prop where
  noElement : declaresElement analyzed = false
  mentioned : Text.occurs "Allocator" (returnType analyzed) = true
  first : allocatedElement (returnType analyzed) = .ok element

/-- A vector is named for which the allocator is not declared. -/
def LacksAllocator (analyzed : Analyzed) : Prop :=
  ∃ element, NamesVector analyzed element ∧ ¬ GivesAllocator analyzed element

section Uses

variable {spec : Spec} {wrapped : NameSet} {functionName caller element : String}
  {analyzed : Analyzed} {position : Position analyzed.command} {signature : Signature}
  {body : List Statement}

/-! ## The element type -/

/-- A buffer that is no output has elements of any type. -/
theorem declaresElement_of_ne (hbuffer : analyzed.roles.buffer = some position)
    (houtput : analyzed.roles.output ≠ some position) : declaresElement analyzed = true := by
  unfold declaresElement
  rw [hbuffer]
  simp [houtput]

/-- Only a buffer is taken with another type than its own. -/
theorem ofType_parameterAt {parameter : Parameter}
    (h : parameterAt spec analyzed position = .ok parameter)
    (hbuffer : analyzed.roles.buffer ≠ some position) :
    parameter.form.OfType (argument position) := by
  unfold parameterAt at h
  dsimp only at h
  split at h
  · obtain rfl := Except.ok.inj h
    unfold arrayParameter
    simp only [hbuffer, decide_false, Bool.false_eq_true, if_false]
    split
    · split <;> trivial
    · exact rfl
  · split at h
    · obtain rfl := Except.ok.inj h
      unfold pointerParameter
      dsimp only
      split
      · split <;> trivial
      · split <;> exact rfl
    · obtain ⟨default, rfl⟩ := valueParameter_eq_ok h
      exact ⟨rfl, rfl⟩

theorem declaresElement_of_parameter {index : Nat} {parameter : Parameter}
    (hsignature : signatureOf spec analyzed functionName = .ok signature)
    (hkept : (keptPositions analyzed)[index]? = some position)
    (hdeclared : signature.parameters[index]? = some parameter)
    (hother : ¬ parameter.form.OfType (argument position)) : declaresElement analyzed = true := by
  obtain ⟨parameters, hparameters, -, hsettled⟩ := signatureOf_eq_ok hsignature
  have hforms : List.Forall₂ (fun position parameter => analyzed.roles.buffer ≠ some position →
      parameter.form.OfType (argument position)) (keptPositions analyzed) signature.parameters := by
    rw [hsettled]
    exact forall₂_settleDefaults (fun _ _ _ hform => hform)
      ((forall₂_of_mapM hparameters).imp fun _ _ hparameter => ofType_parameterAt hparameter)
  obtain ⟨hlt, rfl⟩ := List.getElem?_eq_some_iff.1 hkept
  obtain ⟨hlt', rfl⟩ := List.getElem?_eq_some_iff.1 hdeclared
  have hbuffer : analyzed.roles.buffer = some (keptPositions analyzed)[index] := by
    by_contra hbuffer
    exact hother (hforms.get hlt hlt' hbuffer)
  have houtput := (Bool.and_eq_true_iff.1 (List.mem_filter.1 (List.getElem_mem hlt)).2).2
  exact declaresElement_of_ne hbuffer (bne_iff_ne.1 houtput)

/-- Sizes are given in bytes if the elements may have any type. -/
theorem declaresElement_of_size {step : Step} {array : String}
    (h : .size array true ∈ (enhancedCall wrapped analyzed step).values) :
    declaresElement analyzed = true := by
  rcases List.mem_append.1 h with hhandle | hvalue
  · obtain ⟨handle, -, hhandle⟩ := List.mem_map.1 hhandle
    cases hhandle
  · obtain ⟨position, -, hvalue⟩ := List.mem_map.1 hvalue
    unfold enhancedValue at hvalue
    split at hvalue
    · unfold countValue at hvalue
      split at hvalue
      · cases hvalue
      · have hscaled := (PassedValue.size.inj hvalue).2
        exact (Bool.and_eq_true_iff.1 hscaled).2
    -- Arrays and single values are passed as something else than a size.
    · unfold arrayValue at hvalue
      grind
    · unfold wrappedValue plainValue at hvalue
      grind

theorem elementChecks_eq (hdeclares : declaresElement analyzed = true)
    (hbuffer : analyzed.roles.buffer = some position)
    (htype : (argument position).baseType ≠ voidType) :
    elementChecks analyzed = [.checkElement (argument position).baseType] := by
  unfold elementChecks
  simp [hbuffer, hdeclares, htype]

theorem declaresElement_of_check {type : String} (h : .checkElement type ∈ elementChecks analyzed) :
    declaresElement analyzed = true := by
  unfold elementChecks at h
  split at h
  · dsimp only at h
    split at h
    · rename_i hdeclares
      exact (Bool.and_eq_true_iff.1 hdeclares).1
    · cases h
  · cases h

/-! ## Statements that name a type -/

/-- Whether a statement is written with a type that is not the same everywhere. -/
def Statement.namesType : Statement → Bool
  | checkElement _ | declare _ _ _ => true
  | _ => false

theorem filter_elementChecks :
    (elementChecks analyzed).filter Statement.namesType = elementChecks analyzed := by
  unfold elementChecks
  split
  · dsimp only
    split <;> rfl
  · rfl

theorem filter_lengthChecks
    (inputs : List (Position analyzed.command × Position analyzed.command)) :
    (lengthChecks analyzed caller inputs).filter Statement.namesType = [] := by
  induction inputs with
  | nil => rfl
  | cons input inputs ih =>
    rw [lengthChecks, List.filter_append, ih, List.append_nil, List.filter_eq_nil_iff]
    intro statement hmem
    obtain ⟨other, -, rfl⟩ := List.mem_map.1 hmem
    exact Bool.false_ne_true

theorem filter_outputDeclaration {output : List Statement}
    (h : outputDeclaration analyzed = .ok output) : output.filter Statement.namesType = output := by
  rcases outputDeclaration_eq_ok h with rfl | ⟨type, name, length, rfl⟩ <;> rfl

theorem filter_singleCall :
    (Statement.flattenAll (singleCall wrapped analyzed)).filter Statement.namesType = [] := by
  unfold singleCall
  dsimp only
  split
  · rfl
  · split <;> rfl

theorem filter_twoCalls (count : String) :
    (Statement.flattenAll (twoCalls wrapped analyzed count)).filter Statement.namesType = [] := by
  unfold twoCalls
  dsimp only
  split
  · split <;> rfl
  · split <;> rfl

theorem filter_returnStatements :
    (returnStatements analyzed caller).filter Statement.namesType = [] := by
  unfold returnStatements
  split
  · rfl
  · split <;> rfl

/-- What the body of a command that is called twice declares for the count. -/
def IsCountLocal (analyzed : Analyzed) (statement : Statement) : Prop :=
  ∃ count : Position analyzed.command, analyzed.command.twoStep = true ∧
    queriedCount analyzed = .ok count ∧
    statement = .declare (argument count).baseType (reduced (argument count).name) none

/-- A body names types in the checks of elements and where it declares the output and the count
of a command that is called twice. -/
theorem exists_filter_bodyOf (h : bodyOf wrapped analyzed caller = .ok body) :
    ∃ output counts, outputDeclaration analyzed = .ok output ∧
      (Statement.flattenAll body).filter Statement.namesType =
        elementChecks analyzed ++ output ++ counts ∧
      ∀ statement, statement ∈ counts ↔ IsCountLocal analyzed statement := by
  have hfilter {output calls : List Statement} (houtput : outputDeclaration analyzed = .ok output) :
      (Statement.flattenAll (elementChecks analyzed ++
        lengthChecks analyzed caller (countedInputs analyzed) ++ output ++ calls ++
        returnStatements analyzed caller)).filter Statement.namesType =
      elementChecks analyzed ++ output ++
        (Statement.flattenAll calls).filter Statement.namesType := by
    rw [Statement.flattenAll_append, Statement.flattenAll_append,
      Statement.flattenAll_of_isQuiet (isQuiet_preparation houtput),
      Statement.flattenAll_of_isQuiet isQuiet_returnStatements, List.filter_append,
      List.filter_append, List.filter_append, List.filter_append, filter_elementChecks,
      filter_lengthChecks, filter_outputDeclaration houtput, filter_returnStatements,
      List.append_nil, List.append_nil]
  cases htwoStep : analyzed.command.twoStep with
  | false =>
    obtain ⟨output, houtput, rfl⟩ := bodyOf_eq_ok wrapped htwoStep h
    refine ⟨output, _, houtput, hfilter houtput, fun statement => ?_⟩
    simp [filter_singleCall, IsCountLocal, htwoStep]
  | true =>
    obtain ⟨output, count, houtput, hcount, rfl⟩ := bodyOf_eq_ok_of_twoStep htwoStep h
    refine ⟨output, _, houtput, hfilter houtput, fun statement => ?_⟩
    rw [Statement.flattenAll, List.filter_append, filter_twoCalls, List.append_nil]
    simp only [IsCountLocal, htwoStep, hcount, Except.ok.injEq, true_and, exists_eq_left']
    exact List.mem_singleton

/-- Elements are checked where a body begins. -/
theorem checkElement_mem_iff {type : String} (hbody : bodyOf wrapped analyzed caller = .ok body) :
    .checkElement type ∈ Statement.flattenAll body ↔
      .checkElement type ∈ elementChecks analyzed := by
  obtain ⟨output, counts, houtput, hparts, hcounts⟩ := exists_filter_bodyOf hbody
  have hnamed : .checkElement type ∈ Statement.flattenAll body ↔
      .checkElement type ∈ elementChecks analyzed ++ output ++ counts := by
    rw [← hparts, List.mem_filter]
    exact (and_iff_left rfl).symm
  have houtput : .checkElement type ∉ output := by
    rcases outputDeclaration_eq_ok houtput with rfl | ⟨_, _, _, rfl⟩ <;> simp
  have hcounts : .checkElement type ∉ counts := by
    rw [hcounts]
    rintro ⟨count, -, -, hcount⟩
    cases hcount
  rw [hnamed, List.mem_append, List.mem_append, or_iff_left hcounts, or_iff_left houtput]

/-- A body declares the output and the count of a command that is called twice. -/
theorem declare_mem_iff {type label : String} {length : Option LengthExpression}
    (hbody : bodyOf wrapped analyzed caller = .ok body) :
    .declare type label length ∈ Statement.flattenAll body ↔
      (∃ output, outputDeclaration analyzed = .ok output ∧ .declare type label length ∈ output) ∨
        IsCountLocal analyzed (.declare type label length) := by
  obtain ⟨output, counts, houtput, hparts, hcounts⟩ := exists_filter_bodyOf hbody
  have hnamed : .declare type label length ∈ Statement.flattenAll body ↔
      .declare type label length ∈ elementChecks analyzed ++ output ++ counts := by
    rw [← hparts, List.mem_filter]
    exact (and_iff_left rfl).symm
  have hchecks : .declare type label length ∉ elementChecks analyzed :=
    fun hcheck => Bool.noConfusion (isCheck_elementChecks _ hcheck)
  rw [hnamed, List.mem_append, List.mem_append, or_iff_right hchecks, hcounts]
  simp only [houtput, Except.ok.injEq, exists_eq_left']

/-! ## The allocator -/

theorem vectorOf_eq (element : String) :
    vectorOf element = vectorStart ++ element ++ String.singleton ',' ++ "Allocator>" := by
  have hending : ",Allocator>" = String.singleton ',' ++ "Allocator>" := by decide
  rw [String.append_assoc, ← hending]
  rfl

theorem vectorOf_injective {element other : String} (h : vectorOf element = vectorOf other) :
    element = other := by
  unfold vectorOf at h
  exact (String.append_right_inj _).1 ((String.append_left_inj _).1 h)

theorem comma_mem_vectorOf (element : String) : ',' ∈ (vectorOf element).toList := by
  rw [vectorOf_eq]
  simp

theorem occurs_vectorOf (element : String) : Text.occurs "Allocator" (vectorOf element) = true := by
  rw [Text.occurs_iff, vectorOf_eq, String.toList_append]
  exact ⟨_, ">".toList, List.append_assoc _ _ _⟩

/-- The element of a vector is what stands before the first comma. -/
theorem allocatedElement_vectorOf (hcomma : ',' ∉ element.toList) :
    allocatedElement (vectorOf element) = .ok element := by
  have hcut : Text.cut? (String.singleton ',') (vectorOf element) =
      some (vectorStart ++ element, "Allocator>") := by
    refine Text.cut?_singleton_eq_some.2 ⟨vectorOf_eq element, ?_⟩
    rw [String.toList_append, List.mem_append]
    exact not_or.2 ⟨by decide, hcomma⟩
  have hmarker : "," = String.singleton ',' := by decide
  unfold allocatedElement
  rw [hmarker, hcut]
  dsimp only
  rw [String.toList_append, List.drop_left' String.length_toList, String.ofList_toList]

theorem comma_notMem_elementOf {type : String} (h : ',' ∉ type.toList) :
    ',' ∉ (elementOf type).toList := by
  unfold elementOf
  split
  · decide
  · exact h

theorem comma_notMem_pointedTo {type : String} (h : ',' ∉ type.toList) :
    ',' ∉ (pointedTo type).toList := by
  unfold pointedTo
  split
  · rw [String.toList_ofList]
    exact fun hmem => h (List.mem_of_mem_dropLast hmem)
  · exact h

theorem comma_notMem_plain {command : Command} (h : WithoutCommas command) :
    ',' ∉ (returnType.plain command).toList := by
  unfold returnType.plain
  split
  · decide
  · exact h.1

/-- Only arrays are returned as vectors. -/
theorem returnType_eq_vectorOf_iff (hcommas : WithoutCommas analyzed.command) :
    returnType analyzed = vectorOf element ↔ ∃ output, analyzed.roles.output = some output ∧
      isArray analyzed.roles.arrays output = true ∧ collapses analyzed.command = true ∧
      element = elementOf (argument output).baseType := by
  have hother : ∀ {type : String}, ',' ∉ type.toList → type ≠ vectorOf element := by
    rintro type hnone rfl
    exact hnone (comma_mem_vectorOf element)
  have hplain := hother (comma_notMem_plain hcommas)
  cases houtput : analyzed.roles.output with
  | none =>
    rw [returnType_of_none houtput]
    simp [hplain]
  | some output =>
    have htype := hother (comma_notMem_pointedTo (hcommas.of_argument output).1)
    rw [returnType_of_some houtput]
    simp only [Option.some.injEq, exists_eq_left']
    split
    · rename_i hcollapses
      split
      · rename_i harray
        simp only [harray, hcollapses, true_and]
        exact ⟨fun h => (vectorOf_injective h).symm, fun h => h ▸ rfl⟩
      · rename_i harray
        exact iff_of_false htype fun h => harray h.1
    · rename_i hcollapses
      simp [hplain, hcollapses]

/-- What the signature says that it returns is what the overload yields, or is written as a type
of the command. -/
theorem value_declaredOf (analyzed : Analyzed) :
    (declaredOf analyzed).value = returnType analyzed ∨
      ∃ position : Position analyzed.command,
        (declaredOf analyzed).value = (argument position).baseType := by
  unfold declaredOf
  split
  · exact .inl rfl
  · split
    · rename_i output _
      split
      · exact .inr ⟨output, rfl⟩
      · exact .inl rfl
    · exact .inl rfl

/-- The output is declared with the type that the overload yields, or with one of the command. -/
theorem type_of_mem_outputDeclaration {output : List Statement} {type label : String}
    {length : Option LengthExpression} (h : outputDeclaration analyzed = .ok output)
    (hmem : .declare type label length ∈ output) :
    type = returnType analyzed ∨
      ∃ position : Position analyzed.command, type = (argument position).baseType := by
  cases hposition : analyzed.roles.output with
  | none =>
    unfold outputDeclaration at h
    simp only [hposition] at h
    obtain rfl := Except.ok.inj h
    cases hmem
  | some position =>
    by_cases hreturns : returnsOutput analyzed = true
    · obtain ⟨length, rfl⟩ := outputDeclaration_of_returnsOutput hposition hreturns h
      exact .inl (Statement.declare.inj (List.mem_singleton.1 hmem)).1
    · by_cases hcodes : 1 < analyzed.command.successCodes.length
      · obtain rfl := outputDeclaration_of_codes hposition (eq_false_of_ne_true hreturns) hcodes h
        exact .inr ⟨position, (Statement.declare.inj (List.mem_singleton.1 hmem)).1⟩
      · unfold outputDeclaration at h
        simp only [hposition, hreturns, hcodes, if_false] at h
        obtain rfl := Except.ok.inj h
        cases hmem

/-- Signature and body name the vectors that the command makes them name. -/
theorem usesAllocator_iff_namesVector
    (hsignature : signatureOf spec analyzed functionName = .ok signature)
    (hbody : bodyOf wrapped analyzed caller = .ok body) :
    UsesAllocator signature body element ↔ NamesVector analyzed element := by
  obtain ⟨parameters, -, hdeclared, -⟩ := signatureOf_eq_ok hsignature
  constructor
  · rintro (hvalue | hmade)
    · exact .declared (hdeclared ▸ hvalue)
    · rcases (declare_mem_iff hbody).1 hmade with ⟨output, houtput, hlocal⟩ | hcount
      · exact .output houtput hlocal
      · obtain ⟨count, htwoStep, hqueried, hstatement⟩ := hcount
        exact .count htwoStep hqueried (Statement.declare.inj hstatement).1.symm
  · rintro (hvalue | ⟨houtput, hlocal⟩ | ⟨htwoStep, hqueried, htype⟩)
    · exact .returned (hdeclared ▸ hvalue)
    · exact .kept ((declare_mem_iff hbody).2 (.inl ⟨_, houtput, hlocal⟩))
    · exact .kept ((declare_mem_iff hbody).2 (.inr ⟨_, htwoStep, hqueried, by rw [htype]⟩))

/-- Signature and body make use of an allocator just if a vector is returned. -/
theorem usesAllocator_iff (hcommas : WithoutCommas analyzed.command)
    (hsignature : signatureOf spec analyzed functionName = .ok signature)
    (hbody : bodyOf wrapped analyzed caller = .ok body) :
    UsesAllocator signature body element ↔ returnType analyzed = vectorOf element := by
  have hother : ∀ position : Position analyzed.command,
      vectorOf element ≠ (argument position).baseType := by
    intro position heq
    exact (hcommas.of_argument position).2 (heq ▸ comma_mem_vectorOf element)
  obtain ⟨parameters, -, hdeclared, -⟩ := signatureOf_eq_ok hsignature
  constructor
  · rintro (hvalue | hmade)
    · rw [hdeclared] at hvalue
      rcases value_declaredOf analyzed with htype | ⟨position, htype⟩
      · exact htype.symm.trans hvalue
      · exact absurd (hvalue.symm.trans htype) (hother position)
    · rcases (declare_mem_iff hbody).1 hmade with ⟨output, houtput, hlocal⟩ | hcount
      · rcases type_of_mem_outputDeclaration houtput hlocal with htype | ⟨position, htype⟩
        · exact htype.symm
        · exact absurd htype (hother position)
      · obtain ⟨count, -, -, hstatement⟩ := hcount
        exact absurd (Statement.declare.inj hstatement).1 (hother count)
  · intro htype
    obtain ⟨position, hposition, harray, hcollapses, -⟩ :=
      (returnType_eq_vectorOf_iff hcommas).1 htype
    have hreturns := returnsOutput_of_array hposition harray hcollapses
    obtain ⟨output, calls, houtput, -, rfl⟩ := exists_bodyParts hbody
    obtain ⟨length, rfl⟩ := outputDeclaration_of_returnsOutput hposition hreturns houtput
    have hlocal : Statement.declare (vectorOf element) (reduced (argument position).name) length ∈
        Statement.flattenAll (elementChecks analyzed ++
          lengthChecks analyzed caller (countedInputs analyzed) ++
          [.declare (returnType analyzed) (reduced (argument position).name) length] ++ calls ++
          returnStatements analyzed caller) := by
      rw [← htype, Statement.flattenAll_append, Statement.flattenAll_append,
        Statement.flattenAll_of_isQuiet (isQuiet_preparation houtput)]
      simp
    exact .kept hlocal

/-! ## Whole overloads -/

theorem template_eq (hsignature : signatureOf spec analyzed functionName = .ok signature) :
    templateOf analyzed = .ok signature.template := by
  unfold signatureOf at hsignature
  obtain ⟨template, htemplate, hsignature⟩ := bind_eq_ok_iff.1 hsignature
  obtain ⟨parameters, -, hsignature⟩ := bind_eq_ok_iff.1 hsignature
  obtain rfl := Except.ok.inj hsignature
  exact mapError_eq_ok_iff.1 htemplate

theorem template_of_declaresElement (hdeclares : declaresElement analyzed = true)
    (hsignature : signatureOf spec analyzed functionName = .ok signature) :
    signature.template = some .element := by
  have htemplate := template_eq hsignature
  unfold templateOf at htemplate
  rw [if_pos hdeclares] at htemplate
  exact (Except.ok.inj htemplate).symm

/-- The signature declares an allocator for the elements that the returned type names. -/
theorem template_eq_allocator_iff
    (hsignature : signatureOf spec analyzed functionName = .ok signature) :
    signature.template = some (.allocator element) ↔ GivesAllocator analyzed element := by
  have hgives : GivesAllocator analyzed element ↔ declaresElement analyzed = false ∧
      Text.occurs "Allocator" (returnType analyzed) = true ∧
        allocatedElement (returnType analyzed) = .ok element :=
    ⟨fun ⟨hdeclares, hmentioned, hfirst⟩ => ⟨hdeclares, hmentioned, hfirst⟩,
      fun ⟨hdeclares, hmentioned, hfirst⟩ => ⟨hdeclares, hmentioned, hfirst⟩⟩
  have htemplate := template_eq hsignature
  rw [hgives]
  unfold templateOf at htemplate
  split at htemplate
  · rename_i hdeclares
    obtain htemplate := Except.ok.inj htemplate
    simp [← htemplate, hdeclares]
  · rename_i hdeclares
    split at htemplate
    · rename_i hmentioned
      cases hfirst : allocatedElement (returnType analyzed) with
      | error fault =>
        rw [hfirst] at htemplate
        cases htemplate
      | ok other =>
        rw [hfirst] at htemplate
        obtain htemplate := Except.ok.inj htemplate
        simp [← htemplate, hdeclares, hmentioned]
    · rename_i hmentioned
      obtain htemplate := Except.ok.inj htemplate
      simp [← htemplate, hmentioned]

/-- Without a buffer, the allocator of a returned vector is declared. -/
theorem template_of_vector (hdeclares : declaresElement analyzed = false)
    (htype : returnType analyzed = vectorOf element) (hcomma : ',' ∉ element.toList)
    (hsignature : signatureOf spec analyzed functionName = .ok signature) :
    signature.template = some (.allocator element) := by
  have htemplate := template_eq hsignature
  unfold templateOf at htemplate
  rw [hdeclares, htype, occurs_vectorOf, allocatedElement_vectorOf hcomma] at htemplate
  exact (Except.ok.inj htemplate).symm

/-- The element type is declared wherever it is used. -/
theorem template_of_usesElement
    (hsignature : signatureOf spec analyzed functionName = .ok signature)
    (hbody : bodyOf wrapped analyzed caller = .ok body)
    (huses : UsesElement analyzed signature body) : signature.template = some .element := by
  refine template_of_declaresElement ?_ hsignature
  cases huses with
  | parameter hkept hdeclared hother =>
    exact declaresElement_of_parameter hsignature hkept hdeclared hother
  | size hmade hscaled =>
    obtain ⟨step, rfl⟩ := exists_step_of_mem_calls wrapped hbody hmade
    exact declaresElement_of_size hscaled
  | check hmade => exact declaresElement_of_check ((checkElement_mem_iff hbody).1 hmade)

/-- Where a vector is returned, a buffer besides is all that has its element type declared. -/
theorem declaresElement_iff_of_vector {output : Position analyzed.command}
    (houtput : analyzed.roles.output = some output)
    (htype : returnType analyzed = vectorOf element) :
    declaresElement analyzed = true ↔
      ∃ buffer, analyzed.roles.buffer = some buffer ∧ output ≠ buffer := by
  have hresult : (returnType analyzed == resultEnum) = false := by
    rw [htype]
    exact beq_eq_false_iff_ne.2 (vectorOf_ne element).1
  unfold declaresElement
  rw [hresult, houtput]
  cases analyzed.roles.buffer with
  | none => simp
  | some buffer => simp

end Uses

section Overload

variable {spec : Spec} {className functionName indent : String} {analyzed : Analyzed}
  {lines : List String}

/-- An enhanced overload declares the element type that its caller chooses wherever it makes use
of it.  It declares the allocator of every vector that it names unless its command lacks one.
Where types are written without commas, that is to return a vector and take a buffer besides. -/
theorem type_parameters_declared_iff
    (hlines : enhancedLines spec analyzed className functionName indent = .ok lines) :
    ∃ signature body,
      IsOverload spec analyzed className functionName indent lines signature body ∧
      (UsesElement analyzed signature body → signature.template = some .element) ∧
      ((∀ element, UsesAllocator signature body element →
          signature.template = some (.allocator element)) ↔ ¬ LacksAllocator analyzed) ∧
      (WithoutCommas analyzed.command →
        ((∀ element, UsesAllocator signature body element →
            signature.template = some (.allocator element)) ↔
          ¬ ReturnsBesideBuffer analyzed)) := by
  obtain ⟨signature, body, hoverload⟩ := exists_isOverload hlines
  obtain ⟨hsignature, hbody, -⟩ := id hoverload
  refine ⟨signature, body, hoverload, template_of_usesElement hsignature hbody, ?_,
    fun hcommas => ?_⟩
  · unfold LacksAllocator
    simp only [usesAllocator_iff_namesVector hsignature hbody, template_eq_allocator_iff hsignature,
      not_exists, not_and, not_not]
  simp only [usesAllocator_iff hcommas hsignature hbody]
  constructor
  · rintro hdeclared ⟨output, buffer, houtput, hbuffer, hne, harray, hcollapses⟩
    have htype := (returnType_eq_vectorOf_iff hcommas).2 ⟨output, houtput, harray, hcollapses, rfl⟩
    have hdeclares := (declaresElement_iff_of_vector houtput htype).2 ⟨buffer, hbuffer, hne⟩
    have htemplate := template_of_declaresElement hdeclares hsignature
    cases htemplate.symm.trans (hdeclared _ htype)
  · intro hbeside element htype
    obtain ⟨output, houtput, harray, hcollapses, helement⟩ :=
      (returnType_eq_vectorOf_iff hcommas).1 htype
    refine template_of_vector (eq_false_of_ne_true fun hdeclares => hbeside ?_) htype ?_ hsignature
    · obtain ⟨buffer, hbuffer, hne⟩ := (declaresElement_iff_of_vector houtput htype).1 hdeclares
      exact ⟨output, buffer, houtput, hbuffer, hne, harray, hcollapses⟩
    · rw [helement]
      exact comma_notMem_elementOf (hcommas.of_argument output).2

/-- A command that finds out what matches some keys, which are taken by the given name. -/
def sampleSearch (keys : String) : Command where
  returnType := voidType
  arguments :=
    [⟨"uint32_t", "keyCount", "uint32_t", "", "", false⟩,
     ⟨"const Key*", keys, "Key", "", "keyCount", false⟩,
     ⟨"uint32_t*", "pCount", "uint32_t", "", "", false⟩,
     ⟨"Match*", "pMatches", "Match", "", "pCount", false⟩]
  successCodes := []
  guard := ""
  owner := none
  twoStep := true

/-- Keys of one type only: the allocator of the matches is declared. -/
theorem search_allocator_declared :
    ∃ analyzed lines signature body,
      Analysis.analyze "findMatches" (sampleSearch "pKeys") = .ok analyzed ∧
      enhancedLines .initial analyzed "" "findMatches" "  " = .ok lines ∧
      IsOverload .initial analyzed "" "findMatches" "  " lines signature body ∧
      UsesAllocator signature body "Match" ∧ signature.template = some (.allocator "Match") := by
  have hsample : (Analysis.rolesOf "findMatches" (sampleSearch "pKeys")).toOption.any (fun roles =>
      (enhancedLines .initial ⟨"findMatches", _, roles⟩ "" "findMatches" "  ").toOption.any fun _ =>
        roles.buffer.isNone &&
          returnType ⟨"findMatches", _, roles⟩ == vectorOf "Match") = true := by
    decide +kernel
  obtain ⟨roles, lines, hanalyze, hlines, hreturns⟩ := exists_lines_of_any hsample
  obtain ⟨hbuffer, htype⟩ := Bool.and_eq_true_iff.1 hreturns
  obtain ⟨signature, body, hoverload, -, -, hallocators⟩ := type_parameters_declared_iff hlines
  have hcommas : WithoutCommas (sampleSearch "pKeys") := by decide +kernel
  have huses := (usesAllocator_iff hcommas hoverload.signature_eq hoverload.body_eq).2
    (beq_iff_eq.1 htype)
  refine ⟨_, lines, signature, body, hanalyze, hlines, hoverload, huses, ?_⟩
  refine (hallocators hcommas).2 ?_ "Match" huses
  rintro ⟨output, buffer, -, hsome, -⟩
  rw [Option.isNone_iff_eq_none.1 hbuffer] at hsome
  cases hsome

/-- With keys of any type, both that type and the allocator are made use of, and the type is all
that is declared. -/
theorem search_allocator_undeclared :
    ∃ analyzed lines signature body,
      Analysis.analyze "findMatches" (sampleSearch "pData") = .ok analyzed ∧
      enhancedLines .initial analyzed "" "findMatches" "  " = .ok lines ∧
      IsOverload .initial analyzed "" "findMatches" "  " lines signature body ∧
      UsesElement analyzed signature body ∧ UsesAllocator signature body "Match" ∧
      signature.template = some .element := by
  have hsample : (Analysis.rolesOf "findMatches" (sampleSearch "pData")).toOption.any (fun roles =>
      (enhancedLines .initial ⟨"findMatches", _, roles⟩ "" "findMatches" "  ").toOption.any fun _ =>
        decide (roles.buffer = some ⟨1, by decide⟩ ∧ roles.output = some ⟨3, by decide⟩ ∧
          returnType ⟨"findMatches", _, roles⟩ = vectorOf "Match")) = true := by
    decide +kernel
  obtain ⟨roles, lines, hanalyze, hlines, hroles⟩ := exists_lines_of_any hsample
  obtain ⟨hbuffer, houtput, htype⟩ := of_decide_eq_true hroles
  obtain ⟨signature, body, hoverload⟩ := exists_isOverload hlines
  have hcommas : WithoutCommas (sampleSearch "pData") := by decide +kernel
  have hdeclares : declaresElement ⟨"findMatches", sampleSearch "pData", roles⟩ = true :=
    declaresElement_of_ne hbuffer (by simp [houtput])
  have hkey : "Key" ≠ voidType := by decide
  have hchecks := elementChecks_eq hdeclares hbuffer hkey
  have hcheck : .checkElement "Key" ∈ Statement.flattenAll body := by
    rw [checkElement_mem_iff hoverload.body_eq, hchecks]
    exact List.mem_singleton_self _
  exact ⟨_, lines, signature, body, hanalyze, hlines, hoverload, .check hcheck,
    (usesAllocator_iff hcommas hoverload.signature_eq hoverload.body_eq).2 htype,
    template_of_declaresElement hdeclares hoverload.signature_eq⟩

end Overload

end VulkanBindings.Wrapper
