import VulkanBindings.Proofs.Wrapper.Calls
import VulkanBindings.Proofs.Wrapper.Returned
import VulkanBindings.Wrapper.Fragment.Results

/-!
# What a wrapper is declared to return

The wrapper of a command with a result code ends with an answer: a call of one of four
functions of the bindings, which throws or returns.  The declared type of the wrapper
is chosen without a look at the answer, and so is the type of the local whose value is
given back.

`AnswerFunction` are the four functions, which the bindings declare
(`declarationLine_mem`), and `AnswersAsDeclared` says that signature and body agree: the
wrapper is declared with the type that the function returns at the type of the local,
and the local is declared before anything is done with it.  They do not agree for every
command.  `declared_as_answered_iff` says that they do just for those that
`CodesForeseen` describes.
-/

namespace VulkanBindings.Wrapper

open Analysis (Analyzed Position argument isArray)
open Naming (reduced)
open Registry (Command Spec incomplete resultEnum voidType)

/-! ## The functions that answer -/

/-- The bindings declare each of the functions. -/
theorem AnswerFunction.declarationLine_mem (function : AnswerFunction) :
    function.declarationLine ∈ Fragment.createResultValue := by
  obtain ⟨takesValue, takesCodes⟩ := function
  unfold Fragment.createResultValue
  cases takesValue <;> cases takesCodes <;> simp

/-- The function that is called by an answer, by what the answer gives to it. -/
def Answer.function (answer : Answer) : AnswerFunction :=
  ⟨answer.value.isSome, answer.codes.isSome⟩

/-! ## Agreement of signature and body -/

/-- All that a body does before it declares a local is to check its parameters. -/
def DeclaresFirst (body : List Statement) (type name : String) : Prop :=
  ∃ checks length rest, body = checks ++ .declare type name length :: rest ∧
    ∀ statement ∈ checks, statement.isCheck = true

/-- A wrapper is declared with the type that the function of its answer returns, at the
type that the body declares for the local whose value is given back. -/
def AnswersAsDeclared (declared : DeclaredType) (body : List Statement) (answer : Answer) : Prop :=
  ∃ type, (∀ name, answer.value = some name → DeclaresFirst body type name) ∧
    declared.text = (answer.function.result type).text

/-- The commands whose result codes signature and body take alike.  There is one code, and
no other result code comes back through a pointer; or there are several, and the command
is called once; or it is called twice as long as the data does not fit. -/
def CodesForeseen (analyzed : Analyzed) : Prop :=
  match analyzed.command.successCodes with
  | [] => False
  | [_] => ∀ output, analyzed.roles.output = some output →
      isArray analyzed.roles.arrays output = true ∨ (argument output).type ≠ resultEnum ++ "*"
  | [_, second] => analyzed.command.twoStep = true → second = incomplete
  | _ => analyzed.command.twoStep = false

section Agreement

variable {name caller : String} {wrapped : NameSet} {analyzed : Analyzed}
  {body output : List Statement}

/-! ### Declared types -/

theorem unlessFailed_text_ne (value : String) :
    (DeclaredType.plain resultEnum).text ≠ (DeclaredType.unlessFailed value).text ∧
      ∀ other, (DeclaredType.withResult other).text ≠ (DeclaredType.unlessFailed value).text := by
  have hletter : (DeclaredType.unlessFailed value).text.toList[11]? = some 'T' := by
    unfold DeclaredType.text
    rw [String.toList_append, String.toList_append, List.append_assoc]
    rfl
  constructor
  · intro heq
    rw [← heq] at hletter
    exact absurd hletter (by decide)
  · intro other heq
    have hbracket : (DeclaredType.withResult other).text.toList[11]? = some '<' := by
      unfold DeclaredType.text
      rw [String.toList_append, String.toList_append, List.append_assoc]
      rfl
    rw [heq, hletter] at hbracket
    exact absurd hbracket (by decide)

theorem declaredOf_of_returnsOutput (hresult : analyzed.command.returnsResult = true)
    (hreturns : returnsOutput analyzed = true) :
    declaredOf analyzed = .unlessFailed (returnType analyzed) := by
  unfold declaredOf replacesResult
  rw [hreturns, returnsVoid_of_result hresult]
  rfl

theorem returnType_of_not_returnsOutput (hresult : analyzed.command.returnsResult = true)
    (hreturns : returnsOutput analyzed = false) : returnType analyzed = resultEnum :=
  (bne_eq_false_iff_eq.1 hreturns).trans (beq_iff_eq.1 hresult)

theorem declaredOf_of_not_returnsOutput (hresult : analyzed.command.returnsResult = true)
    (hreturns : returnsOutput analyzed = false) :
    declaredOf analyzed =
      match analyzed.roles.output with
      | some output =>
        if analyzed.command.successCodes.length > 1 then .withResult (argument output).baseType
        else .plain resultEnum
      | none => .plain resultEnum := by
  unfold declaredOf replacesResult
  rw [hreturns, returnType_of_not_returnsOutput hresult hreturns]
  rfl

/-! ### The local -/

theorem outputDeclaration_of_returnsOutput {position : Position analyzed.command}
    (hposition : analyzed.roles.output = some position) (hreturns : returnsOutput analyzed = true)
    (h : outputDeclaration analyzed = .ok output) :
    ∃ length, output =
      [.declare (returnType analyzed) (reduced (argument position).name) length] := by
  unfold outputDeclaration at h
  simp only [hposition, hreturns, if_true] at h
  split at h
  · split at h
    · exact ⟨none, (Except.ok.inj h).symm⟩
    · obtain ⟨length, -, h⟩ := bind_eq_ok_iff.1 h
      exact ⟨some length, (Except.ok.inj h).symm⟩
  · exact ⟨none, (Except.ok.inj h).symm⟩

theorem outputDeclaration_of_codes {position : Position analyzed.command}
    (hposition : analyzed.roles.output = some position) (hreturns : returnsOutput analyzed = false)
    (hcodes : 1 < analyzed.command.successCodes.length)
    (h : outputDeclaration analyzed = .ok output) :
    output = [.declare (argument position).baseType (reduced (argument position).name) none] := by
  unfold outputDeclaration at h
  simp only [hposition, hreturns, Bool.false_eq_true, if_false, if_pos hcodes] at h
  exact (Except.ok.inj h).symm

/-- The local of the output is declared right after the checks. -/
theorem declaresFirst_of_bodyOf {type label : String} {length : Option LengthExpression}
    (houtput : outputDeclaration analyzed = .ok [.declare type label length])
    (h : bodyOf wrapped analyzed caller = .ok body) : DeclaresFirst body type label := by
  obtain ⟨output, calls, hother, -, rfl⟩ := exists_bodyParts h
  obtain rfl := Except.ok.inj (hother.symm.trans houtput)
  refine ⟨elementChecks analyzed ++ lengthChecks analyzed caller (countedInputs analyzed), length,
    calls ++ returnStatements analyzed caller, by simp, fun statement hmem => ?_⟩
  rcases List.mem_append.1 hmem with hmem | hmem
  · exact isCheck_elementChecks statement hmem
  · exact isCheck_lengthChecks _ statement hmem

/-! ### When they agree -/

/-- A command that returns something else than its result code lists no codes in its answer. -/
theorem codes_of_returnsOutput (hresult : analyzed.command.returnsResult = true)
    (hreturns : returnsOutput analyzed = true) :
    ¬ (1 < analyzed.command.successCodes.length ∧ analyzed.command.twoStep = false) := by
  rintro ⟨hcodes, htwoStep⟩
  have hcollapses : collapses analyzed.command = false := by
    rw [collapses_of_result hresult]
    split
    · rename_i hone
      simp [hone] at hcodes
    · rw [htwoStep, Bool.and_false]
    · rfl
  have hplain := returnsOutput_eq_false hresult (by omega) (.inr hcollapses)
  rw [hreturns] at hplain
  cases hplain

/-- The function of an answer is given codes if there are several and one call. -/
theorem function_answerOf :
    (answerOf analyzed caller).function =
      ⟨analyzed.roles.output.isSome,
       decide (1 < analyzed.command.successCodes.length ∧ analyzed.command.twoStep = false)⟩ := by
  unfold Answer.function answerOf
  dsimp only
  rw [Option.isSome_map]
  congr 1
  cases analyzed.command.twoStep <;> split <;> simp_all

/-- What an answer gives back is the local of the output. -/
theorem value_answerOf {label : String} (h : (answerOf analyzed caller).value = some label) :
    ∃ position, analyzed.roles.output = some position ∧
      label = reduced (argument position).name := by
  obtain ⟨position, hposition, rfl⟩ := Option.map_eq_some_iff.1 h
  exact ⟨position, hposition, rfl⟩

/-- The function throws on failure and the wrapper is declared to do so. -/
theorem answersAsDeclared_of_returnsOutput (hresult : analyzed.command.returnsResult = true)
    (hreturns : returnsOutput analyzed = true) (h : bodyOf wrapped analyzed caller = .ok body) :
    AnswersAsDeclared (declaredOf analyzed) body (answerOf analyzed caller) := by
  obtain ⟨output, calls, houtput, -⟩ := exists_bodyParts h
  refine ⟨returnType analyzed, fun label hlabel => ?_, ?_⟩
  · obtain ⟨position, hposition, rfl⟩ := value_answerOf hlabel
    obtain ⟨length, rfl⟩ := outputDeclaration_of_returnsOutput hposition hreturns houtput
    exact declaresFirst_of_bodyOf houtput h
  · rw [function_answerOf, declaredOf_of_returnsOutput hresult hreturns,
      decide_eq_false (codes_of_returnsOutput hresult hreturns)]
    cases hposition : analyzed.roles.output with
    | none => rw [returnType_of_no_output hresult hposition hreturns]; rfl
    | some position => rfl

/-- The function is given the codes and the wrapper is declared to return one of them. -/
theorem answersAsDeclared_of_codes (hresult : analyzed.command.returnsResult = true)
    (hcodes : 1 < analyzed.command.successCodes.length ∧ analyzed.command.twoStep = false)
    (h : bodyOf wrapped analyzed caller = .ok body) :
    AnswersAsDeclared (declaredOf analyzed) body (answerOf analyzed caller) := by
  have hreturns : returnsOutput analyzed = false :=
    eq_false_of_ne_true fun hreturns => codes_of_returnsOutput hresult hreturns hcodes
  obtain ⟨output, calls, houtput, -⟩ := exists_bodyParts h
  unfold AnswersAsDeclared
  rw [function_answerOf, decide_eq_true hcodes, declaredOf_of_not_returnsOutput hresult hreturns]
  cases hposition : analyzed.roles.output with
  | none => exact ⟨resultEnum, by simp [answerOf, hposition], rfl⟩
  | some position =>
    dsimp only
    rw [if_pos hcodes.1]
    refine ⟨(argument position).baseType, fun label hlabel => ?_, rfl⟩
    obtain ⟨other, hother, rfl⟩ := value_answerOf hlabel
    obtain rfl := Option.some.inj (hother.symm.trans hposition)
    obtain rfl := outputDeclaration_of_codes hother hreturns hcodes.1 houtput
    exact declaresFirst_of_bodyOf houtput h

/-- The function throws on failure, but the wrapper is declared to return a result code. -/
theorem not_answersAsDeclared (hresult : analyzed.command.returnsResult = true)
    (hreturns : returnsOutput analyzed = false)
    (hcodes : ¬ (1 < analyzed.command.successCodes.length ∧ analyzed.command.twoStep = false)) :
    ¬ AnswersAsDeclared (declaredOf analyzed) body (answerOf analyzed caller) := by
  rintro ⟨type, -, htext⟩
  rw [function_answerOf, decide_eq_false hcodes,
    declaredOf_of_not_returnsOutput hresult hreturns] at htext
  obtain ⟨value, hvalue⟩ : ∃ value, AnswerFunction.result
      ⟨analyzed.roles.output.isSome, false⟩ type = .unlessFailed value := by
    cases analyzed.roles.output <;> exact ⟨_, rfl⟩
  obtain ⟨hplain, hwith⟩ := unlessFailed_text_ne value
  rw [hvalue] at htext
  split at htext
  · split at htext
    · exact hwith _ htext
    · exact hplain htext
  · exact hplain htext

/-- Signature and body agree when the output takes the place of the result code, and when
both are returned together. -/
theorem answersAsDeclared_iff (hresult : analyzed.command.returnsResult = true)
    (h : bodyOf wrapped analyzed caller = .ok body) :
    AnswersAsDeclared (declaredOf analyzed) body (answerOf analyzed caller) ↔
      returnsOutput analyzed = true ∨
        (1 < analyzed.command.successCodes.length ∧ analyzed.command.twoStep = false) := by
  constructor
  · intro hagrees
    by_contra hneither
    obtain ⟨hreturns, hcodes⟩ := not_or.1 hneither
    exact not_answersAsDeclared hresult (eq_false_of_ne_true hreturns) hcodes hagrees
  · rintro (hreturns | hcodes)
    · exact answersAsDeclared_of_returnsOutput hresult hreturns h
    · exact answersAsDeclared_of_codes hresult hcodes h

/-! ### Which commands these are -/

/-- The output of a command that is called twice is an array. -/
theorem exists_array_of_twoStep (htwoStep : analyzed.command.twoStep = true)
    (h : bodyOf wrapped analyzed caller = .ok body) :
    ∃ position, analyzed.roles.output = some position ∧
      isArray analyzed.roles.arrays position = true := by
  obtain ⟨output, count, -, hcount, -⟩ := bodyOf_eq_ok_of_twoStep htwoStep h
  obtain ⟨position, hposition, hlookup⟩ := queriedCount_eq_ok hcount
  exact ⟨position, hposition, by rw [isArray, hlookup]; rfl⟩

/-- With one code of success, only a result code that comes back through a pointer is
returned like the code of the command itself. -/
theorem returnsOutput_iff_of_single
    (hroles : Analysis.rolesOf name analyzed.command = .ok analyzed.roles)
    (hresult : analyzed.command.returnsResult = true) {code : String}
    (hcodes : analyzed.command.successCodes = [code]) :
    returnsOutput analyzed = true ↔ ∀ position, analyzed.roles.output = some position →
      isArray analyzed.roles.arrays position = true ∨
        (argument position).type ≠ resultEnum ++ "*" := by
  have hcollapses : collapses analyzed.command = true := by
    rw [collapses_of_result hresult, hcodes]
  rw [← Bool.not_eq_false, returnsOutput_eq_false_iff hresult]
  cases hposition : analyzed.roles.output with
  | none =>
    refine iff_of_true ?_ (by simp)
    rw [returnType_of_none hposition, returnType_plain_of_result hresult, if_pos (by simp [hcodes])]
    decide
  | some position =>
    have hfound := (Analysis.rolesOf_eq_ok hroles).2.2
    rw [hposition] at hfound
    have hstar : Text.occurs "*" (argument position).type = true := by
      have hisOutput := (Analysis.isOutput_of_outputOf hfound).2
      simp only [Analysis.isOutput, Analysis.isWritable, Bool.and_eq_true] at hisOutput
      exact hisOutput.1.1.1
    rw [returnType_of_some hposition, if_pos hcollapses]
    by_cases harray : isArray analyzed.roles.arrays position = true
    · rw [if_pos harray]
      exact iff_of_true (vectorOf_ne _).1 (by simp [harray])
    · rw [if_neg harray, pointedTo_eq_result_iff hstar]
      simp [harray]

theorem codesForeseen_iff (hroles : Analysis.rolesOf name analyzed.command = .ok analyzed.roles)
    (hresult : analyzed.command.returnsResult = true)
    (h : bodyOf wrapped analyzed caller = .ok body) :
    (returnsOutput analyzed = true ∨
        (1 < analyzed.command.successCodes.length ∧ analyzed.command.twoStep = false)) ↔
      CodesForeseen analyzed := by
  have hcollapses := collapses_of_result hresult
  unfold CodesForeseen
  match hcodes : analyzed.command.successCodes with
  | [] =>
    have hplain := returnsOutput_eq_false hresult (by simp [hcodes])
      (.inr (by rw [hcollapses, hcodes]))
    simp [hplain]
  | [code] =>
    rw [returnsOutput_iff_of_single hroles hresult hcodes]
    simp
  | [first, second] =>
    rw [hcodes] at hcollapses
    cases htwoStep : analyzed.command.twoStep with
    | false => simp
    | true =>
      obtain ⟨position, hposition, harray⟩ := exists_array_of_twoStep htwoStep h
      simp only [htwoStep, Bool.and_true] at hcollapses
      by_cases hsecond : second = incomplete
      · have hreturns := returnsOutput_of_array hposition harray
          (hcollapses.trans (beq_iff_eq.2 hsecond))
        simp [hreturns, hsecond]
      · have hplain := returnsOutput_eq_false hresult (by simp [hcodes])
          (.inr (hcollapses.trans (beq_eq_false_iff_ne.2 hsecond)))
        simp [hplain, hsecond]
  | first :: second :: third :: rest =>
    have hplain := returnsOutput_eq_false hresult (by simp [hcodes])
      (.inr (by rw [hcollapses, hcodes]))
    simp [hplain]

/-- The body of a command with a result code ends with an answer, which gives the output
back if there is one. -/
theorem bodyOf_eq_append_answer (hresult : analyzed.command.returnsResult = true)
    (h : bodyOf wrapped analyzed caller = .ok body) :
    ∃ before, body = before ++ [.answer (answerOf analyzed caller)] := by
  obtain ⟨output, calls, -, -, rfl⟩ := exists_bodyParts h
  refine ⟨_, congrArg _ ?_⟩
  unfold returnStatements
  rw [if_pos hresult]

end Agreement

section Overload

variable {spec : Spec} {name className functionName indent : String} {command : Command}
  {analyzed : Analyzed} {lines : List String}

/-- The enhanced overload of a command with a result code ends with an answer that gives
back the local of its output, by a function of the bindings.  Its declared type is what the
answer returns just for the commands whose result codes are foreseen. -/
theorem declared_as_answered_iff (hanalyze : Analysis.analyze name command = .ok analyzed)
    (hresult : analyzed.command.returnsResult = true)
    (hlines : enhancedLines spec analyzed className functionName indent = .ok lines) :
    ∃ signature body before answer,
      IsOverload spec analyzed className functionName indent lines signature body ∧
      body = before ++ [.answer answer] ∧
      answer.value = analyzed.roles.output.map (fun output => reduced (argument output).name) ∧
      answer.function.declarationLine ∈ Fragment.createResultValue ∧
      (AnswersAsDeclared signature.declared body answer ↔ CodesForeseen analyzed) := by
  obtain ⟨signature, body, hoverload⟩ := exists_isOverload hlines
  obtain ⟨before, hbefore⟩ := bodyOf_eq_append_answer hresult hoverload.body_eq
  obtain ⟨parameters, -, hdeclared, -⟩ := signatureOf_eq_ok hoverload.signature_eq
  refine ⟨signature, body, before, _, hoverload, hbefore, rfl,
    AnswerFunction.declarationLine_mem _, ?_⟩
  rw [hdeclared, answersAsDeclared_iff hresult hoverload.body_eq]
  exact codesForeseen_iff (rolesOf_of_analyze hanalyze) hresult hoverload.body_eq

/-- The usual codes of such a command are foreseen: the vector is returned as declared. -/
theorem listing_declared_as_answered :
    ∃ analyzed lines signature body answer,
      Analysis.analyze "enumerateLayers" (sampleListing ["eSuccess", "eIncomplete"]) =
        .ok analyzed ∧
      enhancedLines .initial analyzed "" "enumerateLayers" "  " = .ok lines ∧
      IsOverload .initial analyzed "" "enumerateLayers" "  " lines signature body ∧
      answer.value = some "layers" ∧ AnswersAsDeclared signature.declared body answer := by
  have hsample : (Analysis.rolesOf "enumerateLayers"
      (sampleListing ["eSuccess", "eIncomplete"])).toOption.any (fun roles =>
        (enhancedLines .initial ⟨"enumerateLayers", _, roles⟩ "" "enumerateLayers"
          "  ").toOption.any fun _ => roles.output.map (·.val) == some 1) = true := by
    decide +kernel
  obtain ⟨roles, lines, hanalyze, hlines, houtput⟩ := exists_lines_of_any hsample
  obtain ⟨signature, body, before, answer, hoverload, -, hvalue, -, hiff⟩ :=
    declared_as_answered_iff hanalyze rfl hlines
  refine ⟨_, lines, signature, body, answer, hanalyze, hlines, hoverload, ?_, ?_⟩
  · obtain ⟨position, hposition, hone⟩ := Option.map_eq_some_iff.1 (beq_iff_eq.1 houtput)
    obtain rfl : position = ⟨1, by decide⟩ := Fin.ext hone
    rw [hvalue, hposition]
    exact congrArg some (by decide +kernel : reduced "pLayers" = "layers")
  · exact hiff.2 fun _ => rfl

/-- With a third code, such a wrapper is declared to return a pair of value and result
code, and answers with the value alone. -/
theorem three_codes_not_as_declared :
    ∃ analyzed lines signature body before answer,
      Analysis.analyze "enumerateLayers"
        (sampleListing ["eSuccess", "eIncomplete", "eSuboptimalKHR"]) = .ok analyzed ∧
      enhancedLines .initial analyzed "" "enumerateLayers" "  " = .ok lines ∧
      IsOverload .initial analyzed "" "enumerateLayers" "  " lines signature body ∧
      body = before ++ [.answer answer] ∧
      ¬ AnswersAsDeclared signature.declared body answer := by
  have hsample : (Analysis.rolesOf "enumerateLayers"
      (sampleListing ["eSuccess", "eIncomplete", "eSuboptimalKHR"])).toOption.any (fun roles =>
        (enhancedLines .initial ⟨"enumerateLayers", _, roles⟩ "" "enumerateLayers"
          "  ").toOption.any fun _ => true) = true := by
    decide +kernel
  obtain ⟨roles, lines, hanalyze, hlines, -⟩ := exists_lines_of_any hsample
  obtain ⟨signature, body, hoverload⟩ := exists_isOverload hlines
  obtain ⟨before, hbefore⟩ := bodyOf_eq_append_answer rfl hoverload.body_eq
  obtain ⟨parameters, -, hdeclared, -⟩ := signatureOf_eq_ok hoverload.signature_eq
  refine ⟨_, lines, signature, body, before, _, hanalyze, hlines, hoverload, hbefore, ?_⟩
  rw [hdeclared, answersAsDeclared_iff rfl hoverload.body_eq,
    codesForeseen_iff (rolesOf_of_analyze hanalyze) rfl hoverload.body_eq]
  exact Bool.noConfusion

end Overload

end VulkanBindings.Wrapper
