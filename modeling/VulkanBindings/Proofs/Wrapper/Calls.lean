import VulkanBindings.Proofs.Analysis.Analyzed
import VulkanBindings.Proofs.Analysis.Counted
import VulkanBindings.Wrapper.Overloads

/-!
# The native calls of an overload

An enhanced overload is a signature and a body (`enhancedLines_eq_ok`), and the body
is made of checks, a declaration, the statements that call the native command, and a
return.  Only the third of these parts makes calls: all statements of the others are
quiet (`Statement.isQuiet`), so that what is to be said about the calls of a body is
said about that part.

`calls_bodyOf` does so for a command that is called once, `calls_bodyOf_of_twoStep` for
one that is called twice, and `value_of_enhancedCall` says that a call passes the value of
every parameter at its own position.
-/

namespace VulkanBindings.Wrapper

open Analysis (Analyzed Position allPositions argument)
open Naming (reduced)
open Registry (Command Spec)

/-! ## What statements do -/

namespace Statement

mutual

/-- The native calls that a statement makes. -/
def calls : Statement → List NativeCall
  | call made => [made]
  | returnCall made => [made]
  | keepStatus _ made => [made]
  | whenCounted _ body => callsOfAll body
  | whileIncomplete body => callsOfAll body
  | checkElement _ | checkLengths _ _ _ | declare _ _ _ | declareStatus | resize _ _ | answer _
  | returnLocal _ => []

/-- The native calls of a list of statements. -/
def callsOfAll : List Statement → List NativeCall
  | [] => []
  | first :: rest => calls first ++ callsOfAll rest

end

/-- Whether a statement checks what the caller passed. -/
def isCheck : Statement → Bool
  | checkElement _ | checkLengths _ _ _ => true
  | _ => false

/-- Whether a statement neither calls a native command nor changes a vector, and
holds no statements that might. -/
def isQuiet : Statement → Bool
  | call _ | returnCall _ | keepStatus _ _ | resize _ _ | whenCounted _ _ | whileIncomplete _ =>
    false
  | checkElement _ | checkLengths _ _ _ | declare _ _ _ | declareStatus | answer _
  | returnLocal _ => true

theorem isQuiet_of_isCheck {statement : Statement} (h : statement.isCheck = true) :
    statement.isQuiet = true := by
  cases statement <;> first | rfl | cases h

theorem calls_of_isQuiet {statement : Statement} (h : statement.isQuiet = true) :
    statement.calls = [] := by
  cases statement <;> first | rfl | cases h

theorem callsOfAll_append (body rest : List Statement) :
    callsOfAll (body ++ rest) = callsOfAll body ++ callsOfAll rest := by
  induction body with
  | nil => rfl
  | cons first body ih => rw [List.cons_append, callsOfAll, callsOfAll, ih, List.append_assoc]

theorem callsOfAll_eq_nil {body : List Statement}
    (h : ∀ statement ∈ body, statement.isQuiet = true) :
    callsOfAll body = [] := by
  induction body with
  | nil => rfl
  | cons first body ih =>
    rw [callsOfAll, calls_of_isQuiet (h first List.mem_cons_self), List.nil_append]
    exact ih fun statement hmem => h statement (List.mem_cons_of_mem _ hmem)

end Statement

/-- The data of an array, as it is or with another type of its elements. -/
def PassedValue.IsDataOf (name : String) : PassedValue → Prop
  | .data array | .dataAs _ _ array => array = name
  | _ => False

/-! ## The parts of an overload -/

section Overload

variable {spec : Spec} {name className functionName indent : String} {command : Command}
  {analyzed : Analyzed} {lines : List String}

theorem rolesOf_of_analyze (h : Analysis.analyze name command = .ok analyzed) :
    Analysis.rolesOf name analyzed.command = .ok analyzed.roles := by
  obtain ⟨roles, hroles, rfl⟩ := Analysis.analyze_eq_ok_iff.1 h
  exact hroles

/-- The parts of an enhanced overload. -/
theorem enhancedLines_eq_ok
    (h : enhancedLines spec analyzed className functionName indent = .ok lines) :
    ∃ signature body, signatureLines spec analyzed functionName indent = .ok signature ∧
      bodyOf spec.wrapped analyzed (qualifiedName className functionName) = .ok body ∧
      lines = guarded analyzed.command.guard (signature ++ ([indent ++ openBrace] ++
        Statement.linesOfAll (indent ++ "  ") body ++ [indent ++ closeBrace])) := by
  unfold enhancedLines at h
  obtain ⟨signature, hsignature, h⟩ := bind_eq_ok_iff.1 h
  obtain ⟨bodyText, hbodyText, h⟩ := bind_eq_ok_iff.1 h
  have hwritten := mapError_eq_ok_iff.1 hbodyText
  unfold bodyLines at hwritten
  obtain ⟨body, hbody, htext⟩ := bind_eq_ok_iff.1 hwritten
  obtain rfl := Except.ok.inj htext
  exact ⟨signature, body, hsignature, hbody, (Except.ok.inj h).symm⟩

/-- An enhanced overload with its signature and its body. -/
structure IsOverload (spec : Spec) (analyzed : Analyzed) (className functionName indent : String)
    (lines : List String) (signature : Signature) (body : List Statement) : Prop where
  signature_eq : signatureOf spec analyzed functionName = .ok signature
  body_eq : bodyOf spec.wrapped analyzed (qualifiedName className functionName) = .ok body
  lines_eq : lines = guarded analyzed.command.guard (signature.lines indent ++
    ([indent ++ openBrace] ++ Statement.linesOfAll (indent ++ "  ") body ++ [indent ++ closeBrace]))

theorem exists_isOverload
    (h : enhancedLines spec analyzed className functionName indent = .ok lines) :
    ∃ signature body,
      IsOverload spec analyzed className functionName indent lines signature body := by
  obtain ⟨signatureText, body, hsignature, hbody, hlines⟩ := enhancedLines_eq_ok h
  unfold signatureLines at hsignature
  obtain ⟨signature, hwritten, htext⟩ := bind_eq_ok_iff.1 hsignature
  obtain rfl := Except.ok.inj htext
  exact ⟨signature, body, hwritten, hbody, hlines⟩

/-- The parts of a signature. -/
theorem signatureOf_eq_ok {signature : Signature}
    (h : signatureOf spec analyzed functionName = .ok signature) :
    ∃ parameters, (keptPositions analyzed).mapM (parameterAt spec analyzed) = .ok parameters ∧
      signature.declared = declaredOf analyzed ∧
      signature.parameters = Parameter.settleDefaults parameters := by
  unfold signatureOf at h
  obtain ⟨template, -, h⟩ := bind_eq_ok_iff.1 h
  obtain ⟨parameters, hparameters, h⟩ := bind_eq_ok_iff.1 h
  obtain rfl := Except.ok.inj h
  exact ⟨parameters, hparameters, rfl, rfl⟩

/-- A command can be analyzed and its overload be written, by computation. -/
theorem exists_lines_of_any {check : Analysis.Roles command → Bool}
    (h : (Analysis.rolesOf name command).toOption.any (fun roles =>
      (enhancedLines spec ⟨name, command, roles⟩ className functionName indent).toOption.any
        fun _ => check roles) = true) :
    ∃ roles lines, Analysis.analyze name command = .ok ⟨name, command, roles⟩ ∧
      enhancedLines spec ⟨name, command, roles⟩ className functionName indent = .ok lines ∧
      check roles = true := by
  obtain ⟨roles, hroles, hwritten⟩ := exists_of_any h
  obtain ⟨lines, hlines, hcheck⟩ := exists_of_any hwritten
  exact ⟨roles, lines, Analysis.analyze_eq_ok_iff.2 ⟨roles, hroles, rfl⟩, hlines, hcheck⟩

end Overload

section Body

variable {wrapped : NameSet} {analyzed : Analyzed} {caller : String} {body output : List Statement}

theorem isCheck_elementChecks :
    ∀ statement ∈ elementChecks analyzed, statement.isCheck = true := by
  unfold elementChecks
  split
  · dsimp only
    split <;> simp [Statement.isCheck]
  · simp

theorem isCheck_lengthChecks
    (inputs : List (Position analyzed.command × Position analyzed.command)) :
    ∀ statement ∈ lengthChecks analyzed caller inputs, statement.isCheck = true := by
  induction inputs with
  | nil => simp [lengthChecks]
  | cons input inputs ih =>
    obtain ⟨array, count⟩ := input
    intro statement hmem
    rcases List.mem_append.1 hmem with hmem | hmem
    · obtain ⟨other, -, rfl⟩ := List.mem_map.1 hmem
      rfl
    · exact ih statement hmem

/-- At most one local is declared for the output. -/
theorem outputDeclaration_eq_ok (h : outputDeclaration analyzed = .ok output) :
    output = [] ∨ ∃ type name length, output = [.declare type name length] := by
  unfold outputDeclaration at h
  split at h
  · exact .inl (Except.ok.inj h).symm
  dsimp only at h
  split at h
  · split at h
    · split at h
      · exact .inr ⟨_, _, _, (Except.ok.inj h).symm⟩
      · obtain ⟨length, -, h⟩ := bind_eq_ok_iff.1 h
        exact .inr ⟨_, _, _, (Except.ok.inj h).symm⟩
    · exact .inr ⟨_, _, _, (Except.ok.inj h).symm⟩
  · split at h
    · exact .inr ⟨_, _, _, (Except.ok.inj h).symm⟩
    · exact .inl (Except.ok.inj h).symm

theorem isQuiet_outputDeclaration (h : outputDeclaration analyzed = .ok output) :
    ∀ statement ∈ output, statement.isQuiet = true := by
  rcases outputDeclaration_eq_ok h with rfl | ⟨type, name, length, rfl⟩
  · simp
  · simp [Statement.isQuiet]

theorem isQuiet_returnStatements :
    ∀ statement ∈ returnStatements analyzed caller, statement.isQuiet = true := by
  unfold returnStatements
  split
  · simp [Statement.isQuiet]
  · split <;> simp [Statement.isQuiet]

/-- The statements before the native calls are quiet. -/
theorem isQuiet_preparation (h : outputDeclaration analyzed = .ok output) :
    ∀ statement ∈ elementChecks analyzed ++
      lengthChecks analyzed caller (countedInputs analyzed) ++ output,
      statement.isQuiet = true := by
  intro statement hmem
  rcases List.mem_append.1 hmem with hmem | hmem
  · rcases List.mem_append.1 hmem with hmem | hmem
    · exact Statement.isQuiet_of_isCheck (isCheck_elementChecks statement hmem)
    · exact Statement.isQuiet_of_isCheck (isCheck_lengthChecks _ statement hmem)
  · exact isQuiet_outputDeclaration h statement hmem

/-- The parts of the body of a command that is called once. -/
theorem bodyOf_eq_ok (wrapped : NameSet) (htwoStep : analyzed.command.twoStep = false)
    (h : bodyOf wrapped analyzed caller = .ok body) :
    ∃ output, outputDeclaration analyzed = .ok output ∧
      body = elementChecks analyzed ++ lengthChecks analyzed caller (countedInputs analyzed) ++
        output ++ singleCall wrapped analyzed ++ returnStatements analyzed caller := by
  unfold bodyOf at h
  rw [htwoStep] at h
  obtain ⟨output, houtput, h⟩ := bind_eq_ok_iff.1 h
  exact ⟨output, houtput, (Except.ok.inj h).symm⟩

/-- The parts of the body of a command that is called twice. -/
theorem bodyOf_eq_ok_of_twoStep (htwoStep : analyzed.command.twoStep = true)
    (h : bodyOf wrapped analyzed caller = .ok body) :
    ∃ output count, outputDeclaration analyzed = .ok output ∧ queriedCount analyzed = .ok count ∧
      body = elementChecks analyzed ++ lengthChecks analyzed caller (countedInputs analyzed) ++
        output ++ (.declare (argument count).baseType (reduced (argument count).name) none ::
          twoCalls wrapped analyzed (reduced (argument count).name)) ++
        returnStatements analyzed caller := by
  unfold bodyOf at h
  rw [htwoStep] at h
  obtain ⟨output, houtput, h⟩ := bind_eq_ok_iff.1 h
  obtain ⟨count, hcount, h⟩ := bind_eq_ok_iff.1 h
  exact ⟨output, count, houtput, hcount, (Except.ok.inj h).symm⟩

/-- What the first of two calls finds out is the count of the output. -/
theorem queriedCount_eq_ok {count : Position analyzed.command}
    (h : queriedCount analyzed = .ok count) :
    ∃ position, analyzed.roles.output = some position ∧
      analyzed.roles.arrays.lookup position = some (some count) := by
  unfold queriedCount at h
  dsimp only at h
  split at h
  · rename_i found hfound
    obtain rfl := Except.ok.inj h
    obtain ⟨position, hposition, hfound⟩ := Option.bind_eq_some_iff.1 hfound
    obtain ⟨entry, hentry, rfl⟩ := Option.bind_eq_some_iff.1 hfound
    exact ⟨position, hposition, hentry⟩
  · cases h

/-- The part of a body with the native calls: one of them, or two after a local for the count. -/
def IsCalling (wrapped : NameSet) (analyzed : Analyzed) (calls : List Statement) : Prop :=
  calls = singleCall wrapped analyzed ∨ ∃ count : Position analyzed.command,
    calls = .declare (argument count).baseType (reduced (argument count).name) none ::
      twoCalls wrapped analyzed (reduced (argument count).name)

/-- The parts of any body. -/
theorem exists_bodyParts (h : bodyOf wrapped analyzed caller = .ok body) :
    ∃ output calls, outputDeclaration analyzed = .ok output ∧ IsCalling wrapped analyzed calls ∧
      body = elementChecks analyzed ++ lengthChecks analyzed caller (countedInputs analyzed) ++
        output ++ calls ++ returnStatements analyzed caller := by
  cases htwoStep : analyzed.command.twoStep with
  | false =>
    obtain ⟨output, houtput, hbody⟩ := bodyOf_eq_ok wrapped htwoStep h
    exact ⟨output, _, houtput, .inl rfl, hbody⟩
  | true =>
    obtain ⟨output, count, houtput, -, hbody⟩ := bodyOf_eq_ok_of_twoStep htwoStep h
    exact ⟨output, _, houtput, .inr ⟨count, rfl⟩, hbody⟩

/-! ## The calls -/

variable (wrapped)

theorem calls_singleCall :
    Statement.callsOfAll (singleCall wrapped analyzed) =
      [enhancedCall wrapped analyzed .query] := by
  unfold singleCall
  dsimp only
  split
  · rfl
  · split <;> rfl

/-- A command that is not called twice is called exactly once. -/
theorem calls_bodyOf (htwoStep : analyzed.command.twoStep = false)
    (h : bodyOf wrapped analyzed caller = .ok body) :
    Statement.callsOfAll body = [enhancedCall wrapped analyzed .query] := by
  obtain ⟨output, houtput, rfl⟩ := bodyOf_eq_ok wrapped htwoStep h
  rw [Statement.callsOfAll_append, Statement.callsOfAll_append, calls_singleCall,
    Statement.callsOfAll_eq_nil (isQuiet_preparation houtput),
    Statement.callsOfAll_eq_nil isQuiet_returnStatements]
  rfl

theorem calls_twoCalls (count : String) :
    Statement.callsOfAll (twoCalls wrapped analyzed count) =
      [enhancedCall wrapped analyzed .query, enhancedCall wrapped analyzed .fill] := by
  unfold twoCalls
  dsimp only
  split
  · split <;> rfl
  · split <;> rfl

/-- A command that is called twice is first asked for a count and then for data. -/
theorem calls_bodyOf_of_twoStep (htwoStep : analyzed.command.twoStep = true)
    (h : bodyOf wrapped analyzed caller = .ok body) :
    Statement.callsOfAll body =
      [enhancedCall wrapped analyzed .query, enhancedCall wrapped analyzed .fill] := by
  obtain ⟨output, count, houtput, -, rfl⟩ := bodyOf_eq_ok_of_twoStep htwoStep h
  rw [Statement.callsOfAll_append, Statement.callsOfAll_append,
    Statement.callsOfAll_eq_nil (isQuiet_preparation houtput),
    Statement.callsOfAll_eq_nil isQuiet_returnStatements, Statement.callsOfAll, calls_twoCalls]
  rfl

/-- The first call is made in any case. -/
theorem query_mem_calls (h : bodyOf wrapped analyzed caller = .ok body) :
    enhancedCall wrapped analyzed .query ∈ Statement.callsOfAll body := by
  cases htwoStep : analyzed.command.twoStep with
  | false =>
    rw [calls_bodyOf wrapped htwoStep h]
    exact List.mem_singleton_self _
  | true =>
    rw [calls_bodyOf_of_twoStep wrapped htwoStep h]
    exact List.mem_cons_self

/-- No other calls are made. -/
theorem exists_step_of_mem_calls (h : bodyOf wrapped analyzed caller = .ok body) {call : NativeCall}
    (hcall : call ∈ Statement.callsOfAll body) :
    ∃ step, call = enhancedCall wrapped analyzed step := by
  cases htwoStep : analyzed.command.twoStep with
  | false =>
    rw [calls_bodyOf wrapped htwoStep h] at hcall
    exact ⟨.query, List.mem_singleton.1 hcall⟩
  | true =>
    rw [calls_bodyOf_of_twoStep wrapped htwoStep h] at hcall
    rcases List.mem_cons.1 hcall with hquery | hfill
    · exact ⟨.query, hquery⟩
    · exact ⟨.fill, List.mem_singleton.1 hfill⟩

/-! ## Values by position -/

section Positions

variable {command : Command} {position : Position command}

theorem getElem?_allPositions (position : Position command) :
    (allPositions command)[position.val]? = some position := by
  simp [allPositions]

/-- The wrapper has all parameters but the handle of a method. -/
theorem mem_ownPositions :
    position ∈ ownPositions command ↔ (command.isMethod = true → position.val ≠ 0) := by
  unfold ownPositions
  split
  · rename_i hmethod
    simp only [hmethod, true_implies, List.mem_iff_getElem?, List.getElem?_drop]
    constructor
    · rintro ⟨index, hindex⟩
      obtain ⟨hlt, rfl⟩ := List.getElem?_eq_some_iff.1 hindex
      simp [allPositions]
    · intro hposition
      refine ⟨position.val - 1, ?_⟩
      rw [Nat.add_sub_cancel' (Nat.one_le_iff_ne_zero.2 hposition), getElem?_allPositions]
  · rename_i hmethod
    exact iff_of_true (List.mem_finRange position) fun h => absurd h hmethod

theorem ownArguments_eq (command : Command) :
    ownArguments command = (ownPositions command).map argument := by
  have hall : (allPositions command).map argument = command.arguments := by
    unfold allPositions argument
    exact List.map_getElem_finRange command.arguments
  unfold ownArguments ownPositions
  split
  · rw [List.map_drop, hall]
  · exact hall.symm

theorem length_ownHandleValue (command : Command) :
    (ownHandleValue command).length = if command.isMethod then 1 else 0 := by
  unfold ownHandleValue Command.isMethod
  cases command.owner <;> rfl

/-- The handle of a method comes first, and then the values of all parameters but the
first one. -/
theorem getElem?_ownValues (value : Position command → PassedValue) (index : Nat) :
    (ownHandleValue command ++ (ownPositions command).map value)[index]? =
      if index < (ownHandleValue command).length then
        (ownHandleValue command)[index]?
      else
        (allPositions command)[index]?.map value := by
  have hown : ∀ later, (ownPositions command)[later]? =
      (allPositions command)[(ownHandleValue command).length + later]? := by
    intro later
    unfold ownPositions ownHandleValue Command.isMethod
    cases command.owner with
    | none => simp
    | some handle => simp [Nat.add_comm]
  rw [List.getElem?_append]
  split
  · rfl
  · rename_i hlater
    rw [List.getElem?_map, hown, Nat.add_sub_cancel' (Nat.le_of_not_lt hlater)]

/-- Every parameter has its value at its own position, but for the handle of a method. -/
theorem getElem?_ownValues_of_own (value : Position command → PassedValue)
    (hposition : command.isMethod = true → position.val ≠ 0) :
    (ownHandleValue command ++ (ownPositions command).map value)[position.val]? =
      some (value position) := by
  have hlater : ¬ position.val < (ownHandleValue command).length := by
    rw [length_ownHandleValue]
    split
    · rename_i hmethod
      exact fun hlt => hposition hmethod (Nat.lt_one_iff.1 hlt)
    · exact Nat.not_lt_zero _
  rw [getElem?_ownValues, if_neg hlater, getElem?_allPositions, Option.map_some]

end Positions

theorem getElem?_values (step : Step) (index : Nat) :
    (enhancedCall wrapped analyzed step).values[index]? =
      if index < (ownHandleValue analyzed.command).length then
        (ownHandleValue analyzed.command)[index]?
      else
        (allPositions analyzed.command)[index]?.map (enhancedValue wrapped analyzed step) :=
  getElem?_ownValues _ index

/-- Every call passes the value of a parameter at its own position. -/
theorem value_of_enhancedCall (step : Step) {position : Position analyzed.command}
    (hposition : analyzed.command.isMethod = true → position.val ≠ 0) :
    (enhancedCall wrapped analyzed step).values[position.val]? =
      some (enhancedValue wrapped analyzed step position) :=
  getElem?_ownValues_of_own _ hposition

end Body

/-! ## A sample -/

/-- A command that lists what there is of something. -/
def sampleListing (successCodes : List String) : Command where
  returnType := Registry.resultEnum
  arguments :=
    [⟨"uint32_t*", "pCount", "uint32_t", "", "", false⟩,
     ⟨"Layer*", "pLayers", "Layer", "", "pCount", false⟩]
  successCodes
  guard := ""
  owner := none
  twoStep := true

end VulkanBindings.Wrapper
