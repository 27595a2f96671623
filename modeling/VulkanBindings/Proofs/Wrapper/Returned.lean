import VulkanBindings.Proofs.Text.Search
import VulkanBindings.Wrapper.ReturnType

/-!
# What a wrapper yields

The type of what the enhanced overload yields, case by case: its output where the
result code has nothing else to tell, and else what the command itself returns.  The
last section is about commands with a result code, and says when something else is
returned in its place (`returnsOutput`).
-/

namespace VulkanBindings.Wrapper

open Analysis (Analyzed Position argument isArray)
open Registry (Command incomplete resultEnum voidType)

variable {analyzed : Analyzed} {position : Position analyzed.command}

/-! ## Types -/

theorem vectorOf_ne (element : String) :
    vectorOf element ≠ resultEnum ∧ vectorOf element ≠ voidType := by
  have hstart : (vectorOf element).toList.head? = some 's' := by
    unfold vectorOf
    rw [String.toList_append, String.toList_append, List.append_assoc, List.head?_append]
    rfl
  constructor
  · intro heq
    rw [heq] at hstart
    exact absurd hstart (by decide)
  · intro heq
    rw [heq] at hstart
    exact absurd hstart (by decide)

/-- What a pointer to result codes points to is a result code, and no other type is. -/
theorem pointedTo_eq_result_iff {type : String} (hstar : Text.occurs "*" type = true) :
    pointedTo type = resultEnum ↔ type = resultEnum ++ "*" := by
  have htype : type ≠ resultEnum := by
    rintro rfl
    exact absurd hstar (by decide)
  unfold pointedTo
  by_cases hends : Text.endsWith "*" type = true
  · obtain ⟨front, hfront⟩ := Text.endsWith_iff.1 hends
    rw [if_pos hends, ← String.toList_inj, ← String.toList_inj, ← hfront]
    simp
  · rw [if_neg hends]
    refine iff_of_false htype ?_
    rintro rfl
    exact hends (by decide)

theorem returnType_of_none (houtput : analyzed.roles.output = none) :
    returnType analyzed = returnType.plain analyzed.command := by
  unfold returnType
  rw [houtput]

theorem returnType_of_some (hposition : analyzed.roles.output = some position) :
    returnType analyzed =
      if collapses analyzed.command then
        if isArray analyzed.roles.arrays position then
          vectorOf (elementOf (argument position).baseType)
        else pointedTo (argument position).type
      else returnType.plain analyzed.command := by
  unfold returnType
  rw [hposition]

/-- An output only takes the place of nothing or of a result code. -/
theorem returns_of_collapses {command : Command} (hcollapses : collapses command = true) :
    command.returnsVoid = true ∨ command.returnsResult = true := by
  unfold collapses at hcollapses
  exact (Bool.or_eq_true_iff.1 hcollapses).imp id fun h => (Bool.and_eq_true_iff.1 h).1

/-- An array is returned in place of a result code that tells nothing, or of nothing. -/
theorem returnsOutput_of_array (hposition : analyzed.roles.output = some position)
    (harray : isArray analyzed.roles.arrays position = true)
    (hcollapses : collapses analyzed.command = true) : returnsOutput analyzed = true := by
  obtain ⟨hresult, hvoid⟩ := vectorOf_ne (elementOf (argument position).baseType)
  unfold returnsOutput
  rw [returnType_of_some hposition, if_pos hcollapses, if_pos harray]
  refine bne_iff_ne.2 fun heq => ?_
  rcases returns_of_collapses hcollapses with hreturns | hreturns
  · exact hvoid (heq.trans (beq_iff_eq.1 hreturns))
  · exact hresult (heq.trans (beq_iff_eq.1 hreturns))

/-! ## Commands with a result code -/

theorem returnsVoid_of_result {command : Command} (hresult : command.returnsResult = true) :
    command.returnsVoid = false := by
  unfold Command.returnsVoid
  rw [beq_iff_eq.1 hresult]
  rfl

theorem collapses_of_result (hresult : analyzed.command.returnsResult = true) :
    collapses analyzed.command =
      match analyzed.command.successCodes with
      | [_] => true
      | [_, second] => second == incomplete && analyzed.command.twoStep
      | _ => false := by
  unfold collapses
  rw [hresult, returnsVoid_of_result hresult]
  rfl

theorem returnType_plain_of_result (hresult : analyzed.command.returnsResult = true) :
    returnType.plain analyzed.command =
      if analyzed.command.successCodes.length = 1 then voidType else resultEnum := by
  unfold returnType.plain
  rw [hresult, beq_iff_eq.1 hresult]
  simp

theorem returnsOutput_eq_false_iff (hresult : analyzed.command.returnsResult = true) :
    returnsOutput analyzed = false ↔ returnType analyzed = resultEnum := by
  unfold returnsOutput
  rw [bne_eq_false_iff_eq, beq_iff_eq.1 hresult]

/-- The result code is returned unless there is one code or the output takes its place. -/
theorem returnsOutput_eq_false (hresult : analyzed.command.returnsResult = true)
    (hcodes : analyzed.command.successCodes.length ≠ 1)
    (hcollapses : analyzed.roles.output = none ∨ collapses analyzed.command = false) :
    returnsOutput analyzed = false := by
  have hplain := returnType_plain_of_result hresult
  rw [if_neg hcodes] at hplain
  rw [returnsOutput_eq_false_iff hresult]
  cases hposition : analyzed.roles.output with
  | none => rw [returnType_of_none hposition, hplain]
  | some position =>
    have hcollapses : collapses analyzed.command = false := by simpa [hposition] using hcollapses
    rw [returnType_of_some hposition, hcollapses, if_neg Bool.false_ne_true, hplain]

/-- A command without an output that returns no result code returns nothing. -/
theorem returnType_of_no_output (hresult : analyzed.command.returnsResult = true)
    (houtput : analyzed.roles.output = none) (hreturns : returnsOutput analyzed = true) :
    returnType analyzed = voidType := by
  by_cases hcodes : analyzed.command.successCodes.length = 1
  · rw [returnType_of_none houtput, returnType_plain_of_result hresult, if_pos hcodes]
  · have hplain := returnsOutput_eq_false hresult hcodes (.inl houtput)
    rw [hreturns] at hplain
    cases hplain

end VulkanBindings.Wrapper
