import VulkanBindings.Proofs.Wrapper.CallShape

/-!
# What the overloads of a command hold

The overloads of a command are written as one block of lines: the standard overload, which
is left out of sight where the enhanced one stands in for it, and the enhanced overload
between the directives that take it out.  `HoldsOverloads` spells the block out, down to the
declaration of each overload and its native calls, and `holdsOverloads_of_overloadLines` says
that it is what is written.

A call that a body makes is in one of its lines (`exists_line_of_mem_calls`), at whatever
depth of nested blocks it is made.
-/

namespace VulkanBindings.Wrapper

open Analysis (Analyzed)
open Naming (nativeCommand)
open Registry (Command Member Spec)

/-! ## Calls in lines -/

namespace Statement

/-- The text occurs in one of the lines. -/
def InSomeLine (text : String) (lines : List String) : Prop :=
  ∃ line ∈ lines, text.toList <:+: line.toList

theorem InSomeLine.mono {text : String} {lines more : List String} (h : InSomeLine text lines)
    (hmore : ∀ line ∈ lines, line ∈ more) : InSomeLine text more := by
  obtain ⟨line, hline, htext⟩ := h
  exact ⟨line, hmore line hline, htext⟩

theorem inSomeLine_around (front text back : String) : InSomeLine text [front ++ text ++ back] :=
  ⟨_, List.mem_singleton_self _, front.toList, back.toList, by simp⟩

mutual

/-- A call is written in a line of the statement that makes it. -/
theorem inSomeLine_of_mem_calls {made : NativeCall} :
    ∀ (indent : String) (statement : Statement), made ∈ statement.calls →
      InSomeLine made.text (statement.lines indent)
  | indent, call other, h => by
    obtain rfl := List.mem_singleton.1 h
    exact inSomeLine_around indent made.text ";"
  | indent, returnCall other, h => by
    obtain rfl := List.mem_singleton.1 h
    exact inSomeLine_around s!"{indent}return " made.text ";"
  | indent, keepStatus declares other, h => by
    obtain rfl := List.mem_singleton.1 h
    have hline := inSomeLine_around
      (indent ++ (if declares then "Result " else "") ++ "result = static_cast<Result>( ")
      made.text " );"
    simpa only [lines, toString, String.append_assoc] using hline
  | indent, whenCounted count body, h =>
    (inSomeLine_of_mem_callsOfAll (indent ++ "  ") body h).mono fun line hline => by
      simp [lines, hline]
  | indent, whileIncomplete body, h =>
    (inSomeLine_of_mem_callsOfAll (indent ++ "  ") body h).mono fun line hline => by
      simp [lines, hline]

theorem inSomeLine_of_mem_callsOfAll {made : NativeCall} :
    ∀ (indent : String) (body : List Statement), made ∈ callsOfAll body →
      InSomeLine made.text (linesOfAll indent body)
  | indent, first :: rest, h => by
    rw [callsOfAll, List.mem_append] at h
    rw [linesOfAll]
    cases h with
    | inl hfirst =>
      exact (inSomeLine_of_mem_calls indent first hfirst).mono fun line hline =>
        List.mem_append_left _ hline
    | inr hrest =>
      exact (inSomeLine_of_mem_callsOfAll indent rest hrest).mono fun line hline =>
        List.mem_append_right _ hline

end

end Statement

/-! ## Both overloads -/

/-- The standard overload: its declaration, and a statement with a native call between braces. -/
def IsStandardOverload (analyzed : Analyzed) (functionName indent : String)
    (lines : List String) : Prop :=
  ∃ specifier qualifier statement,
    (specifier, qualifier) =
      (if analyzed.command.owner.isSome then ("", " const") else ("inline ", "")) ∧
    lines = guarded analyzed.command.guard
      [s!"{indent}{specifier}{analyzed.command.returnType} {functionName}" ++
          parenthesized ((ownArguments analyzed.command).map Member.declaration) ++ qualifier,
        indent ++ "\x7b", indent ++ "  " ++ statement, indent ++ "\x7d"] ∧
    ∃ values, Statement.InSomeLine (nativeCommand analyzed.name ++ parenthesized values) [statement]

/-- The enhanced overload: its signature, and a body with native calls of the command. -/
def IsEnhancedOverload (spec : Spec) (analyzed : Analyzed)
    (className functionName indent : String) (lines : List String) : Prop :=
  ∃ signature body, signatureOf spec analyzed functionName = .ok signature ∧
    bodyOf spec.wrapped analyzed (qualifiedName className functionName) = .ok body ∧
    lines = guarded analyzed.command.guard (signature.lines indent ++ [indent ++ "\x7b"] ++
      Statement.linesOfAll (indent ++ "  ") body ++ [indent ++ "\x7d"]) ∧
    Statement.callsOfAll body ≠ [] ∧
    ∀ call ∈ Statement.callsOfAll body, ∃ values,
      call.text = nativeCommand analyzed.name ++ parenthesized values ∧
        Statement.InSomeLine call.text lines

/-- Both overloads of a command, the standard one in front.  Programs that do without the
enhanced one see the standard one, and other programs both if the command has pointers. -/
def HoldsOverloads (spec : Spec) (analyzed : Analyzed) (className functionName indent : String)
    (block : List String) : Prop :=
  ∃ standard enhanced, IsStandardOverload analyzed functionName indent standard ∧
    IsEnhancedOverload spec analyzed className functionName indent enhanced ∧
    block = (if analyzed.roles.hasPointers then standard
        else ["#ifdef VKCPP_DISABLE_ENHANCED_MODE"] ++ standard ++
          ["#endif /*!VKCPP_DISABLE_ENHANCED_MODE*/"]) ++
      ["", "#ifndef VKCPP_DISABLE_ENHANCED_MODE"] ++ enhanced ++
      ["#endif /*VKCPP_DISABLE_ENHANCED_MODE*/"]

section Overloads

variable {spec : Spec} {analyzed : Analyzed} {className functionName indent : String}
  {block lines : List String}

theorem isStandardOverload_standardLines (wrapped : NameSet) (analyzed : Analyzed)
    (functionName indent : String) :
    IsStandardOverload analyzed functionName indent
      (standardLines wrapped analyzed.name functionName indent analyzed.command) := by
  obtain ⟨front, back, hstatement⟩ :=
    exists_standardStatement wrapped analyzed.name analyzed.command
  refine ⟨if analyzed.command.isMethod then "" else "inline ",
    if analyzed.command.isMethod then " const" else "",
    standardStatement wrapped analyzed.name analyzed.command, ?_, ?_,
    (standardCall wrapped analyzed.name analyzed.command).values.map PassedValue.text, ?_⟩
  · unfold Command.isMethod
    split <;> rfl
  · simp only [standardLines, standardHeader, openBrace, closeBrace, toString, String.append_assoc]
  · rw [hstatement]
    exact Statement.inSomeLine_around front _ back

theorem isEnhancedOverload_enhancedLines
    (h : enhancedLines spec analyzed className functionName indent = .ok lines) :
    IsEnhancedOverload spec analyzed className functionName indent lines := by
  obtain ⟨signature, body, hsignature, hbody, hlines⟩ := exists_isOverload h
  have hlines : lines = guarded analyzed.command.guard (signature.lines indent ++
      [indent ++ "\x7b"] ++ Statement.linesOfAll (indent ++ "  ") body ++ [indent ++ "\x7d"]) := by
    simpa only [List.append_assoc, openBrace, closeBrace] using hlines
  refine ⟨signature, body, hsignature, hbody, hlines, ?_, fun call hcall => ?_⟩
  · exact List.ne_nil_of_mem (query_mem_calls spec.wrapped hbody)
  · obtain ⟨step, rfl⟩ := exists_step_of_mem_calls spec.wrapped hbody hcall
    refine ⟨_, rfl, ?_⟩
    have hinner := Statement.inSomeLine_of_mem_callsOfAll (indent ++ "  ") body hcall
    refine hinner.mono fun line hline => ?_
    rw [hlines]
    exact mem_guarded (by simp [hline])

theorem holdsOverloads_of_overloadLines
    (h : overloadLines spec analyzed className functionName indent = .ok block) :
    HoldsOverloads spec analyzed className functionName indent block := by
  unfold overloadLines at h
  obtain ⟨enhanced, henhanced, h⟩ := bind_eq_ok_iff.1 h
  obtain rfl := Except.ok.inj h
  refine ⟨_, enhanced, isStandardOverload_standardLines spec.wrapped analyzed functionName indent,
    isEnhancedOverload_enhancedLines henhanced, ?_⟩
  unfold gatedStandardLines
  rfl

end Overloads

end VulkanBindings.Wrapper
