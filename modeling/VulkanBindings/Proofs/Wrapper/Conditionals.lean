import VulkanBindings.Proofs.Outcome
import VulkanBindings.Proofs.Text.Search
import VulkanBindings.Wrapper.Lines

/-!
# Conditionals in lines of text

Conditionals are opened, divided and closed by lines of their own.  Reading lines keeps the
list of open conditionals, and lines are well nested if reading them succeeds and leaves
nothing open.

What is open outside of well-nested lines makes no difference to them
(`WellNested.foldlM_readLine`).  So they may be put one after another, and into a
conditional or one of its two branches.  For the same reason they are compiled as they are
wherever all conditions around them hold, and left out anywhere else
(`WellNested.compiled_append`).
-/

namespace VulkanBindings.Wrapper

/-! ## Directives -/

/-- What a line does to conditionals. -/
inductive Directive where
  | opening
  | middle
  | closing
  deriving DecidableEq

/-- What a line does to conditionals, if it is not an ordinary one. -/
def directive? (line : String) : Option Directive :=
  if Text.beginsWith "#if" line then some .opening
  else if Text.beginsWith "#else" line then some .middle
  else if Text.beginsWith "#endif" line then some .closing
  else none

/-- Whether a line is none of the preprocessor's. -/
def IsCode (line : String) : Prop :=
  line.toList.head? ≠ some '#'

/-- Whether a text begins with a blank, as an indentation does. -/
def Indents (indent : String) : Prop :=
  indent.toList.head? = some ' '

section Directives

variable {line start indent : String}

/-- A line with a start that has a first character begins with that character. -/
theorem head?_of_beginsWith {c : Char} (hstart : start.toList.head? = some c)
    (h : Text.beginsWith start line = true) : line.toList.head? = some c := by
  obtain ⟨rest, hrest⟩ := Text.beginsWith_iff.1 h
  rw [← hrest, List.head?_append, hstart]
  rfl

theorem IsCode.directive?_eq (h : IsCode line) : directive? line = none := by
  have hstart : ∀ start : String, start.toList.head? = some '#' →
      ¬Text.beginsWith start line = true := by
    intro start hstart hbegins
    exact h (head?_of_beginsWith hstart hbegins)
  unfold directive?
  rw [if_neg (hstart "#if" rfl), if_neg (hstart "#else" rfl), if_neg (hstart "#endif" rfl)]

theorem Indents.append (h : Indents indent) (rest : String) : Indents (indent ++ rest) := by
  unfold Indents at h ⊢
  rw [String.toList_append, List.head?_append, h]
  rfl

/-- Indented lines are not the preprocessor's. -/
theorem Indents.isCode (h : Indents indent) : IsCode indent := by
  unfold IsCode Indents at *
  rw [h]
  decide

end Directives

/-! ## Reading -/

/-- The open conditionals after a line, the innermost first, if the line may stand there.
A conditional is marked once it is in its second branch. -/
def readLine (opened : List Bool) (line : String) : Option (List Bool) :=
  match directive? line, opened with
  | none, opened => some opened
  | some .opening, opened => some (false :: opened)
  | some .middle, false :: outer => some (true :: outer)
  | some .closing, _ :: outer => some outer
  | some _, _ => none

/-- Reading the lines never fails and leaves nothing open. -/
def WellNested (lines : List String) : Prop :=
  lines.foldlM readLine [] = some []

instance decidableWellNested (lines : List String) : Decidable (WellNested lines) :=
  inferInstanceAs (Decidable (_ = _))

section Reading

variable {line first last : String} {lines before after body : List String}
  {opened next below : List Bool}

/-- A line that can be read does not depend on what is open around it. -/
theorem readLine_append (h : readLine opened line = some next) (below : List Bool) :
    readLine (opened ++ below) line = some (next ++ below) := by
  unfold readLine at h ⊢
  cases hdirective : directive? line with
  | none =>
    rw [hdirective] at h
    obtain rfl := Option.some.inj h
    rfl
  | some directive =>
    rw [hdirective] at h
    cases directive with
    | opening =>
      obtain rfl := Option.some.inj h
      rfl
    | middle =>
      match opened, h with
      | false :: outer, h =>
        obtain rfl := Option.some.inj h
        rfl
    | closing =>
      match opened, h with
      | _ :: outer, h =>
        obtain rfl := Option.some.inj h
        rfl

theorem foldlM_readLine_append (h : lines.foldlM readLine opened = some next)
    (below : List Bool) : lines.foldlM readLine (opened ++ below) = some (next ++ below) := by
  induction lines generalizing opened with
  | nil =>
    obtain rfl := Option.some.inj h
    rfl
  | cons line lines ih =>
    rw [List.foldlM_cons] at h ⊢
    obtain ⟨middle, hline, hrest⟩ := Option.bind_eq_some_iff.1 h
    rw [readLine_append hline below]
    exact ih hrest

namespace WellNested

/-- Well-nested lines leave what is open as it is. -/
theorem foldlM_readLine (h : WellNested lines) (opened : List Bool) :
    lines.foldlM readLine opened = some opened :=
  foldlM_readLine_append h opened

theorem nil : WellNested [] := rfl

theorem append (hbefore : WellNested before) (hafter : WellNested after) :
    WellNested (before ++ after) := by
  unfold WellNested
  rw [List.foldlM_append, hbefore.foldlM_readLine]
  exact hafter

theorem flatten {blocks : List (List String)} (h : ∀ block ∈ blocks, WellNested block) :
    WellNested blocks.flatten := by
  induction blocks with
  | nil => exact nil
  | cons block blocks ih =>
    rw [List.flatten_cons]
    have hrest := ih fun other hother => h other (List.mem_cons_of_mem _ hother)
    exact (h block List.mem_cons_self).append hrest

/-- Lines without directives. -/
theorem of_isCode (h : ∀ line ∈ lines, IsCode line) : WellNested lines := by
  induction lines with
  | nil => exact nil
  | cons line lines ih =>
    have hline : readLine [] line = some [] := by
      unfold readLine
      rw [(h line List.mem_cons_self).directive?_eq]
    unfold WellNested
    rw [List.foldlM_cons, hline]
    exact ih fun other hother => h other (List.mem_cons_of_mem _ hother)

/-- A conditional around well-nested lines. -/
theorem conditional (hfirst : directive? first = some .opening)
    (hlast : directive? last = some .closing) (h : WellNested body) :
    WellNested (first :: body ++ [last]) := by
  have hopen : readLine [] first = some [false] := by
    unfold readLine
    rw [hfirst]
  have hclose : readLine [false] last = some [] := by
    unfold readLine
    rw [hlast]
  unfold WellNested
  rw [List.cons_append, List.foldlM_cons, hopen]
  show (body ++ [last]).foldlM readLine [false] = some []
  rw [List.foldlM_append, h.foldlM_readLine]
  show [last].foldlM readLine [false] = some []
  rw [List.foldlM_cons, hclose]
  rfl

/-- A conditional with two branches, both of which are well nested. -/
theorem alternative {other : List String} (hfirst : directive? first = some .opening)
    (hlast : directive? last = some .closing) (h : WellNested body) (hother : WellNested other) :
    WellNested ([first] ++ body ++ ["#else"] ++ other ++ [last]) := by
  have hopen : readLine [] first = some [false] := by
    unfold readLine
    rw [hfirst]
  have hclose : readLine [true] last = some [] := by
    unfold readLine
    rw [hlast]
  unfold WellNested
  simp only [List.foldlM_append, List.foldlM_cons, List.foldlM_nil, hopen, Option.bind_eq_bind,
    Option.bind_some, h.foldlM_readLine, Option.pure_def]
  have hmiddle : readLine [false] "#else" = some [true] := by decide
  rw [hmiddle]
  simp only [Option.bind_some, hother.foldlM_readLine, hclose]

end WellNested

end Reading

/-! ## Compilation -/

/-- Whether the condition of an opening line holds where the given macros are defined.  The
line asks for a macro that is defined, or for one that is not. -/
def holds (defined : String → Bool) (line : String) : Bool :=
  match Text.Chars.after? "#ifdef ".toList line.toList with
  | some name => defined (String.ofList name)
  | none =>
    match Text.Chars.after? "#ifndef ".toList line.toList with
    | some name => !defined (String.ofList name)
    | none => false

/-- Which of the open conditionals hold after a line, the innermost first. -/
def conditionsAfter (defined : String → Bool) (conditions : List Bool) (line : String) :
    List Bool :=
  match directive? line with
  | none => conditions
  | some .opening => holds defined line :: conditions
  | some .middle => conditions.modifyHead (!·)
  | some .closing => conditions.tail

/-- The lines that are compiled where the given macros are defined: those without directives
that stand where all conditions hold. -/
def compiled (defined : String → Bool) (conditions : List Bool) : List String → List String
  | [] => []
  | line :: lines =>
    let rest := compiled defined (conditionsAfter defined conditions line) lines
    if directive? line = none ∧ conditions.all id = true then line :: rest else rest

section Compilation

variable {defined : String → Bool} {line first last : String}
  {lines before after body : List String}
  {opened next inner outer conditions : List Bool}

theorem compiled_append (before after : List String) (conditions : List Bool) :
    compiled defined conditions (before ++ after) = compiled defined conditions before ++
      compiled defined (before.foldl (conditionsAfter defined) conditions) after := by
  induction before generalizing conditions with
  | nil => rfl
  | cons line before ih =>
    rw [List.cons_append, compiled, compiled, ih, List.foldl_cons]
    split <;> rfl

/-- A line that can be read changes the same conditions as it opens and closes. -/
theorem conditionsAfter_append (defined : String → Bool)
    (h : readLine opened line = some next) (hlength : inner.length = opened.length)
    (outer : List Bool) :
    conditionsAfter defined (inner ++ outer) line = conditionsAfter defined inner line ++ outer ∧
      (conditionsAfter defined inner line).length = next.length := by
  unfold readLine at h
  unfold conditionsAfter
  cases hdirective : directive? line with
  | none =>
    rw [hdirective] at h
    obtain rfl := Option.some.inj h
    exact ⟨rfl, hlength⟩
  | some directive =>
    rw [hdirective] at h
    cases directive with
    | opening =>
      obtain rfl := Option.some.inj h
      exact ⟨rfl, by simp [hlength]⟩
    | middle =>
      match opened, inner, h, hlength with
      | false :: _, _ :: _, h, hlength =>
        obtain rfl := Option.some.inj h
        exact ⟨rfl, hlength⟩
    | closing =>
      match opened, inner, h, hlength with
      | _ :: _, _ :: _, h, hlength =>
        obtain rfl := Option.some.inj h
        exact ⟨rfl, Nat.succ.inj hlength⟩

theorem foldl_conditionsAfter_append (defined : String → Bool)
    (h : lines.foldlM readLine opened = some next) (hlength : inner.length = opened.length)
    (outer : List Bool) :
    ∃ reached, reached.length = next.length ∧
      lines.foldl (conditionsAfter defined) (inner ++ outer) = reached ++ outer ∧
      compiled defined (inner ++ outer) lines =
        if outer.all id = true then compiled defined inner lines else [] := by
  induction lines generalizing opened inner with
  | nil =>
    obtain rfl := Option.some.inj h
    exact ⟨inner, hlength, rfl, by simp [compiled]⟩
  | cons line lines ih =>
    rw [List.foldlM_cons] at h
    obtain ⟨middle, hline, hrest⟩ := Option.bind_eq_some_iff.1 h
    obtain ⟨hconditions, hmiddle⟩ := conditionsAfter_append defined hline hlength outer
    obtain ⟨reached, hreached, hfold, hcompiled⟩ := ih hrest hmiddle
    refine ⟨reached, hreached, ?_, ?_⟩
    · rw [List.foldl_cons, hconditions, hfold]
    · rw [compiled, compiled, hconditions, hcompiled]
      by_cases houter : outer.all id = true
      · simp [houter]
      · simp [houter]

/-- Well-nested lines are compiled where they stand, or left out altogether. -/
theorem WellNested.compiled_append (h : WellNested before) (after : List String)
    (conditions : List Bool) :
    compiled defined conditions (before ++ after) =
      (if conditions.all id = true then compiled defined [] before else []) ++
        compiled defined conditions after := by
  have hempty : ([] : List Bool).length = ([] : List Bool).length := rfl
  obtain ⟨reached, hreached, hfold, hcompiled⟩ :=
    foldl_conditionsAfter_append defined h hempty conditions
  obtain rfl := List.length_eq_zero_iff.1 hreached
  rw [List.nil_append] at hfold hcompiled
  rw [Wrapper.compiled_append, hfold, hcompiled]

/-- A line without a directive is compiled where no conditional is open. -/
theorem compiled_cons (h : IsCode line) (lines : List String) :
    compiled defined [] (line :: lines) = line :: compiled defined [] lines := by
  have hline : directive? line = none := h.directive?_eq
  have hconditions : conditionsAfter defined [] line = [] := by
    unfold conditionsAfter
    rw [hline]
  rw [compiled, hconditions, if_pos ⟨hline, rfl⟩]

/-- Lines without directives are compiled as they are. -/
theorem compiled_of_isCode (h : ∀ line ∈ lines, IsCode line) :
    compiled defined [] lines = lines := by
  induction lines with
  | nil => rfl
  | cons line lines ih =>
    rw [compiled_cons (h line List.mem_cons_self),
      ih fun other hother => h other (List.mem_cons_of_mem _ hother)]

/-- What is in a conditional is compiled if its condition holds. -/
theorem compiled_conditional (hfirst : directive? first = some .opening)
    (hlast : directive? last = some .closing) (h : WellNested body) :
    compiled defined [] (first :: body ++ [last]) =
      if holds defined first = true then compiled defined [] body else [] := by
  have hopen : conditionsAfter defined [] first = [holds defined first] := by
    unfold conditionsAfter
    rw [hfirst]
  have hnone : compiled defined [holds defined first] [last] = [] := by
    rw [compiled, if_neg (by simp [hlast])]
    rfl
  rw [List.cons_append, compiled, hopen, h.compiled_append, hnone, if_neg (by simp [hfirst])]
  simp

end Compilation

/-! ## Guards -/

/-- Well-nested lines that are a conditional of their own if there is a guard: the first line
opens it for the guard, and the last one closes it and names the guard again. -/
structure UnderGuard (guard : String) (lines : List String) : Prop where
  nested : WellNested lines
  closed : guard ≠ "" → ∃ body, WellNested body ∧
    lines = s!"#ifdef {guard}" :: body ++ [s!"#endif /*{guard}*/"]

theorem directive?_ifdef (condition : String) :
    directive? s!"#ifdef {condition}" = some .opening := by
  simp [directive?, Text.beginsWith, Text.Chars.after?, toString]

theorem directive?_endif (remark : String) :
    directive? s!"#endif /*{remark}*/" = some .closing := by
  simp [directive?, Text.beginsWith, Text.Chars.after?, toString]

theorem holds_ifdef (defined : String → Bool) (name : String) :
    holds defined s!"#ifdef {name}" = defined name := by
  have hname : Text.Chars.after? "#ifdef ".toList s!"#ifdef {name}".toList = some name.toList := by
    rw [Text.Chars.after?_eq_some]
    simp [toString]
  unfold holds
  rw [hname]
  exact congrArg defined String.ofList_toList

theorem holds_ifndef (defined : String → Bool) (name : String) :
    holds defined s!"#ifndef {name}" = !defined name := by
  have hifdef : Text.Chars.after? "#ifdef ".toList s!"#ifndef {name}".toList = none := by
    simp [Text.Chars.after?, toString]
  have hname : Text.Chars.after? "#ifndef ".toList s!"#ifndef {name}".toList =
      some name.toList := by
    rw [Text.Chars.after?_eq_some]
    simp [toString]
  unfold holds
  rw [hifdef, hname]
  exact congrArg (fun name => !defined name) String.ofList_toList

/-- What is under a guard is compiled if the guard is defined. -/
theorem compiled_guarded {defined : String → Bool} {guard : String} {lines : List String}
    (h : WellNested lines) : compiled defined [] (guarded guard lines) =
      if guard = "" ∨ defined guard = true then compiled defined [] lines else [] := by
  unfold guarded
  by_cases hguard : guard = ""
  · simp [hguard]
  · have hempty : ¬guard.isEmpty = true := fun hempty => hguard (String.isEmpty_iff.1 hempty)
    rw [if_neg hempty, compiled_conditional (directive?_ifdef guard) (directive?_endif guard) h,
      holds_ifdef]
    simp [hguard]

/-- A guard leaves well-nested lines well nested. -/
theorem underGuard_guarded (guard : String) {lines : List String} (h : WellNested lines) :
    UnderGuard guard (guarded guard lines) := by
  unfold guarded
  split
  · rename_i hempty
    exact ⟨h, fun hguard => absurd (String.isEmpty_iff.1 hempty) hguard⟩
  · refine ⟨h.conditional ?_ ?_, fun _ => ⟨lines, h, rfl⟩⟩
    · exact directive?_ifdef guard
    · exact directive?_endif guard

end VulkanBindings.Wrapper
