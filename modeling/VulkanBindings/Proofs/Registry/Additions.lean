import VulkanBindings.Proofs.Naming.RoundTrip
import VulkanBindings.Proofs.Registry.Enumerators
import VulkanBindings.Proofs.Running

/-!
# Enumerators that are added one after the other

An enum that is kept as state can be asked for more enumerators after one of them has failed.
So it matters what a failure leaves behind.  `run_append` says what one addition does: it gets
an answer that has nothing to do with the members of the enum, and the enum gets the enumerator
if there is one.  By induction on the additions, `run_appendAll` says the same of any number of
them, whatever becomes of each.

The answer is a failure if the tag of the addition is missing, and there are two places where it
is looked for: the whole native name, and what is left of it without the stem of the enum
(`answer_of_absent`, `answer_of_cutOff`, `exists_answer`).
-/

namespace VulkanBindings.Registry

open Naming (between withoutStart)

/-- The tag of an addition is asked for and is not in the text. -/
def Addition.LacksTag (addition : Addition) (text : String) : Prop :=
  addition.tag ≠ "" ∧ ¬ addition.tag.toList <:+: text.toList

namespace Enumeration

variable {enumeration : Enumeration} {addition : Addition}

/-! ## One addition -/

/-- What becomes of an addition: the enumerator under its name, or the failure to name it. -/
def answer (enumeration : Enumeration) (addition : Addition) : Except Failure Enumerator :=
  (enumeration.nameOf addition.rawName addition.tag addition.appendTag).map
    (⟨·, addition.rawName⟩)

/-- The enum with the enumerators that were taken in. -/
def withAnswers (enumeration : Enumeration) (answers : List (Except Failure Enumerator)) :
    Enumeration :=
  { enumeration with members := enumeration.members ++ answers.filterMap (·.toOption) }

theorem withAnswers_nil (enumeration : Enumeration) : enumeration.withAnswers [] = enumeration := by
  unfold withAnswers
  rw [List.filterMap_nil, List.append_nil]

/-- An addition is answered, and leaves the enum as it was or with its enumerator behind the
members that it had. -/
theorem run_append (enumeration : Enumeration) (addition : Addition) :
    (append addition).run.run enumeration =
      (enumeration.answer addition, enumeration.withAnswers [enumeration.answer addition]) := by
  have hget : (get : ExceptT Failure (StateM Enumeration) Enumeration).run.run enumeration =
      (.ok enumeration, enumeration) := rfl
  unfold append answer
  rw [run_bind_ok hget]
  cases enumeration.nameOf addition.rawName addition.tag addition.appendTag with
  | ok name => rfl
  | error failure => exact congrArg (Prod.mk _) enumeration.withAnswers_nil.symm

/-- An addition is answered as if no other had been made to the enum before. -/
theorem answer_withAnswers (answers : List (Except Failure Enumerator)) :
    (enumeration.withAnswers answers).answer = enumeration.answer := rfl

theorem withAnswers_cons (answer : Except Failure Enumerator)
    (answers : List (Except Failure Enumerator)) :
    (enumeration.withAnswers [answer]).withAnswers answers =
      enumeration.withAnswers (answer :: answers) := by
  unfold withAnswers
  dsimp only
  rw [List.append_assoc, ← List.filterMap_append, List.singleton_append]

/-- Any number of additions: each has the answer that it has alone, and the enum has got what was
taken in. -/
theorem run_appendAll (enumeration : Enumeration) (additions : List Addition) :
    (appendAll additions).run enumeration =
      (additions.map enumeration.answer,
        enumeration.withAnswers (additions.map enumeration.answer)) := by
  unfold appendAll
  induction additions generalizing enumeration with
  | nil =>
    rw [List.map_nil, withAnswers_nil]
    rfl
  | cons addition additions ih =>
    rw [List.mapM_cons, List.map_cons, ← withAnswers_cons]
    show (let step := (append addition).run.run enumeration
      let rest := (additions.mapM fun addition => (append addition).run).run step.2
      (step.1 :: rest.1, rest.2)) = _
    rw [run_append]
    dsimp only
    rw [ih, answer_withAnswers]

/-! ## Answers -/

/-- A native name is refused if it lacks the tag. -/
theorem refused_iff (addition : Addition) :
    (!addition.tag.isEmpty && !Text.occurs addition.tag addition.rawName) = true ↔
      addition.LacksTag addition.rawName := by
  unfold Addition.LacksTag
  rw [Bool.and_eq_true, Bool.not_eq_true', Bool.not_eq_true', ← Bool.not_eq_true,
    ← Bool.not_eq_true, Text.occurs_iff, String.isEmpty_iff]

theorem answer_of_absent (h : addition.LacksTag addition.rawName) :
    enumeration.answer addition =
      .error (.registry (.tagAbsent addition.rawName addition.tag)) := by
  unfold answer nameOf
  dsimp only
  rw [if_pos ((refused_iff addition).2 h)]
  rfl

/-- A native name that has the tag only together with the stem of the enum cannot be cut. -/
theorem answer_of_cutOff (hname : ¬ addition.LacksTag addition.rawName)
    (hwords : addition.LacksTag (withoutStart enumeration.stem addition.rawName)) :
    enumeration.answer addition =
      .error (.text (.markerAbsent addition.rawName addition.tag)) := by
  unfold answer nameOf
  dsimp only
  rw [if_neg (mt (refused_iff addition).1 hname), Naming.between_of_absent hwords.1 hwords.2]
  rfl

/-- A tag that is still there without the stem of the enum is in the native name. -/
theorem lacksTag_withoutStart (stem : String) (h : addition.LacksTag addition.rawName) :
    addition.LacksTag (withoutStart stem addition.rawName) :=
  ⟨h.1, fun hpart => h.2 (hpart.trans (Naming.withoutStart_suffix _ _).isInfix)⟩

theorem exists_answer
    (h : ¬ addition.LacksTag (withoutStart enumeration.stem addition.rawName)) :
    ∃ name, enumeration.nameOf addition.rawName addition.tag addition.appendTag = .ok name ∧
      enumeration.answer addition = .ok ⟨name, addition.rawName⟩ := by
  have hwords : addition.tag = "" ∨
      addition.tag.toList <:+: (withoutStart enumeration.stem addition.rawName).toList :=
    Classical.or_iff_not_imp_left.2 fun htag => Classical.not_not.1 fun hnot => h ⟨htag, hnot⟩
  have hcarried : addition.tag = "" ∨ Text.occurs addition.tag addition.rawName = true :=
    hwords.imp_right fun hpart =>
      Text.occurs_iff.2 (hpart.trans (Naming.withoutStart_suffix _ _).isInfix)
  obtain ⟨words, hwords⟩ := Naming.exists_between hwords
  have hname := nameOf_of_between hcarried hwords addition.appendTag
  refine ⟨_, hname, ?_⟩
  unfold answer
  rw [hname]
  rfl

/-- There are three answers, by whether the native name lacks the tag, whole or without the stem
of the enum. -/
theorem answer_cases (enumeration : Enumeration) (addition : Addition) :
    (addition.LacksTag addition.rawName ∧
      addition.LacksTag (withoutStart enumeration.stem addition.rawName) ∧
      enumeration.answer addition =
        .error (.registry (.tagAbsent addition.rawName addition.tag))) ∨
    (¬ addition.LacksTag addition.rawName ∧
      addition.LacksTag (withoutStart enumeration.stem addition.rawName) ∧
      enumeration.answer addition =
        .error (.text (.markerAbsent addition.rawName addition.tag))) ∨
    (¬ addition.LacksTag addition.rawName ∧
      ¬ addition.LacksTag (withoutStart enumeration.stem addition.rawName) ∧
      ∃ name, enumeration.nameOf addition.rawName addition.tag addition.appendTag = .ok name ∧
        enumeration.answer addition = .ok ⟨name, addition.rawName⟩) := by
  by_cases hname : addition.LacksTag addition.rawName
  · exact .inl ⟨hname, lacksTag_withoutStart _ hname, answer_of_absent hname⟩
  · by_cases hwords : addition.LacksTag (withoutStart enumeration.stem addition.rawName)
    · exact .inr (.inl ⟨hname, hwords, answer_of_cutOff hname hwords⟩)
    · exact .inr (.inr ⟨hname, hwords, exists_answer hwords⟩)

/-- An enum that only grows takes in an enumerator as one that is kept as state does. -/
theorem add_eq_map_answer (enumeration : Enumeration) (addition : Addition) :
    enumeration.add addition.rawName addition.tag addition.appendTag =
      (enumeration.answer addition).map fun enumerator =>
        { enumeration with members := enumeration.members ++ [enumerator] } := by
  unfold add answer
  cases enumeration.nameOf addition.rawName addition.tag addition.appendTag <;> rfl

/-- When an addition fails and how, and what it does to the enum. -/
structure AnswersExactly (enumeration : Enumeration) (addition : Addition) : Prop where
  fails_iff : (∃ failure, enumeration.answer addition = .error failure) ↔
    addition.LacksTag (withoutStart enumeration.stem addition.rawName)
  invalidName_iff : enumeration.answer addition =
      .error (.registry (.tagAbsent addition.rawName addition.tag)) ↔
    addition.LacksTag addition.rawName
  code : (Fault.tagAbsent addition.rawName addition.tag).report.code = .invalidName
  cutOff_iff : enumeration.answer addition =
      .error (.text (.markerAbsent addition.rawName addition.tag)) ↔
    ¬ addition.LacksTag addition.rawName ∧
      addition.LacksTag (withoutStart enumeration.stem addition.rawName)
  untouched : ∀ failure, enumeration.answer addition = .error failure →
    (append addition).run.run enumeration = (.error failure, enumeration)
  taken : ∀ enumerator, enumeration.answer addition = .ok enumerator →
    enumerator.value = addition.rawName ∧
      enumeration.nameOf addition.rawName addition.tag addition.appendTag = .ok enumerator.name
  added : enumeration.add addition.rawName addition.tag addition.appendTag =
    (enumeration.answer addition).map fun enumerator =>
      { enumeration with members := enumeration.members ++ [enumerator] }

theorem answersExactly (enumeration : Enumeration) (addition : Addition) :
    enumeration.AnswersExactly addition where
  fails_iff := by
    rcases answer_cases enumeration addition with
      ⟨-, hwords, hanswer⟩ | ⟨-, hwords, hanswer⟩ | ⟨-, hwords, name, -, hanswer⟩ <;>
      simp [hwords, hanswer]
  invalidName_iff := by
    rcases answer_cases enumeration addition with
      ⟨hname, -, hanswer⟩ | ⟨hname, -, hanswer⟩ | ⟨hname, -, name, -, hanswer⟩ <;>
      simp [hname, hanswer]
  code := rfl
  cutOff_iff := by
    rcases answer_cases enumeration addition with
      ⟨hname, hwords, hanswer⟩ | ⟨hname, hwords, hanswer⟩ | ⟨hname, hwords, name, -, hanswer⟩ <;>
      simp [hname, hwords, hanswer]
  untouched := by
    intro failure hfailure
    rw [run_append, hfailure]
    exact congrArg (Prod.mk _) enumeration.withAnswers_nil
  taken := by
    intro enumerator htaken
    rcases answer_cases enumeration addition with
      ⟨-, -, hanswer⟩ | ⟨-, -, hanswer⟩ | ⟨-, -, name, hname, hanswer⟩
    · cases hanswer.symm.trans htaken
    · cases hanswer.symm.trans htaken
    · obtain rfl := Except.ok.inj (hanswer.symm.trans htaken)
      exact ⟨rfl, hname⟩
  added := enumeration.add_eq_map_answer addition

/-- Additions to an enum are answered each on its own, and the enum has all of its members after
them and then the enumerators that were taken in.  Nothing else of it changes. -/
theorem additions_atomic (start : Enumeration) :
    (∀ additions : List Addition, (appendAll additions).run start =
      (additions.map start.answer, { start with
        members := start.members ++ (additions.map start.answer).filterMap (·.toOption) })) ∧
    ∀ addition : Addition, start.AnswersExactly addition :=
  ⟨run_appendAll start, answersExactly start⟩

/-- Of three enumerators the first has its tag in the stem only, and the second not at all. -/
example : ((appendAll [⟨"VK_KHR_MODE_MAX", "KHR", true⟩, ⟨"VK_KHR_MODE_MIN_EXT", "NV", true⟩,
    ⟨"VK_KHR_MODE_MIN_EXT", "EXT", true⟩]).run (.bare false "VK_KHR_MODE_" "")).2.members =
      [⟨"eMinEXT", "VK_KHR_MODE_MIN_EXT"⟩] := by
  decide +kernel

end Enumeration

end VulkanBindings.Registry
