import Mathlib.Data.List.FinRange
import VulkanBindings.Proofs.Analysis.Counted
import VulkanBindings.Proofs.Text.Search

/-!
# The output is the only one and the last

The bindings return what a command writes to one of its parameters.  `Candidate` says which
parameters could be returned like this, without the order in which they are looked at: such a
parameter can be written through, counts nothing, and is no array whose length is only known
after the call.

Of two parameters that are written to, one would get lost if the other one is returned.  So the
first candidate is returned only if nothing after it can be written through, and the command is
refused otherwise.  `outputOf_meets` takes the search apart, and `output_sole_and_last` says
for each of its three outcomes which commands have it.
-/

namespace VulkanBindings.Analysis

open Registry (Command Fault)

variable {name : String} {command : Command} {arrays : Arrays command}
  {position first : Position command}

/-! ## What can be returned -/

/-- The type of the parameter has an asterisk and no `const`. -/
def Writable (position : Position command) : Prop :=
  ['*'] <:+: (argument position).type.toList ∧
    ¬ "const".toList <:+: (argument position).type.toList

/-- A parameter that could be returned. -/
structure Candidate (position : Position command) : Prop where
  writable : Writable position
  counts_nothing : ∀ array, ¬ CountedBy array position
  /-- If it is an array, its length is known before it is filled. -/
  length_known : (argument position).length = "" ∨ command.twoStep = true ∨
    command.successCodes.length = 1

/-- The first parameter that could be returned. -/
structure FirstCandidate (position : Position command) : Prop where
  candidate : Candidate position
  first : ∀ earlier < position, ¬ Candidate earlier

instance decidableWritable (position : Position command) : Decidable (Writable position) :=
  inferInstanceAs (Decidable (_ ∧ ¬ _))

instance decidableCandidate (position : Position command) : Decidable (Candidate position) :=
  decidable_of_iff (Writable position ∧ (∀ array, ¬ CountedBy array position) ∧
      ((argument position).length = "" ∨ command.twoStep = true ∨ command.successCodes.length = 1))
    ⟨fun ⟨writable, counts_nothing, length_known⟩ => ⟨writable, counts_nothing, length_known⟩,
      fun ⟨writable, counts_nothing, length_known⟩ => ⟨writable, counts_nothing, length_known⟩⟩

instance decidableFirstCandidate (position : Position command) :
    Decidable (FirstCandidate position) :=
  decidable_of_iff (Candidate position ∧ ∀ earlier < position, ¬ Candidate earlier)
    ⟨fun ⟨candidate, first⟩ => ⟨candidate, first⟩, fun ⟨candidate, first⟩ => ⟨candidate, first⟩⟩

theorem FirstCandidate.eq (h : FirstCandidate position) (hfirst : FirstCandidate first) :
    position = first := by
  rcases lt_trichotomy position first with hlt | heq | hlt
  · exact absurd h.candidate (hfirst.first position hlt)
  · exact heq
  · exact absurd hfirst.candidate (h.first first hlt)

theorem isWritable_iff : isWritable (argument position) = true ↔ Writable position := by
  unfold isWritable Writable Registry.Member.hasStar Registry.Member.mentionsConst
  rw [Bool.and_eq_true, Text.occurs_iff, Bool.not_eq_true', ← Bool.not_eq_true, Text.occurs_iff]
  rfl

theorem mem_countPositions_iff (harrays : arraysOf name command = .ok arrays) :
    position ∈ countPositions arrays ↔ ∃ array, CountedBy array position := by
  simp only [countedBy_iff_mem harrays, countPositions, List.mem_filterMap]
  constructor
  · rintro ⟨⟨array, named⟩, hmem, rfl⟩
    exact ⟨array, hmem⟩
  · rintro ⟨array, hmem⟩
    exact ⟨(array, some position), hmem, rfl⟩

theorem isOutput_iff (harrays : arraysOf name command = .ok arrays) :
    isOutput arrays position = true ↔ Candidate position := by
  have harray : isArray arrays position = false ↔ (argument position).length = "" := by
    rw [← Bool.not_eq_true, isArray, isSome_lookup_iff, mem_arrays_iff harrays, ne_eq, not_not]
  have hcounts : (countPositions arrays).contains position = false ↔
      ∀ array, ¬ CountedBy array position := by
    rw [← Bool.not_eq_true, List.contains_iff_mem, mem_countPositions_iff harrays, not_exists]
  unfold isOutput
  simp only [Bool.and_eq_true, Bool.or_eq_true, Bool.not_eq_true', beq_iff_eq, isWritable_iff,
    hcounts, harray, or_assoc]
  exact ⟨fun ⟨⟨hwritable, hcounts⟩, hlength⟩ => ⟨hwritable, hcounts, hlength⟩,
    fun ⟨hwritable, hcounts, hlength⟩ => ⟨⟨hwritable, hcounts⟩, hlength⟩⟩

/-! ## The search -/

/-- What is found among all positions is the first one with the property. -/
theorem find?_allPositions_eq_some_iff {p : Position command → Bool} :
    (allPositions command).find? p = some position ↔
      p position = true ∧ ∀ earlier < position, p earlier = false := by
  rw [allPositions, ← Fin.find?_eq_find?_finRange, Fin.find?_eq_some_iff]

theorem find?_isOutput_eq_some_iff (harrays : arraysOf name command = .ok arrays) :
    (allPositions command).find? (isOutput arrays) = some position ↔ FirstCandidate position := by
  rw [find?_allPositions_eq_some_iff, isOutput_iff harrays]
  simp only [← Bool.not_eq_true, isOutput_iff harrays]
  exact ⟨fun ⟨hcandidate, hfirst⟩ => ⟨hcandidate, hfirst⟩,
    fun ⟨hcandidate, hfirst⟩ => ⟨hcandidate, hfirst⟩⟩

/-- A fault names the first candidate and the next parameter that can be written through. -/
structure NamesOutputs (name : String) (fault : Fault) (first later : Position command) :
    Prop where
  first_candidate : FirstCandidate first
  lt : first < later
  writable : Writable later
  next : ∀ between, first < between → between < later → ¬ Writable between
  fault_eq : fault = .secondOutput name (argument later).name (argument first).name

/-- The search for the output of a command that has nothing else to return. -/
theorem outputOf_meets (harrays : arraysOf name command = .ok arrays)
    (hreturns : command.returnsResult = true ∨ command.returnsVoid = true) :
    Meets (outputOf name arrays)
      (fun output => match output with
        | none => ∀ position : Position command, ¬ Candidate position
        | some output => FirstCandidate output ∧ ∀ later, output < later → ¬ Writable later)
      fun fault => ∃ first later : Position command, NamesOutputs name fault first later := by
  unfold outputOf
  rw [Bool.or_eq_true_iff.2 hreturns, if_neg (by simp)]
  split
  · rename_i hnone
    intro position hcandidate
    have hnot := List.find?_eq_none.1 hnone position (List.mem_finRange position)
    exact hnot ((isOutput_iff harrays).2 hcandidate)
  · rename_i first hfound
    have hfirst := (find?_isOutput_eq_some_iff harrays).1 hfound
    dsimp only
    split
    · rename_i later hlater
      obtain ⟨hwritten, hbetween⟩ := find?_allPositions_eq_some_iff.1 hlater
      simp only [Bool.and_eq_true, decide_eq_true_eq, isWritable_iff] at hwritten
      refine ⟨first, later, hfirst, hwritten.1, hwritten.2, fun between hlt hbefore hwritable => ?_,
        rfl⟩
      have hnot := hbetween between hbefore
      simp [hlt, isWritable_iff.2 hwritable] at hnot
    · rename_i hnone
      refine ⟨hfirst, fun later hlt hwritable => ?_⟩
      have hnot := List.find?_eq_none.1 hnone later (List.mem_finRange later)
      simp [hlt, isWritable_iff.2 hwritable] at hnot

section Outcomes

variable (harrays : arraysOf name command = .ok arrays)
  (hreturns : command.returnsResult = true ∨ command.returnsVoid = true)

include harrays hreturns

theorem outputOf_eq_some_iff {output : Position command} :
    outputOf name arrays = .ok (some output) ↔
      FirstCandidate output ∧ ∀ later, output < later → ¬ Writable later := by
  have hmeets := outputOf_meets harrays hreturns
  refine ⟨fun hfound => hmeets.of_ok hfound, fun ⟨hfirst, hlast⟩ => ?_⟩
  cases hfound : outputOf name arrays with
  | ok found =>
    cases found with
    | none => exact absurd hfirst.candidate (hmeets.of_ok hfound output)
    | some other => rw [(hmeets.of_ok hfound).1.eq hfirst]
  | error fault =>
    obtain ⟨first, later, hnames⟩ := hmeets.of_error hfound
    obtain rfl := hnames.first_candidate.eq hfirst
    exact absurd hnames.writable (hlast later hnames.lt)

theorem outputOf_eq_none_iff :
    outputOf name arrays = .ok none ↔ ∀ position : Position command, ¬ Candidate position := by
  have hmeets := outputOf_meets harrays hreturns
  refine ⟨fun hfound => hmeets.of_ok hfound, fun hnone => ?_⟩
  cases hfound : outputOf name arrays with
  | ok found =>
    cases found with
    | none => rfl
    | some other => exact absurd (hmeets.of_ok hfound).1.candidate (hnone other)
  | error fault =>
    obtain ⟨first, later, hnames⟩ := hmeets.of_error hfound
    exact absurd hnames.first_candidate.candidate (hnone first)

/-- What can be returned is returned, unless the command is refused. -/
theorem eq_some_of_candidate {output : Option (Position command)}
    (hfound : outputOf name arrays = .ok output) (hcandidate : Candidate position) :
    output = some position := by
  have hmeets := (outputOf_meets harrays hreturns).of_ok hfound
  cases output with
  | none => exact absurd hcandidate (hmeets position)
  | some output =>
    obtain ⟨hfirst, hlast⟩ := hmeets
    rcases lt_trichotomy output position with hlt | heq | hlt
    · exact absurd hcandidate.writable (hlast position hlt)
    · rw [heq]
    · exact absurd hcandidate (hfirst.first position hlt)

theorem exists_error_of_later {later : Position command} (hfirst : FirstCandidate first)
    (hlt : first < later) (hwritable : Writable later) :
    ∃ fault, outputOf name arrays = .error fault := by
  have hmeets := outputOf_meets harrays hreturns
  cases hfound : outputOf name arrays with
  | ok found =>
    cases found with
    | none => exact absurd hfirst.candidate (hmeets.of_ok hfound first)
    | some other =>
      obtain ⟨hother, hlast⟩ := hmeets.of_ok hfound
      obtain rfl := hother.eq hfirst
      exact absurd hwritable (hlast later hlt)
  | error fault => exact ⟨fault, rfl⟩

end Outcomes

/-- The output of a command that returns nothing or a result code is a candidate with no other
one before it, and the last parameter that can be written through.  There is none just if there
is no candidate.  The command is refused just if something after the first candidate can be
written through, for no other reason, and the fault names the two parameters. -/
theorem output_sole_and_last (harrays : arraysOf name command = .ok arrays)
    (hreturns : command.returnsResult = true ∨ command.returnsVoid = true) :
    (∀ output : Position command, outputOf name arrays = .ok (some output) ↔
      Candidate output ∧ (∀ other : Position command, Writable other → other ≤ output) ∧
        ∀ earlier < output, ¬ Candidate earlier) ∧
    (outputOf name arrays = .ok none ↔ ∀ position : Position command, ¬ Candidate position) ∧
    ((∃ fault, outputOf name arrays = .error fault ∧
        fault.report.code = .invalidOutputParameter) ↔
      ∃ first later : Position command, FirstCandidate first ∧ first < later ∧ Writable later) ∧
    ∀ fault, outputOf name arrays = .error fault →
      ∃ first later : Position command, NamesOutputs name fault first later := by
  have herror := fun fault => (outputOf_meets harrays hreturns).of_error (e := fault)
  refine ⟨fun output => ?_, outputOf_eq_none_iff harrays hreturns, ?_, herror⟩
  · rw [outputOf_eq_some_iff harrays hreturns]
    constructor
    · rintro ⟨⟨hcandidate, hfirst⟩, hlast⟩
      exact ⟨hcandidate, fun other hother => Fin.not_lt.1 fun hlt => hlast other hlt hother, hfirst⟩
    · rintro ⟨hcandidate, hlast, hfirst⟩
      exact ⟨⟨hcandidate, hfirst⟩, fun later hlt hlater => Fin.not_lt.2 (hlast later hlater) hlt⟩
  · constructor
    · rintro ⟨fault, hfault, -⟩
      obtain ⟨first, later, hnames⟩ := herror fault hfault
      exact ⟨first, later, hnames.first_candidate, hnames.lt, hnames.writable⟩
    · rintro ⟨first, later, hfirst, hlt, hwritable⟩
      obtain ⟨fault, hfault⟩ := exists_error_of_later harrays hreturns hfirst hlt hwritable
      obtain ⟨_, _, hnames⟩ := herror fault hfault
      exact ⟨fault, hfault, by rw [hnames.fault_eq]; rfl⟩

/-- A command that lists layers, and perhaps writes to more parameters. -/
def sampleLayers (more : List Registry.Member) : Command where
  returnType := Registry.resultEnum
  arguments :=
    [⟨"uint32_t*", "pCount", "uint32_t", "", "", false⟩,
     ⟨"Layer*", "pLayers", "Layer", "", "pCount", false⟩] ++ more
  successCodes := [Registry.success, Registry.incomplete]
  guard := ""
  owner := none
  twoStep := true

/-- A parameter that a command writes its state to. -/
def sampleState : Registry.Member := ⟨"State*", "pState", "State", "", "", false⟩

/-- The count of the layers can be written through as well, but is no candidate, so that the
layers are returned.  If the command also writes its state, it is refused. -/
theorem layers_sole_and_last :
    (∃ arrays, arraysOf "enumerateLayers" (sampleLayers []) = .ok arrays ∧
      outputOf "enumerateLayers" arrays = .ok (some ⟨1, by decide⟩)) ∧
    ∃ arrays fault, arraysOf "enumerateLayers" (sampleLayers [sampleState]) = .ok arrays ∧
      outputOf "enumerateLayers" arrays = .error fault ∧
      fault.report.code = .invalidOutputParameter := by
  have hlayers : (arraysOf "enumerateLayers" (sampleLayers [])).toOption.any
      (fun _ => true) = true := by
    decide +kernel
  have hmore : (arraysOf "enumerateLayers" (sampleLayers [sampleState])).toOption.any
      (fun _ => true) = true := by
    decide +kernel
  obtain ⟨arrays, harrays, -⟩ := exists_of_any hlayers
  obtain ⟨moreArrays, hmoreArrays, -⟩ := exists_of_any hmore
  obtain ⟨hfound, -⟩ := output_sole_and_last harrays (.inl (by decide +kernel))
  obtain ⟨-, -, hrefused, -⟩ := output_sole_and_last hmoreArrays (.inl (by decide +kernel))
  obtain ⟨fault, hfault, hcode⟩ := hrefused.2 ⟨⟨1, by decide⟩, ⟨2, by decide⟩, by decide +kernel⟩
  exact ⟨⟨arrays, harrays, (hfound _).2 (by decide +kernel)⟩, moreArrays, fault, hmoreArrays,
    hfault, hcode⟩

end VulkanBindings.Analysis
