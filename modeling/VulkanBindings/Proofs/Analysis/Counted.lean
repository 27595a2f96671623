import VulkanBindings.Analysis.Roles
import VulkanBindings.Proofs.Outcome

/-!
# Arrays and their counts

The length of an array names the parameter that counts its elements.  `CountedBy`
says what this means for the parameters of a command, and `mem_arraysOf` that the
analysis finds out just that, for all parameters with a length (`mem_arrays_iff`).
Every count that some array names is among the counts, with an array that it counts
(`exists_counted`).
-/

namespace VulkanBindings.Analysis

open Registry (Command)

variable {name : String} {command : Command} {arrays : Arrays command} {counts : Counts command}
  {array count position : Position command}

/-- The length of an array is the name of its count, the first parameter of this name. -/
def CountedBy (array count : Position command) : Prop :=
  (argument array).length ≠ "" ∧ (argument count).name = (argument array).length ∧
    ∀ earlier < count, (argument earlier).name ≠ (argument array).length

instance decidableCountedBy (array count : Position command) : Decidable (CountedBy array count) :=
  inferInstanceAs (Decidable (_ ∧ _ ∧ ∀ earlier < count, _))

/-! ## Arrays -/

theorem arrayAt_of_countedBy (h : CountedBy array count) :
    arrayAt name array = .ok (some (some count)) := by
  obtain ⟨hlength, hname, hearlier⟩ := h
  have hfound : command.arguments.findFinIdx? (·.name == (argument array).length) = some count := by
    rw [List.findFinIdx?_eq_some_iff]
    refine ⟨beq_iff_eq.2 hname, fun earlier hlt heq => ?_⟩
    exact hearlier earlier hlt (beq_iff_eq.1 heq)
  unfold arrayAt
  dsimp only
  rw [if_neg fun hempty => hlength (String.isEmpty_iff.1 hempty), hfound]

theorem countedBy_of_arrayAt (h : arrayAt name array = .ok (some (some count))) :
    CountedBy array count := by
  unfold arrayAt at h
  dsimp only at h
  split at h
  · cases h
  · rename_i hlength
    split at h
    · rename_i found hfound
      obtain rfl := Option.some.inj (Option.some.inj (Except.ok.inj h))
      obtain ⟨hname, hearlier⟩ := List.findFinIdx?_eq_some_iff.1 hfound
      refine ⟨fun hempty => hlength (String.isEmpty_iff.2 hempty), beq_iff_eq.1 hname, ?_⟩
      exact fun earlier hlt heq => hearlier earlier hlt (beq_iff_eq.2 heq)
    · split at h <;> cases h

/-- The arrays of a command are the parameters that are found to be arrays. -/
theorem mem_arraysOf (h : arraysOf name command = .ok arrays)
    {entry : Position command × Option (Position command)} :
    entry ∈ arrays ↔ arrayAt name entry.1 = .ok (some entry.2) := by
  unfold arraysOf at h
  obtain ⟨found, hfound, h⟩ := bind_eq_ok_iff.1 h
  obtain rfl := Except.ok.inj h
  have hentry : ∀ position, (arrayAt name position >>= fun form =>
      pure (form.map (position, ·))) = Except.ok (some entry) ↔
        position = entry.1 ∧ arrayAt name position = .ok (some entry.2) := by
    intro position
    rw [bind_eq_ok_iff]
    constructor
    · rintro ⟨form, hform, hentry⟩
      obtain ⟨count, rfl, rfl⟩ := Option.map_eq_some_iff.1 (Except.ok.inj hentry)
      exact ⟨rfl, hform⟩
    · rintro ⟨rfl, hform⟩
      exact ⟨some entry.2, hform, rfl⟩
  rw [List.mem_filterMap]
  simp only [id_eq, exists_eq_right, mem_of_mapM hfound, hentry]
  constructor
  · rintro ⟨position, -, rfl, hform⟩
    exact hform
  · intro hform
    exact ⟨entry.1, List.mem_finRange entry.1, rfl, hform⟩

/-- Every position is at most once among the arrays. -/
theorem lookup_arraysOf (h : arraysOf name command = .ok arrays)
    {entry : Option (Position command)} :
    arrays.lookup array = some entry ↔ (array, entry) ∈ arrays := by
  have hmem : ∀ found, arrays.lookup array = some found → (array, found) ∈ arrays := by
    intro found hfound
    obtain ⟨before, after, harrays, -⟩ := List.lookup_eq_some_iff.1 hfound
    rw [harrays]
    exact List.mem_append_right before List.mem_cons_self
  refine ⟨hmem entry, fun hentry => ?_⟩
  cases hfound : arrays.lookup array with
  | none =>
    have hnone := List.lookup_eq_none_iff.1 hfound (array, entry) hentry
    simp at hnone
  | some found =>
    have hsame := (mem_arraysOf h).1 (hmem found hfound)
    rw [(mem_arraysOf h).1 hentry] at hsame
    exact (Except.ok.inj hsame).symm

theorem countedBy_iff_mem (h : arraysOf name command = .ok arrays) :
    CountedBy array count ↔ (array, some count) ∈ arrays := by
  rw [mem_arraysOf h]
  exact ⟨arrayAt_of_countedBy, countedBy_of_arrayAt⟩

/-- Entries that belong to some positions come in the order of these. -/
theorem map_filterMap_sublist {positions : List (Position command)}
    {found : List (Option (Position command × Option (Position command)))}
    (h : List.Forall₂ (fun position entry => ∀ array ∈ entry, array.1 = position) positions found) :
    ((found.filterMap id).map (·.1)).Sublist positions := by
  induction h with
  | nil => exact .slnil
  | @cons position entry positions found hentry _ ih =>
    cases entry with
    | none => exact ih.cons position
    | some array =>
      obtain rfl := hentry array rfl
      exact ih.cons_cons array.1

/-- The arrays are in the order of the parameters. -/
theorem pairwise_arraysOf (h : arraysOf name command = .ok arrays) :
    arrays.Pairwise fun entry later => entry.1 < later.1 := by
  unfold arraysOf at h
  obtain ⟨found, hfound, h⟩ := bind_eq_ok_iff.1 h
  obtain rfl := Except.ok.inj h
  refine List.pairwise_map.1 (List.Pairwise.sublist (map_filterMap_sublist ?_)
    (List.pairwise_lt_finRange _))
  refine (forall₂_of_mapM hfound).imp fun position entry hentry => ?_
  obtain ⟨form, -, hentry⟩ := bind_eq_ok_iff.1 hentry
  obtain rfl := Except.ok.inj hentry
  rintro array harray
  obtain ⟨count, -, rfl⟩ := Option.map_eq_some_iff.1 harray
  rfl

theorem isSome_lookup_iff {α : Type} (rows : List (Position command × α)) :
    (rows.lookup position).isSome = true ↔ position ∈ rows.map (·.1) := by
  induction rows with
  | nil => simp
  | cons row rows ih =>
    obtain ⟨key, value⟩ := row
    rw [Table.lookup_cons, List.map_cons, List.mem_cons, ← ih]
    by_cases heq : position = key
    · simp [heq]
    · simp [heq]

theorem arrayAt_meets (name : String) (position : Position command) :
    Meets (arrayAt name position)
      (fun form => form.isSome = true ↔ (argument position).length ≠ "") fun _ => True := by
  unfold arrayAt
  dsimp only
  split
  · rename_i hempty
    simp [String.isEmpty_iff.1 hempty]
  · rename_i hlength
    have hne : (argument position).length ≠ "" := fun hempty =>
      hlength (String.isEmpty_iff.2 hempty)
    split
    · simp [hne]
    · split
      · simp [hne]
      · trivial

/-- The arrays are the parameters with a length. -/
theorem mem_arrays_iff (h : arraysOf name command = .ok arrays) :
    position ∈ arrays.map (·.1) ↔ (argument position).length ≠ "" := by
  have hat : ∃ form, arrayAt name position = .ok form := by
    unfold arraysOf at h
    obtain ⟨found, hfound, -⟩ := bind_eq_ok_iff.1 h
    obtain ⟨entry, -, hentry⟩ := exists_of_mem_mapM hfound (List.mem_finRange position)
    obtain ⟨form, hform, -⟩ := bind_eq_ok_iff.1 hentry
    exact ⟨form, hform⟩
  obtain ⟨form, hform⟩ := hat
  rw [← (arrayAt_meets name position).of_ok hform, List.mem_map]
  constructor
  · rintro ⟨entry, hentry, rfl⟩
    obtain rfl := Except.ok.inj (hform.symm.trans ((mem_arraysOf h).1 hentry))
    rfl
  · intro hsome
    obtain ⟨named, rfl⟩ := Option.isSome_iff_exists.1 hsome
    exact ⟨(position, named), (mem_arraysOf h).2 hform, rfl⟩

/-! ## Counts -/

theorem lookup_noteCount (counts : Counts command) (count array other : Position command) :
    (noteCount counts count array).lookup other =
      (counts.lookup other).or (if other = count then some array else none) := by
  have hlast : [(count, array)].lookup other = if other = count then some array else none :=
    Table.lookup_cons other count array []
  unfold noteCount
  split
  · rename_i hknown
    by_cases heq : other = count
    · subst heq
      obtain ⟨old, hold⟩ := Option.isSome_iff_exists.1 hknown
      rw [hold, Option.some_or]
    · rw [if_neg heq, Option.or_none]
  · rw [List.lookup_append, hlast]

/-- The array of a count is the first one that names it. -/
theorem lookup_namedCounts (arrays : Arrays command) (count : Position command) :
    (namedCounts arrays).lookup count =
      (arrays.find? fun entry => entry.2 = some count).map (·.1) := by
  unfold namedCounts
  suffices h : ∀ counts : Counts command,
      (arrays.foldl _ counts).lookup count = (counts.lookup count).or
        ((arrays.find? fun entry => entry.2 = some count).map (·.1)) from h []
  induction arrays with
  | nil =>
    intro counts
    exact (Option.or_none).symm
  | cons entry arrays ih =>
    intro counts
    obtain ⟨array, named⟩ := entry
    rw [List.foldl_cons, ih, List.find?_cons]
    cases named with
    | none => rfl
    | some named =>
      dsimp only
      rw [lookup_noteCount, Option.or_assoc]
      by_cases heq : count = named
      · subst heq
        simp
      · have hne : named ≠ count := Ne.symm heq
        simp [heq, hne]

/-- The sizes of data counted in words add to the counts and replace none. -/
theorem lookup_countsOf (h : countsOf name arrays = .ok counts) {sized : Position command}
    (hnamed : (namedCounts arrays).lookup count = some sized) :
    counts.lookup count = some sized := by
  unfold countsOf at h
  split at h
  · split at h
    · obtain ⟨size, -, h⟩ := bind_eq_ok_iff.1 h
      obtain rfl := Except.ok.inj h
      rw [lookup_noteCount, hnamed, Option.some_or]
    · rw [← Except.ok.inj h]
      exact hnamed
  · rw [← Except.ok.inj h]
    exact hnamed

/-- What some array names as its count is a count, with the first array that names it. -/
theorem exists_counted (harrays : arraysOf name command = .ok arrays)
    (hcounts : countsOf name arrays = .ok counts) (hcounted : CountedBy array count) :
    ∃ sized, counts.lookup count = some sized ∧ CountedBy sized count ∧
      ∀ other, CountedBy other count → sized ≤ other := by
  obtain ⟨⟨sized, named⟩, hfound⟩ : ∃ entry,
      (arrays.find? fun entry => entry.2 = some count) = some entry := by
    refine Option.isSome_iff_exists.1 (List.find?_isSome.2 ?_)
    exact ⟨_, (countedBy_iff_mem harrays).1 hcounted, decide_eq_true rfl⟩
  obtain ⟨hnamed, before, after, hsplit, hbefore⟩ := List.find?_eq_some_iff_append.1 hfound
  obtain rfl : named = some count := of_decide_eq_true hnamed
  have hsorted := pairwise_arraysOf harrays
  rw [hsplit] at hsorted
  obtain ⟨hafter, -⟩ := List.pairwise_cons.1 (List.pairwise_append.1 hsorted).2.1
  refine ⟨sized, lookup_countsOf hcounts ?_, ?_, fun other hother => ?_⟩
  · rw [lookup_namedCounts, hfound]
    rfl
  · exact (countedBy_iff_mem harrays).2 (List.mem_of_find?_eq_some hfound)
  · rw [countedBy_iff_mem harrays, hsplit] at hother
    rcases List.mem_append.1 hother with hother | hother
    · have hnot := hbefore _ hother
      simp at hnot
    · rcases List.mem_cons.1 hother with heq | hother
      · exact Fin.le_of_eq (Prod.mk.inj heq).1.symm
      · exact Fin.le_of_lt (hafter _ hother)

/-- A count belongs to the first array that it counts. -/
theorem lookup_counts_iff (harrays : arraysOf name command = .ok arrays)
    (hcounts : countsOf name arrays = .ok counts) (hcounted : CountedBy array count) :
    counts.lookup count = some array ↔ ∀ earlier < array, ¬ CountedBy earlier count := by
  obtain ⟨sized, hlookup, hsized, hleast⟩ := exists_counted harrays hcounts hcounted
  rw [hlookup, Option.some_inj]
  constructor
  · rintro rfl earlier hlt hearlier
    exact Fin.not_le.2 hlt (hleast earlier hearlier)
  · intro hfirst
    refine Fin.le_antisymm (hleast array hcounted) (Fin.not_lt.1 fun hlt => ?_)
    exact hfirst sized hlt hsized

/-! ## All roles -/

/-- The parts of an analysis, each from its own function. -/
theorem rolesOf_eq_ok {roles : Roles command} (h : rolesOf name command = .ok roles) :
    arraysOf name command = .ok roles.arrays ∧ countsOf name roles.arrays = .ok roles.counts ∧
      outputOf name roles.arrays = .ok roles.output := by
  unfold rolesOf at h
  obtain ⟨arrays, harrays, h⟩ := bind_eq_ok_iff.1 h
  obtain ⟨counts, hcounts, h⟩ := bind_eq_ok_iff.1 h
  obtain ⟨output, houtput, h⟩ := bind_eq_ok_iff.1 h
  obtain ⟨buffer, -, h⟩ := bind_eq_ok_iff.1 h
  obtain rfl := Except.ok.inj h
  exact ⟨harrays, hcounts, houtput⟩

theorem isOutput_of_outputOf {output : Position command}
    (h : outputOf name arrays = .ok (some output)) :
    (command.returnsResult = true ∨ command.returnsVoid = true) ∧
      isOutput arrays output = true := by
  unfold outputOf at h
  split at h
  · cases h
  · rename_i hreturns
    split at h
    · cases h
    · rename_i found hfound
      dsimp only at h
      split at h
      · cases h
      · obtain rfl := Option.some.inj (Except.ok.inj h)
        have hreturned : (command.returnsResult || command.returnsVoid) = true := by
          rwa [Bool.not_eq_true, Bool.not_eq_false'] at hreturns
        exact ⟨Bool.or_eq_true_iff.1 hreturned, List.find?_some hfound⟩

end VulkanBindings.Analysis
