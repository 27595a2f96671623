import VulkanBindings.Proofs.Analysis.SoleOutput

/-!
# Separate roles

A caller of the bindings passes no counts, gets the output returned, and passes a container
for every other array.  This only works where these are different parameters.
`Roles.Separate` says so, and `separate_iff` which commands have it: a count must not have a
length of its own, which would make it an array, and a size in bytes, which is a count
although no array names it, must not be returned.
-/

namespace VulkanBindings.Analysis

open Registry (Command)

variable {name : String} {command : Command} {arrays : Arrays command}
  {counts : Counts command} {roles : Roles command} {array count size position : Position command}

/-- The parameters that are counts. -/
def Roles.allCounts (roles : Roles command) : List (Position command) :=
  roles.counts.map (·.1)

/-- The arrays that are not returned. -/
def Roles.inputs (roles : Roles command) : List (Position command) :=
  (roles.arrays.map (·.1)).filter (roles.output ≠ some ·)

/-- No parameter is two of a count, the output and an array that is not returned. -/
def Roles.Separate (roles : Roles command) : Prop :=
  [roles.allCounts, roles.output.toList, roles.inputs].Pairwise List.Disjoint

instance decidableSeparate (roles : Roles command) : Decidable roles.Separate :=
  inferInstanceAs (Decidable (List.Pairwise (fun left right : List (Position command) =>
    ∀ ⦃position⦄, position ∈ left → position ∈ right → False) _))

/-- The size in bytes of data that is counted in words: a parameter at a fixed position, if
the data is the only array. -/
structure SizesWords (array size : Position command) : Prop where
  words : (argument array).length ∈ halvedLengths
  alone : ∀ other : Position command, (argument other).length ≠ "" → other = array
  place : size.val = dataSizePosition

instance decidableSizesWords (array size : Position command) : Decidable (SizesWords array size) :=
  decidable_of_iff ((argument array).length ∈ halvedLengths ∧
      (∀ other : Position command, (argument other).length ≠ "" → other = array) ∧
      size.val = dataSizePosition)
    ⟨fun ⟨words, alone, place⟩ => ⟨words, alone, place⟩,
      fun ⟨words, alone, place⟩ => ⟨words, alone, place⟩⟩

/-! ## Arrays -/

/-- Where data in words has a size, it is the only array. -/
theorem SizesWords.arrays_eq (hsizes : SizesWords array size)
    (h : arraysOf name command = .ok arrays) : ∃ named, arrays = [(array, named)] := by
  have hlength : (argument array).length ≠ "" := by
    intro hempty
    have hwords := hsizes.words
    rw [hempty] at hwords
    exact absurd hwords (by decide)
  obtain ⟨⟨first, named⟩, hentry, rfl⟩ := List.mem_map.1 ((mem_arrays_iff h).2 hlength)
  have hall : ∀ entry ∈ arrays, entry.1 = first := fun entry hmem =>
    hsizes.alone entry.1 ((mem_arrays_iff h).1 (List.mem_map_of_mem hmem))
  have hsorted := pairwise_arraysOf h
  match arrays, hentry, hall, hsorted with
  | [entry], hentry, _, _ =>
    exact ⟨named, by rw [List.mem_singleton.1 hentry]⟩
  | entry :: later :: rest, _, hall, hsorted =>
    have hlt := List.rel_of_pairwise_cons hsorted List.mem_cons_self
    rw [hall entry (by simp), hall later (by simp)] at hlt
    exact absurd hlt (Fin.lt_irrefl first)

/-- If there is only one array, it decides whether there is such a size. -/
theorem sizesWords_iff {named : Option (Position command)} {other : Position command}
    (h : arraysOf name command = .ok [(array, named)]) :
    SizesWords other size ↔ other = array ∧ (argument array).length ∈ halvedLengths ∧
      size.val = dataSizePosition := by
  constructor
  · intro hsizes
    obtain ⟨_, hsame⟩ := hsizes.arrays_eq h
    obtain ⟨heq, -⟩ := List.cons.inj hsame
    obtain rfl := (Prod.mk.inj heq).1
    exact ⟨rfl, hsizes.words, hsizes.place⟩
  · rintro ⟨rfl, hwords, hplace⟩
    refine ⟨hwords, fun later hlater => ?_, hplace⟩
    simpa using (mem_arrays_iff h).2 hlater

/-! ## Counts -/

theorem isSome_lookup_namedCounts (h : arraysOf name command = .ok arrays) :
    ((namedCounts arrays).lookup count).isSome = true ↔ ∃ array, CountedBy array count := by
  rw [lookup_namedCounts, Option.isSome_map, List.find?_isSome]
  simp only [countedBy_iff_mem h, decide_eq_true_eq]
  constructor
  · rintro ⟨⟨array, named⟩, hmem, rfl⟩
    exact ⟨array, hmem⟩
  · rintro ⟨array, hmem⟩
    exact ⟨(array, some count), hmem, rfl⟩

theorem dataSize_eq_ok (h : dataSize name command = .ok size) :
    size.val = dataSizePosition ∧ (argument size).name = dataSizeName := by
  unfold dataSize at h
  split at h
  · split at h
    · rename_i hname
      obtain rfl := Except.ok.inj h
      exact ⟨rfl, beq_iff_eq.1 hname⟩
    · cases h
  · cases h

/-- The counts of a command with a size of data in words, and those of any other command. -/
theorem countsOf_eq_ok (harrays : arraysOf name command = .ok arrays)
    (hcounts : countsOf name arrays = .ok counts) :
    (∃ array size : Position command, SizesWords array size ∧
      (argument size).name = dataSizeName ∧
      counts = noteCount (namedCounts arrays) size array) ∨
    (∀ array size : Position command, ¬ SizesWords array size) ∧ counts = namedCounts arrays := by
  unfold countsOf at hcounts
  split at hcounts
  · rename_i array named
    split at hcounts
    · rename_i hwords
      obtain ⟨size, hsize, hcounts⟩ := bind_eq_ok_iff.1 hcounts
      obtain ⟨hplace, hname⟩ := dataSize_eq_ok hsize
      refine .inl ⟨array, size, (sizesWords_iff harrays).2 ⟨rfl, ?_, hplace⟩, hname, ?_⟩
      · exact List.contains_iff_mem.1 hwords
      · exact (Except.ok.inj hcounts).symm
    · rename_i hwords
      refine .inr ⟨fun other size hsizes => hwords ?_, (Except.ok.inj hcounts).symm⟩
      exact List.contains_iff_mem.2 ((sizesWords_iff harrays).1 hsizes).2.1
  · rename_i hnotOne
    refine .inr ⟨fun array size hsizes => ?_, (Except.ok.inj hcounts).symm⟩
    obtain ⟨named, hone⟩ := hsizes.arrays_eq harrays
    exact hnotOne array named hone

/-- A command has at most one size of data in words. -/
theorem SizesWords.unique {other otherSize : Position command} (h : SizesWords array size)
    (hother : SizesWords other otherSize) : otherSize = size :=
  Fin.ext (hother.place.trans h.place.symm)

/-- No array names this size. -/
theorem SizesWords.not_countedBy {other : Position command} (hsizes : SizesWords array size)
    (harrays : arraysOf name command = .ok arrays) (hcounts : countsOf name arrays = .ok counts) :
    ¬ CountedBy other size := by
  rintro ⟨hlength, hcount, -⟩
  obtain rfl := hsizes.alone other hlength
  obtain ⟨array, size, hsame, hname, -⟩ | ⟨hnone, -⟩ := countsOf_eq_ok harrays hcounts
  · obtain rfl := hsame.unique hsizes
    have hwords := hsizes.words
    rw [← hcount, hname] at hwords
    exact absurd hwords (by decide)
  · exact hnone other size hsizes

/-- The counts are what arrays name, and the size of data in words. -/
theorem isSome_lookup_counts_iff (harrays : arraysOf name command = .ok arrays)
    (hcounts : countsOf name arrays = .ok counts) :
    (counts.lookup count).isSome = true ↔
      (∃ array, CountedBy array count) ∨ ∃ array, SizesWords array count := by
  rw [← isSome_lookup_namedCounts harrays]
  obtain ⟨array, size, hsizes, -, rfl⟩ | ⟨hnone, rfl⟩ := countsOf_eq_ok harrays hcounts
  · rw [lookup_noteCount, Option.isSome_or, Bool.or_eq_true]
    refine or_congr_right ?_
    by_cases heq : count = size
    · subst heq
      simpa using ⟨array, hsizes⟩
    · simp only [heq, if_false, Option.isSome_none, Bool.false_eq_true, false_iff]
      rintro ⟨other, hother⟩
      exact heq (hsizes.unique hother)
  · rw [or_iff_left]
    rintro ⟨array, hsizes⟩
    exact hnone array count hsizes

/-! ## The output -/

/-- A count that an array names is not the output. -/
theorem output_ne_of_countedBy (h : rolesOf name command = .ok roles)
    (hcounted : CountedBy array count) : roles.output ≠ some count := by
  obtain ⟨harrays, -, houtput⟩ := rolesOf_eq_ok h
  intro heq
  rw [heq] at houtput
  have hcandidate := (isOutput_iff harrays).1 (isOutput_of_outputOf houtput).2
  exact hcandidate.counts_nothing array hcounted

/-- The size of data in words is the output if it can be written through. -/
theorem output_eq_size_iff (h : rolesOf name command = .ok roles) (hsizes : SizesWords array size)
    (hlength : (argument size).length = "") : roles.output = some size ↔
      (command.returnsResult = true ∨ command.returnsVoid = true) ∧
        isWritable (argument size) = true := by
  obtain ⟨harrays, hcounts, houtput⟩ := rolesOf_eq_ok h
  constructor
  · intro heq
    rw [heq] at houtput
    obtain ⟨hreturns, hisOutput⟩ := isOutput_of_outputOf houtput
    exact ⟨hreturns, isWritable_iff.2 ((isOutput_iff harrays).1 hisOutput).writable⟩
  · rintro ⟨hreturns, hwritable⟩
    have hcandidate : Candidate size :=
      ⟨isWritable_iff.1 hwritable, fun _ => hsizes.not_countedBy harrays hcounts, .inl hlength⟩
    exact eq_some_of_candidate harrays hreturns houtput hcandidate

/-! ## Separate roles -/

theorem separate_iff_counts (harrays : arraysOf name command = .ok roles.arrays) :
    roles.Separate ↔ ∀ count, (roles.counts.lookup count).isSome = true →
      (argument count).length = "" ∧ roles.output ≠ some count := by
  have hinputs : ∀ position, position ∈ roles.inputs ↔
      (argument position).length ≠ "" ∧ roles.output ≠ some position := by
    intro position
    unfold Roles.inputs
    rw [List.mem_filter, mem_arrays_iff harrays, decide_eq_true_iff]
  have hpairs : roles.Separate ↔ (roles.allCounts.Disjoint roles.output.toList ∧
      roles.allCounts.Disjoint roles.inputs) ∧ roles.output.toList.Disjoint roles.inputs := by
    simp [Roles.Separate]
  -- The output is never among the arrays that are not returned.
  have houtput : roles.output.toList.Disjoint roles.inputs := by
    intro position hreturned hinput
    exact ((hinputs position).1 hinput).2 (Option.mem_toList.1 hreturned)
  rw [hpairs, and_iff_left houtput]
  simp only [List.disjoint_left, Option.mem_toList, hinputs, isSome_lookup_iff]
  constructor
  · rintro ⟨hreturned, hinput⟩ count hcount
    refine ⟨?_, hreturned hcount⟩
    by_contra hlength
    exact hinput hcount ⟨hlength, hreturned hcount⟩
  · intro hcount
    refine ⟨fun count hmem => (hcount count hmem).2, fun count hmem hinput => ?_⟩
    exact hinput.1 (hcount count hmem).1

/-- The roles of a command are separate exactly if no count that an array names is an array
itself, and a size of data in words is neither an array nor, where the command can return it,
written to. -/
theorem separate_iff (h : rolesOf name command = .ok roles) :
    roles.Separate ↔
      (∀ array count : Position command, CountedBy array count → (argument count).length = "") ∧
      ∀ array size : Position command, SizesWords array size → (argument size).length = "" ∧
        ¬ ((command.returnsResult = true ∨ command.returnsVoid = true) ∧
          isWritable (argument size) = true) := by
  obtain ⟨harrays, hcounts, -⟩ := rolesOf_eq_ok h
  rw [separate_iff_counts harrays]
  simp only [isSome_lookup_counts_iff harrays hcounts]
  constructor
  · intro hcount
    refine ⟨fun array count hcounted => (hcount count (.inl ⟨array, hcounted⟩)).1, ?_⟩
    intro array size hsizes
    obtain ⟨hlength, houtput⟩ := hcount size (.inr ⟨array, hsizes⟩)
    exact ⟨hlength, fun hwritten => houtput ((output_eq_size_iff h hsizes hlength).2 hwritten)⟩
  · rintro ⟨hnamed, hsized⟩ count (⟨array, hcounted⟩ | ⟨array, hsizes⟩)
    · exact ⟨hnamed array count hcounted, output_ne_of_countedBy h hcounted⟩
    · obtain ⟨hlength, hwritten⟩ := hsized array count hsizes
      exact ⟨hlength, fun houtput => hwritten ((output_eq_size_iff h hsizes hlength).1 houtput)⟩

/-- A command that writes words to a buffer, with the given type for the size of the words. -/
def sampleWriting (sizeType : String) : Command where
  returnType := Registry.voidType
  arguments :=
    [⟨"Buffer", "buffer", "Buffer", "", "", false⟩,
     ⟨"DeviceSize", "offset", "DeviceSize", "", "", false⟩,
     ⟨"uint32_t", "mode", "uint32_t", "", "", false⟩,
     ⟨sizeType, "dataSize", "size_t", "", "", false⟩,
     ⟨"const uint32_t*", "pData", "uint32_t", "", "dataSize/4", false⟩]
  successCodes := []
  guard := ""
  owner := none
  twoStep := false

/-- The roles are separate if the size is passed by value. -/
theorem writing_separate : ∃ roles, rolesOf "writeWords" (sampleWriting "size_t") = .ok roles ∧
    roles.counts.map (·.1.val) = [3] ∧ roles.Separate := by
  have hsample : (rolesOf "writeWords" (sampleWriting "size_t")).toOption.any
      (fun roles => decide (roles.counts.map (·.1.val) = [3])) = true := by
    decide +kernel
  obtain ⟨roles, hroles, hcounts⟩ := exists_of_any hsample
  exact ⟨roles, hroles, of_decide_eq_true hcounts, (separate_iff hroles).2 (by decide +kernel)⟩

/-- A command that reads blocks, whose array of sizes is in turn the length of an array. -/
def sampleBlocks : Command where
  returnType := Registry.voidType
  arguments :=
    [⟨"uint32_t", "blockCount", "uint32_t", "", "", false⟩,
     ⟨"const uint32_t*", "pSizes", "uint32_t", "", "blockCount", false⟩,
     ⟨"const uint8_t*", "pBytes", "uint8_t", "", "pSizes", false⟩]
  successCodes := []
  guard := ""
  owner := none
  twoStep := false

/-- A size passed by address is a count and the output.  An array that counts the elements of
another one is a count and an array. -/
theorem roles_not_separate :
    (∃ roles, rolesOf "writeWords" (sampleWriting "size_t*") = .ok roles ∧
      roles.counts.map (·.1.val) = [3] ∧ roles.output.map (·.val) = some 3 ∧ ¬ roles.Separate) ∧
    ∃ roles, rolesOf "readBlocks" sampleBlocks = .ok roles ∧
      roles.counts.map (·.1.val) = [0, 1] ∧ roles.inputs.map (·.val) = [1, 2] ∧
      ¬ roles.Separate := by
  have hwriting : (rolesOf "writeWords" (sampleWriting "size_t*")).toOption.any
      (fun roles => decide (roles.counts.map (·.1.val) = [3] ∧
        roles.output.map (·.val) = some 3 ∧ ¬ roles.Separate)) = true := by
    decide +kernel
  have hblocks : (rolesOf "readBlocks" sampleBlocks).toOption.any
      (fun roles => decide (roles.counts.map (·.1.val) = [0, 1] ∧
        roles.inputs.map (·.val) = [1, 2] ∧ ¬ roles.Separate)) = true := by
    decide +kernel
  obtain ⟨written, hwritten, hwriting⟩ := exists_of_any hwriting
  obtain ⟨read, hread, hblocks⟩ := exists_of_any hblocks
  exact ⟨⟨written, hwritten, of_decide_eq_true hwriting⟩, read, hread, of_decide_eq_true hblocks⟩

end VulkanBindings.Analysis
