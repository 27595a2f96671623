import VulkanBindings.Proofs.Wrapper.Calls

/-!
# Asking for a count and then for the data

A command that lists what there is of something is called twice: with a null pointer in
place of the data, to find out how many there are, and again with a vector that is long
enough.  The count has no parameter in the wrapper and becomes a local.

`Statement.actionsOfAll` is what a wrapper does with the command and the vector, in
order, and `Statement.loopsOfAll` are the loops in which it does so.
`asks_then_fills` says that all such wrappers ask, resize and fill, and which of them
repeat this.

The calls find the value for the count by way of the first array with this count, which
need not be the vector.  `HandsOut` is the exact condition under which both calls get the
addresses of the locals (`passesLocals_iff`).
-/

namespace VulkanBindings.Wrapper

open Analysis (Analyzed CountedBy Position allPositions argument)
open Naming (reduced)
open Registry (Command Spec)

/-! ## What a wrapper does -/

/-- Something that is done with a native command or with a vector. -/
inductive Action where
  | call (made : NativeCall)
  | resize (array count : String)
  deriving DecidableEq

namespace Statement

mutual

/-- A statement and all statements that it holds, in order. -/
def flatten : Statement → List Statement
  | whenCounted count body => whenCounted count body :: flattenAll body
  | whileIncomplete body => whileIncomplete body :: flattenAll body
  | statement => [statement]

/-- All statements of a list and those that they hold. -/
def flattenAll : List Statement → List Statement
  | [] => []
  | first :: rest => flatten first ++ flattenAll rest

end

/-- What a statement does by itself. -/
def action? : Statement → Option Action
  | call made | returnCall made | keepStatus _ made => some (.call made)
  | resize array count => some (.resize array count)
  | _ => none

/-- What a loop repeats. -/
def loop? : Statement → Option (List Statement)
  | whileIncomplete body => some body
  | _ => none

/-- What is done by a list of statements, once through. -/
def actionsOfAll (body : List Statement) : List Action :=
  (flattenAll body).filterMap action?

/-- The loops in a list of statements. -/
def loopsOfAll (body : List Statement) : List (List Statement) :=
  (flattenAll body).filterMap loop?

theorem action?_of_isQuiet {statement : Statement} (h : statement.isQuiet = true) :
    statement.action? = none := by
  cases statement <;> first | rfl | cases h

theorem loop?_of_isQuiet {statement : Statement} (h : statement.isQuiet = true) :
    statement.loop? = none := by
  cases statement <;> first | rfl | cases h

theorem flatten_of_isQuiet {statement : Statement} (h : statement.isQuiet = true) :
    statement.flatten = [statement] := by
  cases statement <;> first | rfl | cases h

theorem flattenAll_append (body rest : List Statement) :
    flattenAll (body ++ rest) = flattenAll body ++ flattenAll rest := by
  induction body with
  | nil => rfl
  | cons first body ih => rw [List.cons_append, flattenAll, flattenAll, ih, List.append_assoc]

theorem flattenAll_of_isQuiet {body : List Statement}
    (h : ∀ statement ∈ body, statement.isQuiet = true) :
    flattenAll body = body := by
  induction body with
  | nil => rfl
  | cons first body ih =>
    rw [flattenAll, flatten_of_isQuiet (h first List.mem_cons_self), List.singleton_append,
      ih fun statement hmem => h statement (List.mem_cons_of_mem _ hmem)]

/-- Nothing is done by quiet statements. -/
theorem filterMap_flattenAll_of_isQuiet {α : Type} {f : Statement → Option α}
    {body : List Statement}
    (hf : ∀ statement, statement.isQuiet = true → f statement = none)
    (h : ∀ statement ∈ body, statement.isQuiet = true) :
    (flattenAll body).filterMap f = [] := by
  rw [flattenAll_of_isQuiet h, List.filterMap_eq_nil_iff]
  exact fun statement hmem => hf statement (h statement hmem)

end Statement

/-! ## The two calls -/

section Body

variable {name caller : String} {wrapped : NameSet} {analyzed : Analyzed} {body : List Statement}
  {output count : Position analyzed.command}

theorem actionsOfAll_twoCalls (wrapped : NameSet) (analyzed : Analyzed) (count : String) :
    Statement.actionsOfAll (twoCalls wrapped analyzed count) =
      [.call (enhancedCall wrapped analyzed .query), .resize (outputName analyzed) count,
        .call (enhancedCall wrapped analyzed .fill)] := by
  unfold twoCalls
  dsimp only
  split
  · split <;> rfl
  · split <;> rfl

/-- The calls are repeated by one loop, or not at all. -/
theorem loopsOfAll_twoCalls (wrapped : NameSet) (analyzed : Analyzed) (count : String) :
    (Statement.loopsOfAll (twoCalls wrapped analyzed count)).map Statement.actionsOfAll =
      if analyzed.command.returnsResult = true ∧ 1 < analyzed.command.successCodes.length then
        [Statement.actionsOfAll (twoCalls wrapped analyzed count)]
      else [] := by
  rw [actionsOfAll_twoCalls]
  unfold twoCalls
  dsimp only
  by_cases hresult : analyzed.command.returnsResult = true
  · rw [if_pos hresult]
    by_cases hcodes : 1 < analyzed.command.successCodes.length
    · rw [if_pos hcodes, if_pos ⟨hresult, hcodes⟩]
      rfl
    · rw [if_neg hcodes, if_neg fun h => hcodes h.2]
      rfl
  · have hnone : ¬ (analyzed.command.returnsResult = true ∧
        1 < analyzed.command.successCodes.length) := fun h => hresult h.1
    rw [if_neg hresult, if_neg hnone]
    split <;> rfl

/-- All that a body does is to make its calls. -/
theorem filterMap_bodyOf {α : Type} {f : Statement → Option α}
    (hf : ∀ statement, statement.isQuiet = true → f statement = none)
    (htwoStep : analyzed.command.twoStep = true) (h : bodyOf wrapped analyzed caller = .ok body)
    (hcount : queriedCount analyzed = .ok count) :
    (Statement.flattenAll body).filterMap f =
      (Statement.flattenAll (twoCalls wrapped analyzed
        (reduced (argument count).name))).filterMap f := by
  obtain ⟨locals, found, hlocals, hfound, rfl⟩ := bodyOf_eq_ok_of_twoStep htwoStep h
  obtain rfl := Except.ok.inj (hfound.symm.trans hcount)
  rw [Statement.flattenAll_append, Statement.flattenAll_append, List.filterMap_append,
    List.filterMap_append, Statement.flattenAll, List.filterMap_append,
    Statement.filterMap_flattenAll_of_isQuiet hf (isQuiet_preparation hlocals),
    Statement.filterMap_flattenAll_of_isQuiet hf isQuiet_returnStatements,
    Statement.flatten_of_isQuiet rfl, List.filterMap_cons_none (hf _ rfl), List.append_nil]
  rfl

/-- Only at the place of the output, the two calls pass something different. -/
theorem values_eq_of_ne (houtput : analyzed.roles.output = some output) {index : Nat}
    (hne : index ≠ output.val) :
    (enhancedCall wrapped analyzed .query).values[index]? =
      (enhancedCall wrapped analyzed .fill).values[index]? := by
  rw [getElem?_values, getElem?_values]
  split
  · rfl
  · refine Option.map_congr fun position hposition => ?_
    have hother : position ≠ output := by
      rintro rfl
      obtain ⟨hlt, hindex⟩ := List.getElem?_eq_some_iff.1 hposition
      exact hne (by simpa [allPositions] using congrArg Fin.val hindex)
    unfold enhancedValue arrayValue
    rw [houtput, decide_eq_false fun heq => hother (Option.some.inj heq).symm]
    rfl

/-! ## What the calls pass -/

theorem value_eq_iff (step : Step) {position : Position analyzed.command} {value : PassedValue}
    (hvalue : ∀ handle, value ≠ .ownHandle handle) :
    (enhancedCall wrapped analyzed step).values[position.val]? = some value ↔
      (analyzed.command.isMethod = true → position.val ≠ 0) ∧
        enhancedValue wrapped analyzed step position = value := by
  by_cases hposition : analyzed.command.isMethod = true → position.val ≠ 0
  · rw [value_of_enhancedCall wrapped step hposition, Option.some_inj]
    exact (and_iff_right hposition).symm
  · refine iff_of_false (fun heq => ?_) fun h => hposition h.1
    obtain ⟨hmethod, hzero⟩ := Classical.not_imp.1 hposition
    obtain ⟨handle, howner⟩ := Option.isSome_iff_exists.1 hmethod
    rw [getElem?_values, ownHandleValue, howner, Decidable.not_not.1 hzero] at heq
    exact hvalue handle (Option.some.inj heq).symm

/-- The count is passed by the address of its local just if the output is the first array
that it counts. -/
theorem enhancedValue_count_iff
    (hroles : Analysis.rolesOf name analyzed.command = .ok analyzed.roles)
    (htwoStep : analyzed.command.twoStep = true) (houtput : analyzed.roles.output = some output)
    (hcounted : CountedBy output count) (step : Step) :
    enhancedValue wrapped analyzed step count = .address (reduced (argument count).name) ↔
      ∀ earlier < output, ¬ CountedBy earlier count := by
  obtain ⟨harrays, hcounts, -⟩ := Analysis.rolesOf_eq_ok hroles
  obtain ⟨sized, hsized, -⟩ := Analysis.exists_counted harrays hcounts hcounted
  rw [← Analysis.lookup_counts_iff harrays hcounts hcounted, hsized]
  unfold enhancedValue countValue
  rw [hsized, houtput, htwoStep]
  by_cases hfirst : output = sized
  · simp [hfirst]
  · simp [hfirst, Ne.symm hfirst]

/-- The first call passes nothing for an output that is no count itself. -/
theorem enhancedValue_query_iff (htwoStep : analyzed.command.twoStep = true)
    (houtput : analyzed.roles.output = some output)
    (hlookup : analyzed.roles.arrays.lookup output = some (some count)) :
    enhancedValue wrapped analyzed .query output = .null ↔
      analyzed.roles.counts.lookup output = none := by
  unfold enhancedValue
  cases hcounts : analyzed.roles.counts.lookup output with
  | none => simp [hlookup, arrayValue, houtput, htwoStep]
  | some array =>
    refine iff_of_false ?_ (by simp)
    simp only [countValue]
    split <;> simp

/-- The second call passes the data of such an output, unless it takes it for a text. -/
theorem enhancedValue_fill_iff (hcounts : analyzed.roles.counts.lookup output = none)
    (hlookup : analyzed.roles.arrays.lookup output = some (some count)) :
    (enhancedValue wrapped analyzed .fill output).IsDataOf (reduced (argument output).name) ↔
      ((argument output).isText = true →
        (argument output).baseType ∈ wrapped ∨ analyzed.roles.buffer = some output) := by
  unfold enhancedValue arrayValue
  simp only [hcounts, hlookup, reduceCtorEq, decide_false, Bool.and_false, Bool.false_eq_true,
    if_false]
  by_cases hwrapped : (argument output).baseType ∈ wrapped
  · simp [hwrapped, PassedValue.IsDataOf]
  by_cases hbuffer : analyzed.roles.buffer = some output
  · simp [hwrapped, hbuffer, PassedValue.IsDataOf]
  rw [if_neg hwrapped, if_neg hbuffer]
  by_cases htext : (argument output).isText = true
  · rw [if_pos htext]
    refine iff_of_false ?_ fun h => (h htext).elim hwrapped hbuffer
    split <;> simp [PassedValue.IsDataOf]
  · rw [if_neg htext]
    exact iff_of_true rfl fun h => absurd h htext

/-- The calls pass the address of the local for the count, and a null pointer and then the
data of the vector for the output. -/
structure PassesLocals (query fill : NativeCall) {command : Command}
    (output count : Position command) : Prop where
  count_query : query.values[count.val]? = some (.address (reduced (argument count).name))
  count_fill : fill.values[count.val]? = some (.address (reduced (argument count).name))
  output_query : query.values[output.val]? = some .null
  output_fill : ∃ value, fill.values[output.val]? = some value ∧
    value.IsDataOf (reduced (argument output).name)

/-- The locals are at hand where the calls look for them. -/
structure HandsOut (wrapped : NameSet) (analyzed : Analyzed)
    (output count : Position analyzed.command) : Prop where
  /-- Neither of them stands for the handle of a method. -/
  not_handle : analyzed.command.isMethod = true → count.val ≠ 0 ∧ output.val ≠ 0
  /-- The output is the first array with the count. -/
  first : ∀ earlier < output, ¬ CountedBy earlier count
  /-- The output is no count. -/
  not_count : analyzed.roles.counts.lookup output = none
  /-- The output is not taken for a text. -/
  not_text : (argument output).isText = true →
    (argument output).baseType ∈ wrapped ∨ analyzed.roles.buffer = some output

theorem passesLocals_iff (hroles : Analysis.rolesOf name analyzed.command = .ok analyzed.roles)
    (htwoStep : analyzed.command.twoStep = true) (houtput : analyzed.roles.output = some output)
    (hcounted : CountedBy output count) :
    PassesLocals (enhancedCall wrapped analyzed .query) (enhancedCall wrapped analyzed .fill)
      output count ↔ HandsOut wrapped analyzed output count := by
  obtain ⟨harrays, -⟩ := Analysis.rolesOf_eq_ok hroles
  have hlookup := (Analysis.lookup_arraysOf harrays).2
    ((Analysis.countedBy_iff_mem harrays).1 hcounted)
  constructor
  · rintro ⟨hquery, -, hnull, value, hvalue, hdata⟩
    obtain ⟨hcountHandle, hquery⟩ := (value_eq_iff .query (by simp)).1 hquery
    obtain ⟨houtputHandle, hnull⟩ := (value_eq_iff .query (by simp)).1 hnull
    rw [value_of_enhancedCall wrapped .fill houtputHandle] at hvalue
    obtain rfl := Option.some.inj hvalue
    have hnotCount := (enhancedValue_query_iff htwoStep houtput hlookup).1 hnull
    exact ⟨fun hmethod => ⟨hcountHandle hmethod, houtputHandle hmethod⟩,
      (enhancedValue_count_iff hroles htwoStep houtput hcounted .query).1 hquery, hnotCount,
      (enhancedValue_fill_iff hnotCount hlookup).1 hdata⟩
  · rintro ⟨hhandle, hfirst, hnotCount, htext⟩
    have hcount : ∀ step, (enhancedCall wrapped analyzed step).values[count.val]? =
        some (.address (reduced (argument count).name)) := fun step =>
      (value_eq_iff step (by simp)).2 ⟨fun hmethod => (hhandle hmethod).1,
        (enhancedValue_count_iff hroles htwoStep houtput hcounted step).2 hfirst⟩
    have houtputHandle := fun hmethod => (hhandle hmethod).2
    exact ⟨hcount .query, hcount .fill,
      (value_eq_iff .query (by simp)).2
        ⟨houtputHandle, (enhancedValue_query_iff htwoStep houtput hlookup).2 hnotCount⟩,
      _, value_of_enhancedCall wrapped .fill houtputHandle,
      (enhancedValue_fill_iff hnotCount hlookup).2 htext⟩

end Body

section Overload

variable {spec : Spec} {name className functionName indent : String} {command : Command}
  {analyzed : Analyzed} {lines : List String}

/-- A command that is called twice fills an array with a count.  Its wrapper declares a local
for the count, asks, makes the vector as long as the count says and asks again; it repeats all
of this just if the command has a result code with several successes.  The calls differ only
in what they pass for the array, and get the locals if these are at hand. -/
theorem asks_then_fills (hanalyze : Analysis.analyze name command = .ok analyzed)
    (htwoStep : analyzed.command.twoStep = true)
    (hlines : enhancedLines spec analyzed className functionName indent = .ok lines) :
    ∃ signature body query fill, ∃ output count : Position analyzed.command,
      IsOverload spec analyzed className functionName indent lines signature body ∧
      analyzed.roles.output = some output ∧ CountedBy output count ∧
      (∃ before after, body = before ++
        .declare (argument count).baseType (reduced (argument count).name) none :: after ∧
        Statement.actionsOfAll before = []) ∧
      Statement.actionsOfAll body = [.call query,
        .resize (reduced (argument output).name) (reduced (argument count).name), .call fill] ∧
      (Statement.loopsOfAll body).map Statement.actionsOfAll =
        (if analyzed.command.returnsResult = true ∧ 1 < analyzed.command.successCodes.length then
          [Statement.actionsOfAll body] else []) ∧
      (∀ index ≠ output.val, query.values[index]? = fill.values[index]?) ∧
      (PassesLocals query fill output count ↔ HandsOut spec.wrapped analyzed output count) := by
  have hroles := rolesOf_of_analyze hanalyze
  obtain ⟨signature, body, hoverload⟩ := exists_isOverload hlines
  obtain ⟨locals, count, hlocals, hcount, hparts⟩ :=
    bodyOf_eq_ok_of_twoStep htwoStep hoverload.body_eq
  obtain ⟨output, houtput, hlookup⟩ := queriedCount_eq_ok hcount
  obtain ⟨harrays, -⟩ := Analysis.rolesOf_eq_ok hroles
  have hcounted : CountedBy output count :=
    (Analysis.countedBy_iff_mem harrays).2 ((Analysis.lookup_arraysOf harrays).1 hlookup)
  have hname : outputName analyzed = reduced (argument output).name := by
    rw [outputName, houtput]
  have htwoCalls := actionsOfAll_twoCalls spec.wrapped analyzed (reduced (argument count).name)
  have hactions : Statement.actionsOfAll body = Statement.actionsOfAll
      (twoCalls spec.wrapped analyzed (reduced (argument count).name)) :=
    filterMap_bodyOf (fun _ => Statement.action?_of_isQuiet) htwoStep hoverload.body_eq hcount
  have hloops : Statement.loopsOfAll body = Statement.loopsOfAll
      (twoCalls spec.wrapped analyzed (reduced (argument count).name)) :=
    filterMap_bodyOf (fun _ => Statement.loop?_of_isQuiet) htwoStep hoverload.body_eq hcount
  refine ⟨signature, body, _, _, output, count, hoverload, houtput, hcounted, ?_, ?_, ?_,
    fun index hne => values_eq_of_ne houtput hne, passesLocals_iff hroles htwoStep houtput hcounted⟩
  · refine ⟨_, _, hparts.trans (List.append_assoc _ _ _), ?_⟩
    exact Statement.filterMap_flattenAll_of_isQuiet (fun _ => Statement.action?_of_isQuiet)
      (isQuiet_preparation hlocals)
  · rw [hactions, htwoCalls, hname]
  · rw [hactions, hloops, loopsOfAll_twoCalls]

/-- A command that lists layers gets the locals. -/
theorem listing_asks_then_fills :
    ∃ analyzed lines signature body query fill, ∃ output count : Position analyzed.command,
      Analysis.analyze "enumerateLayers" (sampleListing ["eSuccess", "eIncomplete"]) =
        .ok analyzed ∧
      enhancedLines .initial analyzed "" "enumerateLayers" "  " = .ok lines ∧
      IsOverload .initial analyzed "" "enumerateLayers" "  " lines signature body ∧
      Statement.actionsOfAll body = [.call query,
        .resize (reduced (argument output).name) (reduced (argument count).name), .call fill] ∧
      Statement.loopsOfAll body ≠ [] ∧ PassesLocals query fill output count := by
  have hsample : (Analysis.rolesOf "enumerateLayers"
      (sampleListing ["eSuccess", "eIncomplete"])).toOption.any (fun roles =>
        (enhancedLines .initial ⟨"enumerateLayers", _, roles⟩ "" "enumerateLayers"
          "  ").toOption.any fun _ => roles.output == some ⟨1, by decide⟩ &&
            roles.counts.lookup ⟨1, by decide⟩ == none) = true := by
    decide +kernel
  obtain ⟨roles, lines, hanalyze, hlines, hroles⟩ := exists_lines_of_any hsample
  obtain ⟨hone, hnotCount⟩ := Bool.and_eq_true_iff.1 hroles
  obtain ⟨signature, body, query, fill, output, count, hoverload, houtput, -, -, hactions, hloops,
    -, hpasses⟩ := asks_then_fills hanalyze rfl hlines
  obtain rfl := Option.some.inj (houtput.symm.trans (beq_iff_eq.1 hone))
  have hfree : (sampleListing ["eSuccess", "eIncomplete"]).isMethod ≠ true := by decide
  have hnotText : (argument (⟨1, by decide⟩ : Position (sampleListing ["eSuccess",
      "eIncomplete"]))).isText ≠ true := by decide
  refine ⟨_, lines, signature, body, query, fill, _, count, hanalyze, hlines, hoverload, hactions,
    fun hnone => ?_, hpasses.2 ⟨(absurd · hfree), ?_, beq_iff_eq.1 hnotCount, (absurd · hnotText)⟩⟩
  · rw [hnone, if_pos ⟨rfl, Nat.one_lt_two⟩] at hloops
    cases hloops
  · intro earlier hlt hcounted
    obtain rfl : earlier = ⟨0, Nat.zero_lt_two⟩ := Fin.ext (Nat.lt_one_iff.1 hlt)
    exact hcounted.1 rfl

/-- A command that tells the formats for some queries. -/
def sampleFormats : Command where
  returnType := Registry.voidType
  arguments :=
    [⟨"const Query*", "pQueries", "Query", "", "pCount", false⟩,
     ⟨"uint32_t*", "pCount", "uint32_t", "", "", false⟩,
     ⟨"Format*", "pFormats", "Format", "", "pCount", false⟩]
  successCodes := []
  guard := ""
  owner := none
  twoStep := true

/-- When the caller passes an array with the same count, both calls pass the size of this
array.  The vector is made as long as a local says that nothing was written to. -/
theorem shared_count_not_handed_out :
    ∃ analyzed lines signature body,
      Analysis.analyze "getFormats" sampleFormats = .ok analyzed ∧
      enhancedLines .initial analyzed "" "getFormats" "  " = .ok lines ∧
      IsOverload .initial analyzed "" "getFormats" "  " lines signature body ∧
      Statement.actionsOfAll body =
        [.call ⟨"vkGetFormats", [.data "queries", .size "queries" false, .null]⟩,
         .resize "formats" "count",
         .call ⟨"vkGetFormats", [.data "queries", .size "queries" false, .data "formats"]⟩] := by
  have hsample : (Analysis.rolesOf "getFormats" sampleFormats).toOption.any (fun roles =>
      (enhancedLines .initial ⟨"getFormats", _, roles⟩ "" "getFormats" "  ").toOption.any fun _ =>
        (bodyOf ∅ ⟨"getFormats", _, roles⟩ (qualifiedName "" "getFormats")).toOption.any fun body =>
          Statement.actionsOfAll body ==
            [.call ⟨"vkGetFormats", [.data "queries", .size "queries" false, .null]⟩,
             .resize "formats" "count",
             .call ⟨"vkGetFormats", [.data "queries", .size "queries" false, .data "formats"]⟩]) =
      true := by
    decide +kernel
  obtain ⟨roles, lines, hanalyze, hlines, hbody⟩ := exists_lines_of_any hsample
  obtain ⟨body, hbody, hactions⟩ := exists_of_any hbody
  obtain ⟨signature, written, hoverload⟩ := exists_isOverload hlines
  obtain rfl := Except.ok.inj (hbody.symm.trans hoverload.body_eq)
  exact ⟨_, lines, signature, body, hanalyze, hlines, hoverload, beq_iff_eq.1 hactions⟩

end Overload

end VulkanBindings.Wrapper
