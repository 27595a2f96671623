import VulkanBindings.Proofs.Registry.Members

/-!
# Success codes and result codes

A command lists native result codes, of which it keeps the enumerators.  The name of such an
enumerator is worked out twice: once from the code alone, with the tag that it ends with
(`Naming.successCode`), and once where the enum of result codes gets its member, with the tag
that is known there.  Both follow one rule, `resultName`, so that they agree on a code exactly
if the two tags lead to the same name (`codes_spelled`).  They do not if a code that ends with
a tag stands among the result codes of the interface itself.
-/

namespace VulkanBindings.Registry

open Naming (between camelCase enumeratorMark resultStart tagOf typeName)
open Xml (Node)

variable {root element : Node} {spec later : Spec} {name code : String}

/-- The name of a native result code that carries a tag.  The empty tag is none. -/
def resultName (tag code : String) : Except Text.Fault String := do
  let words ← between resultStart tag code
  pure (enumeratorMark ++ camelCase words ++ tag)

/-- The result codes that an element lists. -/
def listedCodes (element : Node) : List String :=
  match element.attribute? "successcodes" with
  | none | some "" => []
  | some codes => Text.fields ',' codes

/-- The enumerators of the document that become result codes. -/
def resultContributions (root : Node) (tags : NameSet) : List Contribution :=
  contributionsOf tags (groupsOf root resultEnum) (contributorsTo root resultEnum)

/-- The name that a command has for a code is that of the result code, if and only if each
enumerator of the document for this code carries a tag that leads to the same name as the tag
at the end of the code. -/
def SpelledAlike (root : Node) (spec : Spec) (code enumerator : String) : Prop :=
  ∀ results, spec.enums.get? resultEnum = some results →
    ((∀ member ∈ results.members, member.value = code → enumerator = member.name) ↔
      ∀ contribution ∈ resultContributions root spec.tags,
        contribution.element.attribute? "name" = some code →
          resultName contribution.tag code = resultName (tagOf spec.tags code) code)

/-! ## Codes of commands -/

theorem successCodesOf_eq (tags : NameSet) :
    successCodesOf element tags =
      (listedCodes element).mapM fun code => resultName (tagOf tags code) code := by
  unfold successCodesOf listedCodes
  cases element.attribute? "successcodes" with
  | none => rfl
  | some codes =>
    by_cases hempty : codes = ""
    · subst hempty
      rfl
    · simp only
      rfl

/-- The entry of the command that an element declares, with the codes that it lists. -/
def HasCodes (tags : NameSet) (spec : Spec) (element : Node) : Prop :=
  ∃ name command, declaredName? element = some name ∧ spec.commands.get? name = some command ∧
    (Command.Faultless name → successCodesOf element tags = .ok command.successCodes)

/-- A command that is declared has its codes from then on. -/
theorem hasCodes_of_along {elements : List Node} (h : Along CommandChange spec elements later)
    (hread : Changes .initial spec) :
    later.tags = spec.tags ∧ ∀ element ∈ elements, HasCodes spec.tags later element := by
  induction h with
  | nil => exact ⟨rfl, by simp⟩
  | @snoc done state next element hdone hitem ih =>
    obtain ⟨htags, hcodes⟩ := ih
    have hconsistent : state.Consistent :=
      consistent_of_along hdone hread fun _ _ _ hcommand => .single hcommand.change
    cases hitem with
    | @declare name command hname hnew harguments howner hguard hlisted =>
      refine ⟨(tags_withCommand command).trans htags, fun other hother => ?_⟩
      unfold HasCodes
      rw [Spec.commands_withCommand]
      rcases List.mem_append.1 hother with hearlier | hlast
      · obtain ⟨earlier, entry, hdeclared, hentry, hcodes⟩ := hcodes other hearlier
        have hne : earlier ≠ name :=
          (hconsistent.commands earlier (Table.contains_iff.2 ⟨entry, hentry⟩)).ne_new hnew
        refine ⟨earlier, entry, hdeclared, ?_, hcodes⟩
        rw [Table.get?_set, if_neg hne, hentry]
      · rw [List.mem_singleton.1 hlast]
        rw [htags] at hlisted
        exact ⟨name, command, hname, (Table.get?_set ..).trans (if_pos rfl), hlisted⟩

/-- No item of an extension changes the codes of a command. -/
theorem Requirement.Change.hasCodes {requirement : Requirement}
    (h : requirement.Change spec later) {tags : NameSet} (hcodes : HasCodes tags spec element) :
    HasCodes tags later element := by
  have hkept : later.commands = spec.commands → HasCodes tags later element := by
    intro hcommands
    unfold HasCodes
    rw [hcommands]
    exact hcodes
  cases h with
  | @command rawName =>
    obtain ⟨name, command, hname, hget, hlisted⟩ := hcodes
    by_cases heq : name = Naming.commandName rawName
    · refine ⟨name, { command with guard := requirement.guard }, hname, ?_, hlisted⟩
      rw [Table.get?_modify, if_pos heq, hget]
      rfl
    · refine ⟨name, command, hname, ?_, hlisted⟩
      rw [Table.get?_modify, if_neg heq, hget]
  | type _ _ hguard =>
    refine hkept ?_
    cases hguard <;> rfl
  | enumerator => exact hkept rfl
  | skip => exact hkept rfl

/-- Every element that declares a command has its entry in the end. -/
theorem hasCodes_of_ofRegistry (h : Spec.ofRegistry root = .ok spec)
    (helement : element ∈ commandElements root) : HasCodes spec.tags spec element := by
  obtain ⟨tagged, typed, grouped, listed, hstages⟩ := exists_stages h
  obtain ⟨htags, hlisted⟩ := hasCodes_of_along hstages.commands hstages.changes_grouped
  have hamended := (along_requirements hstages.extensions hstages.changes_listed).invariant
    (fun spec => spec.tags = grouped.tags ∧ HasCodes grouped.tags spec element)
    ⟨htags, hlisted element helement⟩ fun requirement state next hitem hstate =>
      ⟨(ItemChange.tags_eq hitem).trans hstate.1, hitem.hasCodes hstate.2⟩
  rw [hamended.1]
  exact hamended.2

/-! ## Names of result codes -/

/-- The result codes are no bits, and their names begin with the mark of the interface. -/
theorem shape_of_results (h : Changes .initial spec) {results : Enumeration}
    (hget : spec.enums.get? resultEnum = some results) :
    results.isBitmask = false ∧ results.stem = resultStart := by
  obtain ⟨tags, origin, -, horigin, hextends⟩ := h.exists_origin hget
  have hshape : origin.isBitmask = false ∧ origin.stem = resultStart := by
    cases horigin with
    | bits hname => exact absurd (occurs_of_flagBits hname) (by decide +kernel)
    | group hgroup hgrown =>
      obtain ⟨rfl, -⟩ := Prod.mk.inj (Except.ok.inj hgroup)
      exact ⟨hgrown.isBitmask, hgrown.stem⟩
  exact ⟨hextends.isBitmask.trans hshape.1, hextends.stem.trans hshape.2⟩

/-- A result code that carries a tag has it put back at its end. -/
theorem tagged_of_resultContributions {tags : NameSet} {contribution : Contribution}
    (h : contribution ∈ resultContributions root tags) :
    contribution.appendTag = true ∨ contribution.tag = "" := by
  rcases List.mem_append.1 h with hdeclared | hcontributed
  · obtain ⟨node, hnode, hmem⟩ := List.mem_flatMap.1 hdeclared
    obtain ⟨child, -, rfl⟩ := List.mem_map.1 hmem
    obtain ⟨rawName, hname, hgroup⟩ := (Option.any_eq_true _ _).1 (List.mem_filter.1 hnode).2
    obtain ⟨-, hresult⟩ := Bool.and_eq_true_iff.1 hgroup
    right
    show groupTag tags node = ""
    unfold groupTag
    rw [hname, Option.getD_some, beq_iff_eq.1 hresult]
    rfl
  · obtain ⟨requirement, -, rfl⟩ := List.mem_map.1 hcontributed
    unfold Requirement.contribution
    dsimp only
    by_cases hsymbolic : (requirement.item.attribute? "value").isNone = true
    · exact .inl hsymbolic
    · exact .inr (if_neg hsymbolic)

/-- A member of the result codes is named by the rule. -/
theorem resultName_of_enters {results : Enumeration} (hbitmask : results.isBitmask = false)
    (hstem : results.stem = resultStart) {contribution : Contribution} {member : Enumerator}
    (htagged : contribution.appendTag = true ∨ contribution.tag = "")
    (h : results.Enters contribution member) :
    resultName contribution.tag member.value = .ok member.name := by
  obtain ⟨-, hname⟩ := h
  unfold Enumeration.nameOf at hname
  dsimp only at hname
  split at hname
  · cases hname
  · rw [hstem] at hname
    unfold resultName
    cases hwords : between resultStart contribution.tag member.value with
    | error fault =>
      rw [hwords] at hname
      cases hname
    | ok words =>
      rw [hwords] at hname
      have hcut : results.cutEnding (enumeratorMark ++ camelCase words) =
          enumeratorMark ++ camelCase words := by
        unfold Enumeration.cutEnding
        rw [hbitmask]
        rfl
      replace hname : (if contribution.appendTag then
          results.cutEnding (enumeratorMark ++ camelCase words) ++ contribution.tag
        else results.cutEnding (enumeratorMark ++ camelCase words)) = member.name :=
        Except.ok.inj hname
      rw [hcut] at hname
      rw [← hname]
      split
      · rfl
      · rename_i hplain
        rw [htagged.resolve_left hplain]
        show Except.ok (enumeratorMark ++ camelCase words ++ "") = _
        rw [String.append_empty]

/-- What holds of all items on one side holds of all on the other. -/
theorem forall_mem_iff_of_forall₂ {α β : Type} {related : α → β → Prop} {left : α → Prop}
    {right : β → Prop} {items : List α} {others : List β} (h : List.Forall₂ related items others)
    (hiff : ∀ item ∈ items, ∀ other, related item other → (right other ↔ left item)) :
    (∀ other ∈ others, right other) ↔ ∀ item ∈ items, left item := by
  induction h with
  | nil => simp
  | @cons item other items others hhead _ ih =>
    rw [List.forall_mem_cons, List.forall_mem_cons, hiff item List.mem_cons_self other hhead,
      ih fun item hitem => hiff item (List.mem_cons_of_mem _ hitem)]

/-- Every command without a known defect keeps one name for each code that its element lists,
in order, and these are spelled as the result codes wherever the tags agree. -/
theorem codes_spelled (hread : Spec.ofRegistry root = .ok spec)
    (helement : element ∈ commandElements root) :
    ∃ name command, declaredName? element = some name ∧ spec.commands.get? name = some command ∧
      (Command.Faultless name →
        List.Forall₂ (SpelledAlike root spec) (listedCodes element) command.successCodes) := by
  obtain ⟨name, command, hname, hget, hcodes⟩ := hasCodes_of_ofRegistry hread helement
  refine ⟨name, command, hname, hget, fun hfaultless => ?_⟩
  have hlisted := hcodes hfaultless
  rw [successCodesOf_eq] at hlisted
  refine (forall₂_of_mapM hlisted).imp fun code enumerator hcode results hresults => ?_
  obtain ⟨hbitmask, hstem⟩ := shape_of_results ((ofRegistry_meets root).of_ok hread) hresults
  obtain ⟨-, hmembers⟩ :=
    (hasMembers_of_some hresults).1 (hasMembers_of_ofRegistry hread resultEnum)
  refine forall_mem_iff_of_forall₂ hmembers fun contribution hmem member henters => ?_
  have hnamed := resultName_of_enters hbitmask hstem (tagged_of_resultContributions hmem) henters
  rw [henters.1, Option.some_inj]
  refine forall_congr' fun heq => ?_
  subst heq
  rw [hnamed, hcode, Except.ok.injEq, eq_comm]

/-- A command other than the two whose entries are mended. -/
theorem faultless_of_ne (hreport : name ≠ "createDebugReportCallbackEXT")
    (hsparse : name ≠ "getImageSparseMemoryRequirements") : Command.Faultless name := by
  intro command
  unfold Command.mended
  rw [if_neg (by simpa using hreport), if_neg (by simpa using hsparse)]

/-- The one command of the sample, which lists a result code of an extension. -/
theorem sample_codes_spelled : ∃ spec command, Spec.ofRegistry sampleExtensions = .ok spec ∧
    spec.commands.get? "load" = some command ∧ Command.Faultless "load" ∧
    List.Forall₂ (SpelledAlike sampleExtensions spec) ["VK_SUCCESS", "VK_SUBOPTIMAL_KHR"]
      command.successCodes := by
  have hsample : (Spec.ofRegistry sampleExtensions).toOption.any (fun _ => true) = true := by
    decide +kernel
  obtain ⟨spec, hread, -⟩ := exists_of_any hsample
  have hfaultless : Command.Faultless "load" := faultless_of_ne (by decide) (by decide)
  obtain ⟨name, command, hname, hget, hcodes⟩ := codes_spelled hread
    (List.mem_flatMap.2 ⟨_, List.mem_filter.2 ⟨.tail _ (.tail _ (.head _)), rfl⟩,
      List.mem_filter.2 ⟨.head _, rfl⟩⟩)
  obtain rfl : "load" = name := Option.some.inj hname
  exact ⟨spec, command, hread, hget, hfaultless, hcodes hfaultless⟩

/-- A registry whose own result codes include one that ends with a tag. -/
def suboptimalRegistry : Node :=
  ⟨"registry", [],
   [.element "enums" [("name", "VkResult"), ("type", "enum")]
     [.element "enum" [("value", "0"), ("name", "VK_SUCCESS")] [],
      .element "enum" [("value", "1"), ("name", "VK_SUBOPTIMAL_KHR")] []],
    .element "commands" []
     [.element "command" [("successcodes", "VK_SUCCESS,VK_SUBOPTIMAL_KHR")]
       [.element "proto" []
         [.element "type" [] [.text "VkResult"], .element "name" [] [.text "vkPresent"]],
        .element "param" []
         [.element "type" [] [.text "uint32_t"], .element "name" [] [.text "count"]]]]]⟩

/-- The command has the tag at the end of the code, which the result code itself lacks. -/
theorem suboptimal_code_misspelled : ∃ spec command results,
    Spec.ofRegistry suboptimalRegistry = .ok spec ∧ Command.Faultless "present" ∧
      spec.commands.get? "present" = some command ∧
      command.successCodes = ["eSuccess", "eSuboptimalKHR"] ∧
      spec.enums.get? resultEnum = some results ∧
      results.members = [⟨"eSuccess", "VK_SUCCESS"⟩, ⟨"eSuboptimalKhr", "VK_SUBOPTIMAL_KHR"⟩] := by
  have hsample : (Spec.ofRegistry suboptimalRegistry).toOption.any (fun spec =>
      (spec.commands.get? "present").any
          (fun command => command.successCodes == ["eSuccess", "eSuboptimalKHR"]) &&
        (spec.enums.get? resultEnum).any fun results => decide (results.members =
          [⟨"eSuccess", "VK_SUCCESS"⟩, ⟨"eSuboptimalKhr", "VK_SUBOPTIMAL_KHR"⟩])) = true := by
    decide +kernel
  obtain ⟨spec, hread, hboth⟩ := exists_of_any hsample
  obtain ⟨hcommand, hresults⟩ := Bool.and_eq_true_iff.1 hboth
  obtain ⟨command, hget, hcodes⟩ := (Option.any_eq_true _ _).1 hcommand
  obtain ⟨results, hresult, hmembers⟩ := (Option.any_eq_true _ _).1 hresults
  exact ⟨spec, command, results, hread, faultless_of_ne (by decide) (by decide), hget,
    beq_iff_eq.1 hcodes, hresult, of_decide_eq_true hmembers⟩

end VulkanBindings.Registry
