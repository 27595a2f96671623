import VulkanBindings.Proofs.Registry.Members
import VulkanBindings.Proofs.Wrapper.Writing
import VulkanBindings.Wrapper.Header

/-!
# Enums in the header

The header of a registry has a block for every enum that lists its members, and one that
turns them into text.  The enum of result codes is written ahead of the others, which makes
no difference here (`enumerates_header`).  `enumerators_kept` puts this together with where
members come from: what stands in the blocks are the enumerators of the document, each once
and in order.
-/

namespace VulkanBindings.Wrapper

open Registry (Entity Enumeration Enumerator FromGroups Spec enumeratorElements groupsOf
  hasMembers_of_ofRegistry hasMembers_of_some resultEnum sampleExtensions values_of_ofRegistry)
open Xml (Node)

variable {root : Node} {spec : Spec} {context : Context} {name : String}

/-! ## Blocks of an enum -/

/-- The line of a member, but for the comma at its end. -/
def enumeratorEntry (member : Enumerator) : String :=
  s!"    {member.name} = {member.value}"

/-- Lines of which all but the last end with a comma. -/
def commaSeparated (entries : List String) : List String :=
  entries.dropLast.map (· ++ ",") ++ entries.getLast?.toList

/-- The line that turns a member into text. -/
def caseEntry (name : String) (member : Enumerator) : String :=
  s!"    case {name}::{member.name}: return \"{member.shown}\";"

/-- Among the lines is the definition of an enum that has these members and no others, and,
if there are any, a switch that has a case for each of them and no other case. -/
structure Enumerates (lines : List String) (name : String) (members : List Enumerator) : Prop where
  listed : [s!"  enum class {name}", "  \x7b"] ++ commaSeparated (members.map enumeratorEntry) ++
    ["  \x7d;"] <:+: lines
  switched : members ≠ [] →
    [s!"  inline std::string to_string({name} value)", "  \x7b",
        "    switch (value)", "    \x7b"] ++
      members.map (caseEntry name) ++
      ["    default: return \"invalid\";", "    \x7d", "  \x7d"] <:+: lines

theorem enumeratorLines_eq (members : List Enumerator) :
    enumeratorLines members = commaSeparated (members.map enumeratorEntry) := by
  unfold commaSeparated
  induction members with
  | nil => rfl
  | cons first rest ih =>
    cases rest with
    | nil => rfl
    | cons second rest =>
      unfold enumeratorLines
      rw [ih]
      rfl

/-- The two blocks of an enum are all that it takes. -/
theorem enumerates_of_blocks {lines : List String} {enumeration : Enumeration}
    (hlisted : enumLines name enumeration <:+: lines)
    (hswitched : enumToStringLines name enumeration <:+: lines) :
    Enumerates lines name enumeration.members where
  listed := by
    rw [← enumeratorLines_eq]
    exact (infix_guarded enumeration.guard _).trans hlisted
  switched := by
    intro hmembers
    have hnonempty : enumeration.members.isEmpty = false := by
      simpa using hmembers
    unfold enumToStringLines at hswitched
    rw [hnonempty] at hswitched
    exact (infix_guarded enumeration.guard _).trans hswitched

/-! ## Blocks in the header -/

theorem infix_spacedBlock (lines : List String) : lines <:+: spacedBlock lines := by
  unfold spacedBlock
  split
  · rename_i hempty
    obtain rfl := List.isEmpty_iff.1 hempty
    exact List.infix_rfl
  · exact (List.prefix_append lines [""]).isInfix

/-- What is written for one of several entities stands among the lines for all. -/
theorem infix_of_mapM {write : Entity → Except Failure (List String)} {entities : List Entity}
    {blocks : List (List String)}
    (h : (entities.mapM fun entity => do pure (spacedBlock (← write entity))) = .ok blocks)
    {entity : Entity} (hmem : entity ∈ entities) {lines : List String}
    (hwrite : write entity = .ok lines) : lines <:+: blocks.flatten := by
  have hblock : spacedBlock lines ∈ blocks := by
    refine (mem_of_mapM h).2 ⟨entity, hmem, ?_⟩
    exact bind_eq_ok_iff.2 ⟨lines, hwrite, rfl⟩
  exact (infix_spacedBlock lines).trans (List.infix_of_mem_flatten hblock)

/-- An enum other than that of the result codes is written with the entities. -/
theorem enumerates_entities {enumeration : Enumeration} (h : Prepared root context)
    (hget : context.spec.enums.get? name = some enumeration) (hresult : name ≠ resultEnum)
    {types toStrings : List String} (htypes : typeLines context = .ok types)
    (htoStrings : allToStringLines context = .ok toStrings) :
    enumLines name enumeration <:+: types ∧ enumToStringLines name enumeration <:+: toStrings := by
  obtain ⟨entity, hmem, rfl, hkind⟩ :=
    h.consistent.enums name (Table.contains_iff.2 ⟨enumeration, hget⟩)
  have hwritten : entity ∈ context.entities.filter (!isResultEnum ·) := by
    refine List.mem_filter.2 ⟨(perm_of_ordered h.ordered).mem_iff.2 hmem, ?_⟩
    simp [isResultEnum, hresult]
  have henum : context.enum entity.name = .ok enumeration := find_of_get? hget
  constructor
  · unfold typeLines at htypes
    obtain ⟨blocks, hblocks, htypes⟩ := bind_eq_ok_iff.1 htypes
    obtain rfl := Except.ok.inj htypes
    refine infix_of_mapM hblocks hwritten ?_
    unfold entityLines
    rw [hkind]
    dsimp only
    rw [henum]
    rfl
  · unfold allToStringLines at htoStrings
    obtain ⟨blocks, hblocks, htoStrings⟩ := bind_eq_ok_iff.1 htoStrings
    obtain rfl := Except.ok.inj htoStrings
    refine infix_of_mapM hblocks hwritten ?_
    unfold toStringLines
    rw [hkind]
    dsimp only
    rw [henum]
    rfl

/-- The result codes are written ahead of all entities. -/
theorem exists_supportLines (results : Enumeration) : ∃ before after,
    supportLines results = before ++ enumLines resultEnum results ++
      ([""] ++ enumToStringLines resultEnum results ++ after) := by
  refine ⟨namespaceStart ++ Fragment.flags ++ [""] ++ Fragment.optional ++ Fragment.arrayProxy ++
    [""], [""] ++ Fragment.exceptions ++ [namespaceEnd, ""] ++ Fragment.isErrorCode ++ [""] ++
    namespaceStart ++ Fragment.resultValue ++ [""] ++ Fragment.createResultValue ++ [""], ?_⟩
  unfold supportLines
  simp only [List.append_assoc]

theorem infix_supportLines (results : Enumeration) :
    enumLines resultEnum results <:+: supportLines results ∧
      enumToStringLines resultEnum results <:+: supportLines results := by
  obtain ⟨before, after, hlines⟩ := exists_supportLines results
  rw [hlines]
  constructor
  · exact List.infix_append before _ _
  · exact (List.infix_append [""] _ after).trans (List.suffix_append _ _).isInfix

/-- Every enum of a registry is in its header. -/
theorem enumerates_header {config : HeaderConfig} {text : String} (h : Prepared root context)
    (hheader : headerText config context = .ok text) :
    ∃ lines, text = "\n".intercalate lines ++ "\n" ∧
      ∀ name enumeration, context.spec.enums.get? name = some enumeration →
        Enumerates lines name enumeration.members := by
  unfold headerText at hheader
  obtain ⟨results, hresults, hheader⟩ := bind_eq_ok_iff.1 hheader
  obtain ⟨preamble, -, hheader⟩ := bind_eq_ok_iff.1 hheader
  obtain ⟨types, htypes, hheader⟩ := bind_eq_ok_iff.1 hheader
  obtain ⟨toStrings, htoStrings, hheader⟩ := bind_eq_ok_iff.1 hheader
  refine ⟨_, (Except.ok.inj hheader).symm, fun name enumeration hget => ?_⟩
  by_cases hresult : name = resultEnum
  · subst hresult
    have hsame : results = enumeration :=
      Option.some.inj ((get?_of_find hresults).symm.trans hget)
    subst hsame
    have hsupport : supportLines results <:+: preamble ++ supportLines results ++ types ++
        toStrings ++ [namespaceEnd, "", "#endif"] := by
      rw [List.append_assoc _ types, List.append_assoc]
      exact List.infix_append _ _ _
    obtain ⟨hlisted, hswitched⟩ := infix_supportLines results
    exact enumerates_of_blocks (hlisted.trans hsupport) (hswitched.trans hsupport)
  · obtain ⟨hlisted, hswitched⟩ := enumerates_entities h hget hresult htypes htoStrings
    refine enumerates_of_blocks (hlisted.trans ?_) (hswitched.trans ?_)
    · rw [List.append_assoc _ toStrings]
      exact List.infix_append _ _ _
    · exact List.infix_append _ _ _

/-! ## Enumerators of the document -/

/-- The values of an enum are the names of its elements in the document, each once and in the
order of the document, and the header lists the members of the enum in this order. -/
theorem enumerators_kept (hread : Spec.ofRegistry root = .ok spec) {enumeration : Enumeration}
    (hget : spec.enums.get? name = some enumeration) :
    FromGroups name (groupsOf root name) ∧
      enumeration.members.map (some ·.value) =
        (enumeratorElements root name).map (·.attribute? "name") ∧
      ∀ includeGuard source text, compile root includeGuard source = .ok text →
        ∃ lines, text = "\n".intercalate lines ++ "\n" ∧
          Enumerates lines name enumeration.members := by
  obtain ⟨hgroups, -⟩ := (hasMembers_of_some hget).1 (hasMembers_of_ofRegistry hread name)
  refine ⟨hgroups, values_of_ofRegistry hread hget, fun includeGuard source text hcompile => ?_⟩
  unfold compile at hcompile
  obtain ⟨context, hprepare, hheader⟩ := bind_eq_ok_iff.1 hcompile
  have hprepared := prepare_eq_ok_iff.1 hprepare
  have hsame : context.spec = spec := Except.ok.inj (hprepared.read.symm.trans hread)
  obtain ⟨lines, htext, henumerates⟩ := enumerates_header hprepared hheader
  rw [hsame] at henumerates
  exact ⟨lines, htext, henumerates name enumeration hget⟩

/-- Whether a header can be written, and the result codes in it have the given values. -/
def writesResults (values : List String) (context : Context) : Bool :=
  (headerText (configOf context.spec defaultIncludeGuard defaultSource) context).toOption.isSome &&
    (context.spec.enums.get? resultEnum).any fun results =>
      results.members.map (·.value) == values

/-- The header of the sample has the result codes of the group and of one extension. -/
theorem sample_enumerators_kept : ∃ spec results text lines,
    Spec.ofRegistry sampleExtensions = .ok spec ∧ spec.enums.get? resultEnum = some results ∧
      results.members.map (·.value) = ["VK_SUCCESS", "VK_NOT_READY", "VK_SUBOPTIMAL_KHR"] ∧
      compile sampleExtensions defaultIncludeGuard defaultSource = .ok text ∧
      text = "\n".intercalate lines ++ "\n" ∧ Enumerates lines resultEnum results.members := by
  have hsample : ∃ context, prepare sampleExtensions = .ok context ∧
      writesResults ["VK_SUCCESS", "VK_NOT_READY", "VK_SUBOPTIMAL_KHR"] context = true :=
    exists_prepare_of_inOrder _ (by decide +kernel)
  obtain ⟨context, hprepare, hboth⟩ := hsample
  obtain ⟨hwritten, hresults⟩ := Bool.and_eq_true_iff.1 hboth
  obtain ⟨text, hwritten⟩ := Option.isSome_iff_exists.1 hwritten
  obtain ⟨results, hget, hvalues⟩ := (Option.any_eq_true _ _).1 hresults
  have hread := (prepare_eq_ok_iff.1 hprepare).read
  have hcompile : compile sampleExtensions defaultIncludeGuard defaultSource = .ok text :=
    bind_eq_ok_iff.2 ⟨context, hprepare, toOption_eq_some.1 hwritten⟩
  obtain ⟨-, -, hheader⟩ := enumerators_kept hread hget
  obtain ⟨lines, htext, henumerates⟩ := hheader _ _ _ hcompile
  exact ⟨context.spec, results, text, lines, hread, hget, beq_iff_eq.1 hvalues, hcompile, htext,
    henumerates⟩

end VulkanBindings.Wrapper
