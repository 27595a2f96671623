import VulkanBindings.Proofs.Registry.Guards
import VulkanBindings.Proofs.Wrapper.Calls
import VulkanBindings.Proofs.Wrapper.Conditionals
import VulkanBindings.Proofs.Wrapper.Enumerated

/-!
# Conditionals of the bindings

Guards and switches open conditionals in many places, and those of overloads stand inside
those of their handle.  Most functions write no directives of their own (`isCode_...`) and
put what they write under a guard as a whole (`underGuard_...`).  Both overloads of a command
are under its guard, each by itself and inside the conditionals of the switch that leaves
enhanced overloads out (`overloads_nested`).

`NestedBindings` is what this comes to for the lines of one entity, and `conditionals_nest`
for all of them.
-/

namespace VulkanBindings.Wrapper

open Analysis (Analyzed)
open Registry (Aggregate Command Entity EntityKind Enumeration Enumerator Handle Member Spec)

/-! ## Enums, flags and scalar types -/

section Enums

variable {name guard bits underlying : String} {enumeration : Enumeration}

theorem isCode_enumeratorLines (members : List Enumerator) :
    ∀ line ∈ enumeratorLines members, IsCode line := by
  fun_induction enumeratorLines members with
  | case1 => simp
  | case2 last => simp [IsCode, toString]
  | case3 first rest _ ih =>
    intro line hline
    rcases List.mem_cons.1 hline with rfl | hline
    · simp [IsCode, toString]
    · exact ih line hline

theorem underGuard_enumLines : UnderGuard enumeration.guard (enumLines name enumeration) := by
  refine underGuard_guarded _ (.of_isCode ?_)
  have hmembers := isCode_enumeratorLines enumeration.members
  simpa [or_imp, forall_and, IsCode, toString] using hmembers

theorem underGuard_flagsLines : UnderGuard guard (flagsLines name guard bits) := by
  refine underGuard_guarded _ (.of_isCode ?_)
  simp [IsCode, toString]

theorem underGuard_scalarLines : UnderGuard guard (scalarLines name guard underlying) := by
  refine underGuard_guarded _ (.of_isCode ?_)
  simp [IsCode, toString]

theorem isCode_constantToString (name text : String) :
    ∀ line ∈ constantToString name text, IsCode line := by
  simp [constantToString, IsCode, toString]

theorem underGuard_enumToStringLines :
    UnderGuard enumeration.guard (enumToStringLines name enumeration) := by
  refine underGuard_guarded _ (.of_isCode ?_)
  split
  · exact isCode_constantToString _ _
  · simp [or_imp, forall_and, IsCode, toString]

theorem underGuard_flagsToStringLines :
    UnderGuard guard (flagsToStringLines name guard bits enumeration) := by
  refine underGuard_guarded _ (.of_isCode ?_)
  split
  · exact isCode_constantToString _ _
  · simp [or_imp, forall_and, IsCode, toString]

end Enums

/-! ## Structs and unions -/

section Aggregates

variable {defaults : Table String} {wrapped : NameSet} {name : String} {aggregate : Aggregate}
  {members : List Member} {lines : List String}

theorem isCode_setterLines (member : Member) : ∀ line ∈ setterLines name member, IsCode line := by
  simp [setterLines, IsCode, toString]

theorem isCode_initializerLines : ∀ line ∈ initializerLines name members, IsCode line := by
  intro line hline
  obtain ⟨index, hindex, rfl⟩ := List.mem_mapIdx.1 hline
  simp [IsCode, toString]

theorem isCode_constructorLines (h : constructorLines defaults name members = .ok lines) :
    ∀ line ∈ lines, IsCode line := by
  unfold constructorLines at h
  obtain ⟨parameters, -, h⟩ := bind_eq_ok_iff.1 h
  obtain rfl := Except.ok.inj h
  simp only [List.forall_mem_append, List.forall_mem_map]
  refine ⟨⟨⟨⟨⟨?_, isCode_initializerLines⟩, ?_⟩, ?_⟩, ?_⟩, ?_⟩ <;>
    simp [conversionLines, IsCode, toString]

theorem isCode_fillingLines (h : fillingLines defaults name aggregate = .ok lines) :
    ∀ line ∈ lines, IsCode line := by
  unfold fillingLines at h
  split at h
  · obtain rfl := Except.ok.inj h
    simp
  · obtain ⟨constructor, hconstructor, h⟩ := bind_eq_ok_iff.1 h
    obtain rfl := Except.ok.inj h
    refine List.forall_mem_append.2 ⟨isCode_constructorLines hconstructor, ?_⟩
    exact List.forall_mem_flatMap.2 fun member _ => isCode_setterLines member

theorem isCode_memberLine (mark : String) (member : Member) : IsCode (memberLine mark member) := by
  simp [memberLine, IsCode, toString]

theorem isCode_structMemberLines (member : Member) :
    ∀ line ∈ structMemberLines member, IsCode line := by
  unfold structMemberLines
  split
  · simp [IsCode, toString]
  · exact List.forall_mem_singleton.2 (isCode_memberLine "" member)

theorem isCode_sizeCheckLine (name word : String) : IsCode (sizeCheckLine name word) := by
  unfold sizeCheckLine
  simp [IsCode, toString]

theorem underGuard_structLines (h : structLines defaults name aggregate = .ok lines) :
    UnderGuard aggregate.guard lines := by
  unfold structLines at h
  obtain ⟨filling, hfilling, h⟩ := bind_eq_ok_iff.1 h
  obtain rfl := Except.ok.inj h
  refine underGuard_guarded _ (.of_isCode ?_)
  have hmembers : ∀ line ∈ aggregate.members.flatMap structMemberLines, IsCode line :=
    List.forall_mem_flatMap.2 fun member _ => isCode_structMemberLines member
  simp only [List.forall_mem_append]
  refine ⟨⟨⟨⟨?_, isCode_fillingLines hfilling⟩, ?_⟩, hmembers⟩, ?_⟩
  · simp [IsCode, toString]
  · simp [IsCode, toString]
  · have hcheck := isCode_sizeCheckLine name "struct"
    simpa [IsCode] using hcheck

theorem isCode_unionConstructorLines (parameter : String) (member : Member) :
    ∀ line ∈ unionConstructorLines name parameter member, IsCode line := by
  simp [unionConstructorLines, IsCode, toString]

theorem isCode_unionConstructors (h : unionConstructors defaults name members = .ok lines) :
    ∀ line ∈ lines, IsCode line := by
  cases members with
  | nil =>
    obtain rfl := Except.ok.inj h
    simp
  | cons first rest =>
    unfold unionConstructors at h
    obtain ⟨value, -, h⟩ := bind_eq_ok_iff.1 h
    obtain rfl := Except.ok.inj h
    refine List.forall_mem_append.2 ⟨isCode_unionConstructorLines _ first, ?_⟩
    exact List.forall_mem_flatMap.2 fun member _ => isCode_unionConstructorLines _ member

/-- The members of a union stand once, or once in each branch of a conditional. -/
theorem wellNested_unionMemberLines : WellNested (unionMemberLines wrapped members) := by
  have hmembers : ∀ mark : Member → String,
      WellNested (members.map fun member => memberLine (mark member) member) := by
    intro mark
    exact .of_isCode (List.forall_mem_map.2 fun member _ => isCode_memberLine _ member)
  unfold unionMemberLines
  dsimp only
  split
  · exact .alternative (directive?_ifdef _) (by decide) (hmembers fun _ => "") (hmembers _)
  · exact hmembers _

theorem underGuard_unionLines (h : unionLines defaults wrapped name aggregate = .ok lines) :
    UnderGuard aggregate.guard lines := by
  unfold unionLines at h
  obtain ⟨constructors, hconstructors, h⟩ := bind_eq_ok_iff.1 h
  obtain rfl := Except.ok.inj h
  have hsetters : ∀ line ∈ aggregate.members.flatMap (setterLines name), IsCode line :=
    List.forall_mem_flatMap.2 fun member _ => isCode_setterLines member
  refine underGuard_guarded _ (.append (.append (.of_isCode ?_) wellNested_unionMemberLines)
    (.of_isCode ?_))
  · simp only [List.forall_mem_append]
    refine ⟨⟨⟨?_, isCode_unionConstructors hconstructors⟩, hsetters⟩, ?_⟩ <;>
      simp [IsCode, toString]
  · have hcheck := isCode_sizeCheckLine name "union"
    simpa [IsCode] using hcheck

end Aggregates

/-! ## Overloads -/

section Overloads

variable {spec : Spec} {wrapped : NameSet} {analyzed : Analyzed} {command : Command}
  {name className functionName indent : String} {lines : List String}

theorem isCode_standardLines (h : Indents indent) (wrapped : NameSet)
    (name functionName : String) (command : Command) :
    ∀ line ∈ [standardHeader functionName indent command, indent ++ openBrace,
      s!"{indent}  {standardStatement wrapped name command}", indent ++ closeBrace],
      IsCode line := by
  have hindent : indent.toList.head? = some ' ' := h
  simp [standardHeader, IsCode, toString, hindent]

theorem underGuard_standardLines (h : Indents indent) (wrapped : NameSet)
    (name functionName : String) (command : Command) :
    UnderGuard command.guard (standardLines wrapped name functionName indent command) :=
  underGuard_guarded _ (.of_isCode (isCode_standardLines h wrapped name functionName command))

theorem isCode_signatureLines (h : Indents indent) (signature : Signature) :
    ∀ line ∈ signature.lines indent, IsCode line := by
  have hindent : ∀ rest, IsCode (indent ++ rest) := fun rest => (h.append rest).isCode
  unfold Signature.lines
  refine List.forall_mem_append.2 ⟨List.forall_mem_map.2 fun template _ => hindent _, ?_⟩
  simp [toString, String.append_assoc, hindent]

/-- The check of two lengths is written in two ways. -/
theorem wellNested_lengthCheckLines (h : Indents indent) (caller left right : String) :
    WellNested (Statement.lengthCheckLines indent caller left right) := by
  have hindent : indent.toList.head? = some ' ' := h
  show WellNested ([_] ++ [_] ++ ["#else"] ++ [_, _, _, _] ++ [_])
  refine .alternative (directive?_ifdef _) (by decide) (.of_isCode ?_) (.of_isCode ?_)
  · simp [IsCode, toString, hindent]
  · simp [IsCode, toString, hindent]

mutual

/-- Statements may hold others, and checks of lengths have conditionals. -/
theorem wellNested_lines (indent : String) (h : Indents indent) :
    (statement : Statement) → WellNested (statement.lines indent)
  | .checkLengths caller left right => wellNested_lengthCheckLines h caller left right
  | .whenCounted count body => by
    have hindent : indent.toList.head? = some ' ' := h
    unfold Statement.lines
    refine .append (.append (.of_isCode ?_) (wellNested_linesOfAll _ (h.append "  ") body))
      (.of_isCode ?_)
    · simp [IsCode, toString, hindent]
    · simp [IsCode, hindent]
  | .whileIncomplete body => by
    have hindent : indent.toList.head? = some ' ' := h
    unfold Statement.lines
    refine .append (.append (.of_isCode ?_) (wellNested_linesOfAll _ (h.append "  ") body))
      (.of_isCode ?_)
    · simp [IsCode, toString, hindent]
    · simp [IsCode, toString, hindent]
  | .declare type name length => by
    have hindent : indent.toList.head? = some ' ' := h
    refine .of_isCode (List.forall_mem_singleton.2 ?_)
    cases length <;> simp [Statement.declarationLine, IsCode, toString, hindent]
  | .checkElement _ | .declareStatus | .call _ | .returnCall _ | .keepStatus _ _ | .resize _ _
  | .answer _ | .returnLocal _ => by
    have hindent : indent.toList.head? = some ' ' := h
    refine .of_isCode ?_
    simp [Statement.lines, IsCode, toString, hindent]

theorem wellNested_linesOfAll (indent : String) (h : Indents indent) :
    (body : List Statement) → WellNested (Statement.linesOfAll indent body)
  | [] => .nil
  | first :: rest => (wellNested_lines indent h first).append (wellNested_linesOfAll indent h rest)

end

theorem wellNested_signature_body (h : Indents indent) (signature : Signature)
    (body : List Statement) : WellNested (signature.lines indent ++ ([indent ++ openBrace] ++
      Statement.linesOfAll (indent ++ "  ") body ++ [indent ++ closeBrace])) := by
  have hbrace : ∀ brace, WellNested [indent ++ brace] := by
    intro brace
    exact .of_isCode (List.forall_mem_singleton.2 (h.append brace).isCode)
  refine .append (.of_isCode (isCode_signatureLines h signature)) ?_
  exact .append (.append (hbrace _) (wellNested_linesOfAll _ (h.append "  ") body)) (hbrace _)

/-- An enhanced overload is under the guard of its command. -/
theorem underGuard_enhancedLines (hindent : Indents indent)
    (h : enhancedLines spec analyzed className functionName indent = .ok lines) :
    UnderGuard analyzed.command.guard lines := by
  obtain ⟨signature, body, hoverload⟩ := exists_isOverload h
  obtain rfl := hoverload.lines_eq
  exact underGuard_guarded _ (wellNested_signature_body hindent signature body)

theorem wellNested_gatedStandardLines (hindent : Indents indent) :
    WellNested (gatedStandardLines spec analyzed functionName indent) := by
  have hstandard : WellNested
      (standardLines spec.wrapped analyzed.name functionName indent analyzed.command) :=
    (underGuard_standardLines hindent _ _ _ _).nested
  unfold gatedStandardLines
  dsimp only
  split
  · exact hstandard
  · exact hstandard.conditional (directive?_ifdef _) (by decide)

/-- Both overloads of a command stand among the lines, each under the guard of the command. -/
structure GuardsOverloads (spec : Spec) (analyzed : Analyzed)
    (className functionName indent : String) (lines : List String) : Prop where
  standard : UnderGuard analyzed.command.guard
      (standardLines spec.wrapped analyzed.name functionName indent analyzed.command) ∧
    standardLines spec.wrapped analyzed.name functionName indent analyzed.command <:+: lines
  enhanced : ∃ block, enhancedLines spec analyzed className functionName indent = .ok block ∧
    UnderGuard analyzed.command.guard block ∧ block <:+: lines

theorem GuardsOverloads.of_infix {block : List String}
    (h : GuardsOverloads spec analyzed className functionName indent block)
    (hblock : block <:+: lines) :
    GuardsOverloads spec analyzed className functionName indent lines := by
  obtain ⟨⟨hstandard, hinfix⟩, enhanced, hwritten, hguard, henhanced⟩ := h
  exact ⟨⟨hstandard, hinfix.trans hblock⟩, enhanced, hwritten, hguard, henhanced.trans hblock⟩

theorem infix_gatedStandardLines :
    standardLines spec.wrapped analyzed.name functionName indent analyzed.command <:+:
      gatedStandardLines spec analyzed functionName indent := by
  unfold gatedStandardLines
  dsimp only
  split
  · exact List.infix_rfl
  · exact List.infix_append _ _ _

/-- Both overloads of a command nest, the standard one in a conditional of its own or in none,
and the enhanced one in another. -/
theorem overloads_nested (hindent : Indents indent)
    (h : overloadLines spec analyzed className functionName indent = .ok lines) :
    WellNested lines ∧ GuardsOverloads spec analyzed className functionName indent lines := by
  unfold overloadLines at h
  obtain ⟨enhanced, hwritten, h⟩ := bind_eq_ok_iff.1 h
  obtain rfl := Except.ok.inj h
  have henhanced := underGuard_enhancedLines hindent hwritten
  constructor
  · have hswitched : WellNested (s!"#ifndef {Switch.disableEnhanced}" :: enhanced ++
        [s!"#endif /*{Switch.disableEnhanced}*/"]) :=
      henhanced.nested.conditional (by decide) (by decide)
    have hstandard : WellNested (gatedStandardLines spec analyzed functionName indent ++ [""]) :=
      (wellNested_gatedStandardLines hindent).append (by decide)
    have hboth := hstandard.append hswitched
    simpa only [List.append_assoc, List.cons_append, List.nil_append] using hboth
  · refine ⟨⟨underGuard_standardLines hindent _ _ _ _, ?_⟩, enhanced, hwritten, henhanced, ?_⟩
    · simp only [List.append_assoc]
      exact infix_gatedStandardLines.trans (List.prefix_append _ _).isInfix
    · exact List.infix_append _ _ _

end Overloads

/-! ## Handles -/

section Handles

variable {context : Context} {name : String} {handle : Handle} {lines : List String}

/-- The conversions that a switch allows are the only conditional before the methods. -/
theorem wellNested_handleHeadLines (name : String) : WellNested (handleHeadLines name) := by
  show WellNested ([_, _, _, _, _, _, _] ++ (_ :: [_, _, _, _, _, _, _, _, _] ++ [_]) ++ [_])
  refine .append (.append (.of_isCode ?_)
    (.conditional (by decide) (by decide) (.of_isCode ?_))) (.of_isCode ?_)
  · simp [IsCode, toString]
  · simp [IsCode, toString]
  · simp [IsCode]

/-- A word that the same switch takes away is the only conditional after them. -/
theorem wellNested_handleTailLines (name : String) : WellNested (handleTailLines name) := by
  show WellNested (_ :: [_] ++ [_] ++ _)
  refine .append (.conditional (by decide) (by decide) (.of_isCode ?_)) (.of_isCode ?_)
  · simp [IsCode]
  · simp [IsCode, toString]

theorem methodLines_nested {commandName : String}
    (h : methodLines context name commandName = .ok lines) :
    ∃ analyzed, context.command commandName = .ok analyzed ∧ WellNested lines ∧
      GuardsOverloads context.spec analyzed name
        (Command.wrapperName commandName analyzed.command) "    " lines := by
  unfold methodLines at h
  obtain ⟨analyzed, hcommand, h⟩ := bind_eq_ok_iff.1 h
  obtain ⟨overloads, hoverloads, h⟩ := bind_eq_ok_iff.1 h
  obtain rfl := Except.ok.inj h
  have hindent : Indents "    " := rfl
  obtain ⟨hnested, hguards⟩ := overloads_nested hindent hoverloads
  refine ⟨analyzed, hcommand, hnested.append (by decide), hguards.of_infix ?_⟩
  exact (List.prefix_append _ _).isInfix

/-- The class of a handle nests, with the overloads of its methods in it. -/
theorem handleLines_nested (h : handleLines context name handle = .ok lines) :
    UnderGuard handle.guard lines ∧
      ∀ commandName ∈ handle.commands, ∀ analyzed, context.command commandName = .ok analyzed →
        GuardsOverloads context.spec analyzed name
          (Command.wrapperName commandName analyzed.command) "    " lines := by
  unfold handleLines at h
  obtain ⟨methods, hmethods, h⟩ := bind_eq_ok_iff.1 h
  obtain rfl := Except.ok.inj h
  constructor
  · have hmethod : ∀ method ∈ methods, WellNested method := by
      intro method hmem
      obtain ⟨commandName, -, hwritten⟩ := (mem_of_mapM hmethods).1 hmem
      obtain ⟨analyzed, -, hnested, -⟩ := methodLines_nested hwritten
      exact hnested
    refine underGuard_guarded _ (.append (.append ?_ (.flatten hmethod)) ?_)
    · exact wellNested_handleHeadLines name
    · exact wellNested_handleTailLines name
  · intro commandName hcommandName analyzed hcommand
    obtain ⟨method, hmethod, hwritten⟩ := exists_of_mem_mapM hmethods hcommandName
    obtain ⟨found, hfound, -, hguards⟩ := methodLines_nested hwritten
    obtain rfl := Except.ok.inj (hfound.symm.trans hcommand)
    have hmethods : method <:+: handleHeadLines name ++ methods.flatten ++ handleTailLines name :=
      (List.infix_of_mem_flatten hmethod).trans (List.infix_append _ _ _)
    exact hguards.of_infix (hmethods.trans (infix_guarded _ _))

end Handles

/-! ## Entities -/

section Entities

variable {context : Context} {entity : Entity} {block lines : List String}

/-- The guard that the bindings of an entity are under as a whole.  A command has none, since
each of its overloads is under the guard by itself. -/
def entityGuard? (context : Context) (entity : Entity) : Option String :=
  match entity.kind with
  | .command => none
  | kind => kind.lookup?.bind (context.spec.guardOf? · entity.name)

/-- The overloads that are written with an entity: those of a free function by itself, and
those of methods in the class of their handle. -/
inductive WritesOverloads (context : Context) (entity : Entity) :
    Analyzed → (className functionName indent : String) → Prop where
  | freeFunction {analyzed : Analyzed} (hkind : entity.kind = .command)
      (hcommand : context.command entity.name = .ok analyzed)
      (hfree : analyzed.command.isMethod = false) :
      WritesOverloads context entity analyzed "" analyzed.name "  "
  | method {analyzed : Analyzed} {handle : Handle} {commandName : String}
      (hkind : entity.kind = .handle) (hhandle : context.handle entity.name = .ok handle)
      (hmethod : commandName ∈ handle.commands)
      (hcommand : context.command commandName = .ok analyzed) :
      WritesOverloads context entity analyzed entity.name
        (Command.wrapperName commandName analyzed.command) "    "

/-- The lines are the bindings of the entity.  They are well nested, and so are the overloads
among them, and what has a guard is under it. -/
structure NestedBindings (context : Context) (entity : Entity) (block : List String) : Prop where
  written : entityLines context entity = .ok block
  nested : WellNested block
  guard : ∀ guard, entityGuard? context entity = some guard → UnderGuard guard block
  overloads : ∀ analyzed className functionName indent,
    WritesOverloads context entity analyzed className functionName indent →
      GuardsOverloads context.spec analyzed className functionName indent block

/-- The guard of an entity is that of its entry. -/
theorem entityGuard?_eq {kind : EntityKind} {lookup : Lookup} {guard : String}
    (hkind : entity.kind = kind) (hcommand : kind ≠ .command)
    (hlookup : kind.lookup? = some lookup)
    (hguard : context.spec.guardOf? lookup entity.name = some guard) :
    entityGuard? context entity = some guard := by
  unfold entityGuard?
  rw [hkind]
  split
  · contradiction
  · rw [hlookup]
    exact hguard

/-- An entity without commands, of which it is enough to know what guard it is under. -/
theorem nestedBindings_of_guard {kind : EntityKind} {lookup : Lookup} {guard : String}
    (hwritten : entityLines context entity = .ok block) (hkind : entity.kind = kind)
    (hplain : kind ≠ .command ∧ kind ≠ .handle) (hlookup : kind.lookup? = some lookup)
    (hguard : context.spec.guardOf? lookup entity.name = some guard) (h : UnderGuard guard block) :
    NestedBindings context entity block where
  written := hwritten
  nested := h.nested
  guard := by
    intro other hother
    rw [entityGuard?_eq hkind hplain.1 hlookup hguard] at hother
    obtain rfl := Option.some.inj hother
    exact h
  overloads := by
    intro analyzed className functionName indent hwrites
    cases hwrites with
    | freeFunction hcommand => exact absurd (hkind.symm.trans hcommand) hplain.1
    | method hhandle => exact absurd (hkind.symm.trans hhandle) hplain.2

/-- An entity that has no bindings. -/
theorem nestedBindings_of_outside (hkind : entity.kind = .callback ∨ entity.kind = .required)
    (hwritten : entityLines context entity = .ok []) : NestedBindings context entity [] where
  written := hwritten
  nested := .nil
  guard := by
    intro guard hguard
    unfold entityGuard? at hguard
    rcases hkind with hkind | hkind
    · rw [hkind] at hguard
      cases hguard
    · rw [hkind] at hguard
      cases hguard
  overloads := by
    intro analyzed className functionName indent hwrites
    cases hwrites with
    | freeFunction hcommand => simp [hcommand] at hkind
    | method hhandle => simp [hhandle] at hkind

theorem nestedBindings_of_command {analyzed : Analyzed} (hkind : entity.kind = .command)
    (hwritten : entityLines context entity = .ok block)
    (hcommand : context.command entity.name = .ok analyzed)
    (h : freeFunctionLines context.spec analyzed = .ok block) :
    NestedBindings context entity block := by
  have hguard : entityGuard? context entity = none := by
    unfold entityGuard?
    rw [hkind]
  have hindent : Indents "  " := rfl
  have hoverloads : WellNested block ∧ (analyzed.command.isMethod = false →
      GuardsOverloads context.spec analyzed "" analyzed.name "  " block) := by
    unfold freeFunctionLines at h
    split at h
    · rename_i hmethod
      obtain rfl := Except.ok.inj h
      exact ⟨.nil, fun hfree => absurd hmethod (by simp [hfree])⟩
    · obtain ⟨hnested, hguards⟩ := overloads_nested hindent h
      exact ⟨hnested, fun _ => hguards⟩
  refine ⟨hwritten, hoverloads.1, fun guard hother => ?_, ?_⟩
  · rw [hguard] at hother
    cases hother
  · intro other className functionName indent hwrites
    cases hwrites with
    | freeFunction _ hother hfree =>
      obtain rfl := Except.ok.inj (hcommand.symm.trans hother)
      exact hoverloads.2 hfree
    | method hhandle => simp [hhandle] at hkind

theorem nestedBindings_of_handle {handle : Handle} (hkind : entity.kind = .handle)
    (hwritten : entityLines context entity = .ok block)
    (hhandle : context.handle entity.name = .ok handle)
    (h : handleLines context entity.name handle = .ok block) :
    NestedBindings context entity block := by
  have hguard : entityGuard? context entity = some handle.guard :=
    entityGuard?_eq hkind (by decide) rfl
      (congrArg (Option.map Handle.guard) (get?_of_find hhandle))
  obtain ⟨hunder, hmethods⟩ := handleLines_nested h
  refine ⟨hwritten, hunder.nested, fun guard hother => ?_, ?_⟩
  · obtain rfl := Option.some.inj (hguard.symm.trans hother)
    exact hunder
  · intro analyzed className functionName indent hwrites
    cases hwrites with
    | freeFunction hcommand => simp [hcommand] at hkind
    | method _ hother hmethod hcommand =>
      obtain rfl := Except.ok.inj (hhandle.symm.trans hother)
      exact hmethods _ hmethod analyzed hcommand

/-- The lines of every entity nest. -/
theorem nestedBindings_of_entityLines (h : entityLines context entity = .ok block) :
    NestedBindings context entity block := by
  have hwritten := h
  unfold entityLines at h
  cases hkind : entity.kind with
  | command =>
    rw [hkind] at h
    obtain ⟨analyzed, hcommand, h⟩ := bind_eq_ok_iff.1 h
    exact nestedBindings_of_command hkind hwritten hcommand h
  | enum =>
    rw [hkind] at h
    obtain ⟨enumeration, henum, h⟩ := bind_eq_ok_iff.1 h
    obtain rfl := Except.ok.inj h
    have hguard := congrArg (Option.map Enumeration.guard) (get?_of_find henum)
    exact nestedBindings_of_guard hwritten hkind (by decide) rfl hguard underGuard_enumLines
  | flags =>
    rw [hkind] at h
    obtain ⟨bits, hbits, h⟩ := bind_eq_ok_iff.1 h
    obtain ⟨guard, hguard, h⟩ := bind_eq_ok_iff.1 h
    obtain rfl := Except.ok.inj h
    exact nestedBindings_of_guard hwritten hkind (by decide) rfl (get?_of_find hguard)
      underGuard_flagsLines
  | handle =>
    rw [hkind] at h
    obtain ⟨handle, hhandle, h⟩ := bind_eq_ok_iff.1 h
    exact nestedBindings_of_handle hkind hwritten hhandle h
  | scalar =>
    rw [hkind] at h
    obtain ⟨underlying, hunderlying, h⟩ := bind_eq_ok_iff.1 h
    obtain ⟨guard, hguard, h⟩ := bind_eq_ok_iff.1 h
    obtain rfl := Except.ok.inj h
    exact nestedBindings_of_guard hwritten hkind (by decide) rfl (get?_of_find hguard)
      underGuard_scalarLines
  | struct =>
    rw [hkind] at h
    obtain ⟨aggregate, haggregate, h⟩ := bind_eq_ok_iff.1 h
    have hguard := congrArg (Option.map Aggregate.guard) (get?_of_find haggregate)
    exact nestedBindings_of_guard hwritten hkind (by decide) rfl hguard (underGuard_structLines h)
  | union =>
    rw [hkind] at h
    obtain ⟨aggregate, haggregate, h⟩ := bind_eq_ok_iff.1 h
    have hguard := congrArg (Option.map Aggregate.guard) (get?_of_find haggregate)
    exact nestedBindings_of_guard hwritten hkind (by decide) rfl hguard (underGuard_unionLines h)
  | callback =>
    rw [hkind] at h
    obtain rfl := Except.ok.inj h
    exact nestedBindings_of_outside (.inl hkind) hwritten
  | required =>
    rw [hkind] at h
    obtain rfl := Except.ok.inj h
    exact nestedBindings_of_outside (.inr hkind) hwritten

/-- The lines turn values of the entity's type into text.  They are well nested, and under the
guard of the entity if there are any. -/
structure NestedToString (context : Context) (entity : Entity) (block : List String) : Prop where
  written : toStringLines context entity = .ok block
  nested : WellNested block
  guard : ∀ guard, entityGuard? context entity = some guard → block ≠ [] → UnderGuard guard block

theorem nestedToString_of_toStringLines (h : toStringLines context entity = .ok block) :
    NestedToString context entity block := by
  have hwritten := h
  unfold toStringLines at h
  cases hkind : entity.kind with
  | enum =>
    rw [hkind] at h
    obtain ⟨enumeration, henum, h⟩ := bind_eq_ok_iff.1 h
    obtain rfl := Except.ok.inj h
    have hguard : entityGuard? context entity = some enumeration.guard :=
      entityGuard?_eq hkind (by decide) rfl
        (congrArg (Option.map Enumeration.guard) (get?_of_find henum))
    refine ⟨hwritten, underGuard_enumToStringLines.nested, fun other hother _ => ?_⟩
    obtain rfl := Option.some.inj (hguard.symm.trans hother)
    exact underGuard_enumToStringLines
  | flags =>
    rw [hkind] at h
    obtain ⟨bits, hbits, h⟩ := bind_eq_ok_iff.1 h
    obtain ⟨guard, hguard, h⟩ := bind_eq_ok_iff.1 h
    obtain ⟨enumeration, henum, h⟩ := bind_eq_ok_iff.1 h
    obtain rfl := Except.ok.inj h
    have hguard : entityGuard? context entity = some guard :=
      entityGuard?_eq hkind (by decide) rfl (get?_of_find hguard)
    refine ⟨hwritten, underGuard_flagsToStringLines.nested, fun other hother _ => ?_⟩
    obtain rfl := Option.some.inj (hguard.symm.trans hother)
    exact underGuard_flagsToStringLines
  | command | handle | scalar | struct | union | callback | required =>
    rw [hkind] at h
    obtain rfl := Except.ok.inj h
    exact ⟨hwritten, .nil, fun _ _ hblock => absurd rfl hblock⟩

/-! ## All entities -/

theorem WellNested.spacedBlock (h : WellNested block) : WellNested (spacedBlock block) := by
  unfold Wrapper.spacedBlock
  split
  · exact .nil
  · exact h.append (by decide)

/-- What is written for all entities are their blocks, one after another. -/
theorem exists_blocks {write : Entity → Except Failure (List String)} {entities : List Entity}
    {spaced : List (List String)}
    (h : (entities.mapM fun entity => do pure (spacedBlock (← write entity))) = .ok spaced) :
    ∃ blocks, spaced = blocks.map spacedBlock ∧
      List.Forall₂ (fun entity block => write entity = .ok block) entities blocks := by
  have hmap : (entities.mapM write).map (List.map spacedBlock) = .ok spaced := by
    rw [map_mapM, ← h]
    rfl
  cases hblocks : entities.mapM write with
  | error failure =>
    rw [hblocks] at hmap
    cases hmap
  | ok blocks =>
    rw [hblocks] at hmap
    exact ⟨blocks, (Except.ok.inj hmap).symm, forall₂_of_mapM hblocks⟩

/-- The lines are well nested, and made up of blocks that are so as well and belong to the
entities, in their order, as related. -/
def NestInBlocks (context : Context) (related : Context → Entity → List String → Prop)
    (lines : List String) : Prop :=
  WellNested lines ∧ ∃ blocks, lines = (blocks.map spacedBlock).flatten ∧
    List.Forall₂ (related context) (context.entities.filter (!isResultEnum ·)) blocks

theorem nestInBlocks_of_mapM {write : Entity → Except Failure (List String)}
    {related : Context → Entity → List String → Prop} {spaced : List (List String)}
    (hwrite : ∀ entity block, write entity = .ok block → related context entity block)
    (hnested : ∀ entity block, related context entity block → WellNested block)
    (h : ((context.entities.filter (!isResultEnum ·)).mapM fun entity => do
      pure (spacedBlock (← write entity))) = .ok spaced) :
    NestInBlocks context related spaced.flatten := by
  constructor
  · refine .flatten fun lines hlines => ?_
    obtain ⟨entity, -, hlines⟩ := (mem_of_mapM h).1 hlines
    obtain ⟨block, hblock, hlines⟩ := bind_eq_ok_iff.1 hlines
    obtain rfl := Except.ok.inj hlines
    exact (hnested entity block (hwrite entity block hblock)).spacedBlock
  · obtain ⟨blocks, rfl, hall⟩ := exists_blocks h
    exact ⟨blocks, rfl, hall.imp hwrite⟩

/-- The conditionals of the bindings nest, and so do those of the functions that turn values
into text: in all lines, in the block of each entity, and in the overloads of each command.
What has a guard is a conditional by itself, which is closed by a line that names it. -/
theorem conditionals_nest (context : Context) :
    (∀ lines, typeLines context = .ok lines → NestInBlocks context NestedBindings lines) ∧
      ∀ lines, allToStringLines context = .ok lines →
        NestInBlocks context NestedToString lines := by
  constructor
  · intro lines h
    unfold typeLines at h
    obtain ⟨spaced, hspaced, h⟩ := bind_eq_ok_iff.1 h
    obtain rfl := Except.ok.inj h
    refine nestInBlocks_of_mapM ?_ ?_ hspaced
    · exact fun entity block => nestedBindings_of_entityLines
    · exact fun entity block hblock => hblock.nested
  · intro lines h
    unfold allToStringLines at h
    obtain ⟨spaced, hspaced, h⟩ := bind_eq_ok_iff.1 h
    obtain rfl := Except.ok.inj h
    refine nestInBlocks_of_mapM ?_ ?_ hspaced
    · exact fun entity block => nestedToString_of_toStringLines
    · exact fun entity block hblock => hblock.nested

/-- A command that is a method, and its parameters have no roles. -/
def sampleReset : Analyzed where
  name := "resetDevice"
  command :=
    { returnType := Registry.voidType
      arguments := [⟨"Device", "device", "Device", "", "", false⟩]
      successCodes := []
      guard := "VK_USE_RESET"
      owner := some "Device"
      twoStep := false }
  roles := { arrays := [], counts := [], output := none, buffer := none, hasPointers := false }

/-- An enum under a guard. -/
def sampleUsage : Enumeration :=
  { Enumeration.bare false "" "" with
    members := [⟨"eOnce", "VK_USAGE_ONCE"⟩], guard := "VK_USE_USAGE" }

/-- A handle under one guard with a method under another one, and an enum. -/
def sampleGuarded : Context where
  spec := { Spec.initial with
    handles := Table.ofList [("Device", ⟨["resetDevice"], "VK_USE_DEVICE"⟩)]
    enums := Table.ofList [("Usage", sampleUsage)] }
  entities := [⟨⟨"Device", ∅⟩, .handle⟩, ⟨⟨"Usage", ∅⟩, .enum⟩]
  analyzed := Table.ofList [("resetDevice", sampleReset)]
  defaults := ∅

/-- The guard of the method is inside that of its handle. -/
theorem guarded_method_nests : ∃ types toStrings,
    typeLines sampleGuarded = .ok types ∧ allToStringLines sampleGuarded = .ok toStrings ∧
      "#ifdef VK_USE_DEVICE" ∈ types ∧ "#ifdef VK_USE_RESET" ∈ types ∧
      "#ifdef VK_USE_USAGE" ∈ toStrings ∧
      NestInBlocks sampleGuarded NestedBindings types ∧
      NestInBlocks sampleGuarded NestedToString toStrings := by
  have htypes : (typeLines sampleGuarded).toOption.any (fun types =>
      decide ("#ifdef VK_USE_DEVICE" ∈ types ∧ "#ifdef VK_USE_RESET" ∈ types)) = true := by
    decide +kernel
  have htoStrings : (allToStringLines sampleGuarded).toOption.any (fun toStrings =>
      decide ("#ifdef VK_USE_USAGE" ∈ toStrings)) = true := by
    decide +kernel
  obtain ⟨types, htypes, hguards⟩ := exists_of_any htypes
  obtain ⟨toStrings, htoStrings, husage⟩ := exists_of_any htoStrings
  obtain ⟨hdevice, hreset⟩ := of_decide_eq_true hguards
  obtain ⟨hbindings, htext⟩ := conditionals_nest sampleGuarded
  exact ⟨types, toStrings, htypes, htoStrings, hdevice, hreset, of_decide_eq_true husage,
    hbindings types htypes, htext toStrings htoStrings⟩

end Entities

end VulkanBindings.Wrapper
