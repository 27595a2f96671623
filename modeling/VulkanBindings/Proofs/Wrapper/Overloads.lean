import Mathlib.Data.List.DropRight
import VulkanBindings.Proofs.Wrapper.Nesting
import VulkanBindings.Proofs.Wrapper.Passing

/-!
# Overloads that collide

Two overloads of one name need different types of parameters.  The types are compared as they
are written, with names and defaults left out (`Member.unnamed`, `Parameter.unnamed`).  Where
the standard overload has an asterisk, the enhanced one has none, so that a parameter is
written alike in both only if it is taken by value (`unnamed_parameterAt_iff`).

The standard overload makes way for the enhanced one if the command has no pointers of one
level.  This asks for more than it should: the handle of a method is among the parameters
that are looked at, and it is a parameter of neither overload.  `overloads_collide_iff` says
that this is the only way for overloads of the same types to be seen together, and
`handle_pointer_collides` gives a method for which they are.
-/

namespace VulkanBindings.Registry

/-- The declaration without the name: what is left is the type. -/
def Member.unnamed (member : Member) : String :=
  { member with name := "" }.declaration

end VulkanBindings.Registry

namespace VulkanBindings.Wrapper

open Analysis (Analyzed Position argument allPositions)
open Registry (Command Member Spec)

/-- The declaration without name and default: what is left is the type. -/
def Parameter.unnamed (parameter : Parameter) : String :=
  { parameter with name := "" }.declaration

/-- The types of the parameters of the standard overload. -/
def standardTypes (command : Command) : List String :=
  (ownArguments command).map Member.unnamed

/-- The types of the parameters of an enhanced overload. -/
def Signature.types (signature : Signature) : List String :=
  signature.parameters.map Parameter.unnamed

/-! ## Types of single parameters -/

section Types

variable {member : Member} {parameter : Parameter}

/-- What a type with an asterisk points to has none. -/
theorem star_notMem_target (h : member.hasStar = true) : '*' ∉ (target member.type).toList := by
  have hcut : (Text.cut? "*" member.type).isSome = true := by
    rw [Text.cut?, Option.isSome_map]
    exact h
  obtain ⟨⟨before, rest⟩, hcut⟩ := Option.isSome_iff_exists.1 hcut
  have htarget : target member.type = Text.trimEnd before := by
    unfold target
    rw [hcut]
  rw [htarget, toList_trimEnd]
  intro hstar
  exact (cut?_star hcut).2 ((List.rdropWhile_prefix _ _).subset hstar)

theorem star_mem_unnamed (h : member.hasStar = true) : '*' ∈ member.unnamed.toList := by
  have hstar := Registry.Member.hasStar_iff.1 h
  simp [Member.unnamed, Member.declaration, toString, hstar]

/-- What is left of a longer text without its end is not the shorter one, unless the end
reaches into what was put in front. -/
theorem ne_rdropWhile_append {drop : Char → Bool} {front : List Char} (hfront : front ≠ [])
    (hlast : drop (front.getLast hfront) = false) (rest : List Char) :
    rest ≠ (front ++ rest).rdropWhile drop := by
  intro hrest
  have hself : (front ++ rest).rdropWhile drop = front ++ rest := by
    refine List.rdropWhile_eq_self_iff.2 fun hne => ?_
    by_cases hempty : rest = []
    · subst hempty
      simpa using hlast
    · have hdropped : (front ++ rest).rdropWhile drop ≠ [] := fun hnil => hempty (hrest.trans hnil)
      have hend := List.rdropWhile_last_not drop (front ++ rest) hdropped
      rw [List.getLast_congr hdropped hempty hrest.symm] at hend
      rwa [List.getLast_append_of_ne_nil _ hempty]
  rw [hself, List.self_eq_append_left] at hrest
  exact hfront hrest

/-- A type without an asterisk is not that of a proxy for what it points to, since its last
character and the blanks before it are dropped. -/
theorem ne_proxy_target {type : String} (h : '*' ∉ type.toList) :
    type ≠ "ArrayProxy<" ++ target type ++ ">" := by
  intro htype
  have hcut : Text.cut? "*" type = none := by
    by_contra hcut
    obtain ⟨⟨before, rest⟩, hcut⟩ := Option.ne_none_iff_exists'.1 hcut
    apply h
    rw [(cut?_star hcut).1]
    simp
  have htarget : target type = Text.trimEnd (String.ofList type.toList.dropLast) := by
    unfold target
    rw [hcut]
  have hchars : type.toList.dropLast = "ArrayProxy<".toList ++ (target type).toList := by
    have hsplit := congrArg String.toList htype
    rw [String.toList_append, String.toList_append] at hsplit
    rw [hsplit]
    exact List.dropLast_concat
  have hpointed := congrArg String.toList htarget
  rw [toList_trimEnd, String.toList_ofList, hchars] at hpointed
  exact ne_rdropWhile_append (by decide) (by decide) _ hpointed

end Types

/-! ## Parameters that stay as they are -/

/-- The type of a parameter is spelled like the proxy that stands for a buffer. -/
def SpelledAsProxy (member : Member) : Prop :=
  (member.type = "ArrayProxy<T>" ∨ member.type = "ArrayProxy<const T>") ∧ member.arraySize = ""

/-- The enhanced overload takes the parameter at a position as it is declared: by value, unless
it is a buffer whose type is spelled like a proxy to begin with. -/
def TakenAsDeclared (analyzed : Analyzed) (position : Position analyzed.command) : Prop :=
  match analyzed.roles.arrays.lookup position with
  | some _ => analyzed.roles.buffer = some position ∧ SpelledAsProxy (argument position)
  | none => (argument position).hasStar = false

section Forms

variable {spec : Spec} {analyzed : Analyzed} {position : Position analyzed.command}
  {member : Member} {parameter : Parameter}

/-- The types of the parameters of pointers have no asterisk. -/
theorem star_notMem_pointerParameter (h : member.hasStar = true) :
    '*' ∉ (pointerParameter member).unnamed.toList := by
  have htarget := star_notMem_target h
  unfold pointerParameter
  dsimp only
  split
  · split <;> simp [Parameter.unnamed, Parameter.declaration, toString]
  · split <;> simp [Parameter.unnamed, Parameter.declaration, toString, htarget]

theorem star_notMem_arrayParameter (h : member.hasStar = true) (isBuffer symbolic : Bool) :
    '*' ∉ (arrayParameter member isBuffer symbolic).unnamed.toList := by
  have htarget := star_notMem_target h
  unfold arrayParameter
  dsimp only
  split
  · split <;> simp [Parameter.unnamed, Parameter.declaration, toString]
  · split
    · split <;> simp [Parameter.unnamed, Parameter.declaration, toString]
    · simp [Parameter.unnamed, Parameter.declaration, toString, htarget]

theorem hasStar_of_stars (h : member.stars = 1) : member.hasStar = true := by
  unfold Registry.Member.stars at h
  rw [Registry.Member.hasStar_iff]
  exact List.count_pos_iff.1 (by omega)

theorem hasStar_of_isText (h : member.isText = true) : member.hasStar = true :=
  hasStar_of_stars (beq_iff_eq.1 (Bool.and_eq_true_iff.1 h).2)

/-- The type of an array proxy, written out. -/
theorem unnamed_proxy (element : String) (name : String) (default : Option String) :
    (Parameter.mk (.array element) name default).unnamed =
      "ArrayProxy<" ++ element ++ ">" ++ " " := by
  simp [Parameter.unnamed, Parameter.declaration, toString, String.append_assoc]

theorem unnamed_eq_iff {type : String} :
    member.unnamed = type ++ " " ↔ member.type = type ∧ member.arraySize = "" := by
  have hunnamed : member.unnamed = member.type ++ " " ++
      if member.arraySize = "" then "" else "[" ++ member.arraySize ++ "]" := by
    simp [Member.unnamed, Member.declaration, Member.declarator, toString]
  rw [hunnamed]
  by_cases hsize : member.arraySize = ""
  · simp [hsize]
  · rw [if_neg hsize]
    constructor
    · intro hsame
      have hlast := congrArg (fun text : String => text.toList.getLast?) hsame
      simp [List.getLast?_cons] at hlast
    · rintro ⟨-, hnone⟩
      exact absurd hnone hsize

theorem hasStar_eq_false_of_spelledAsProxy (h : SpelledAsProxy member) :
    member.hasStar = false := by
  unfold Registry.Member.hasStar
  rcases h.1 with htype | htype
  · rw [htype]
    decide
  · rw [htype]
    decide

/-- The proxy for a buffer is spelled with `const` just as the type that it stands for. -/
theorem eq_proxy_iff : member.type =
      "ArrayProxy<" ++ (if member.mentionsConst then "const T" else "T") ++ ">" ↔
    member.type = "ArrayProxy<T>" ∨ member.type = "ArrayProxy<const T>" := by
  unfold Registry.Member.mentionsConst
  constructor
  · intro htype
    split at htype
    · exact .inr htype
    · exact .inl htype
  · rintro (htype | htype)
    · rw [htype]
      decide
    · rw [htype]
      decide

/-- An array is only declared alike if it is a buffer and its type happens to be spelled so. -/
theorem unnamed_arrayParameter_iff (isBuffer symbolic : Bool) :
    member.unnamed = (arrayParameter member isBuffer symbolic).unnamed ↔
      isBuffer = true ∧ SpelledAsProxy member := by
  cases hstar : member.hasStar with
  | true =>
    constructor
    · intro hsame
      have hnone := star_notMem_arrayParameter hstar isBuffer symbolic
      rw [← hsame] at hnone
      exact absurd (star_mem_unnamed hstar) hnone
    · rintro ⟨-, hspelled⟩
      rw [hasStar_eq_false_of_spelledAsProxy hspelled] at hstar
      cases hstar
  | false =>
    have htext : ¬member.isText = true := by
      intro htext
      rw [hasStar_of_isText htext] at hstar
      cases hstar
    have hnone : '*' ∉ member.type.toList := by
      rw [← Registry.Member.hasStar_iff, hstar]
      exact Bool.false_ne_true
    unfold arrayParameter
    rw [if_neg htext]
    cases isBuffer with
    | true =>
      rw [if_pos rfl, unnamed_proxy, unnamed_eq_iff, eq_proxy_iff]
      exact ⟨fun hspelled => ⟨rfl, hspelled⟩, fun hspelled => hspelled.2⟩
    | false =>
      rw [if_neg Bool.false_ne_true, unnamed_proxy, unnamed_eq_iff]
      constructor
      · intro hspelled
        exact absurd hspelled.1 (ne_proxy_target hnone)
      · rintro ⟨hbuffer, -⟩
        cases hbuffer

/-- What both overloads have at a position is declared alike just if it is taken so. -/
theorem unnamed_parameterAt_iff (h : parameterAt spec analyzed position = .ok parameter) :
    (argument position).unnamed = parameter.unnamed ↔ TakenAsDeclared analyzed position := by
  unfold parameterAt at h
  unfold TakenAsDeclared
  cases harray : analyzed.roles.arrays.lookup position with
  | some count =>
    simp only [harray] at h ⊢
    obtain rfl := Except.ok.inj h
    rw [unnamed_arrayParameter_iff, decide_eq_true_iff]
  | none =>
    simp only [harray] at h ⊢
    cases hstar : (argument position).hasStar with
    | true =>
      rw [if_pos hstar] at h
      obtain rfl := Except.ok.inj h
      constructor
      · intro hsame
        have hnone := star_notMem_pointerParameter hstar
        rw [← hsame] at hnone
        exact absurd (star_mem_unnamed hstar) hnone
      · intro hfalse
        cases hfalse
    | false =>
      rw [if_neg (by simp [hstar])] at h
      obtain ⟨default, rfl⟩ := valueParameter_eq_ok h
      simp [Registry.Member.unnamed, Registry.Member.declaration, Registry.Member.declarator,
        Parameter.unnamed, Parameter.declaration, brackets, toString]

end Forms

/-! ## Lists of types -/

section Lists

variable {spec : Spec} {analyzed : Analyzed} {functionName : String} {signature : Signature}

/-- Two lists of which each pair of elements is known to be alike or not. -/
theorem map_eq_map_iff_of_forall₂ {α β γ : Type} {left : α → γ} {right : β → γ}
    {alike : α → Prop} {items : List α} {others : List β}
    (h : List.Forall₂ (fun item other => left item = right other ↔ alike item) items others) :
    items.map left = others.map right ↔ ∀ item ∈ items, alike item := by
  induction h with
  | nil => simp
  | cons hfirst _ ih =>
    rw [List.map_cons, List.map_cons, List.cons.injEq, List.forall_mem_cons, hfirst, ih]

/-- Both overloads have the same types just if every parameter of the standard one is kept,
and taken as it is declared. -/
theorem standardTypes_eq_iff (h : signatureOf spec analyzed functionName = .ok signature) :
    standardTypes analyzed.command = signature.types ↔
      ∀ position ∈ ownPositions analyzed.command,
        position ∈ keptPositions analyzed ∧ TakenAsDeclared analyzed position := by
  obtain ⟨parameters, hparameters, -, hsettled⟩ := signatureOf_eq_ok h
  have halike : List.Forall₂ (fun position parameter =>
      (argument position).unnamed = Parameter.unnamed parameter ↔
        TakenAsDeclared analyzed position)
      (keptPositions analyzed) signature.parameters := by
    rw [hsettled]
    refine forall₂_settleDefaults (fun _ _ _ hparameter => hparameter) ?_
    exact (forall₂_of_mapM hparameters).imp fun _ _ => unnamed_parameterAt_iff
  have htypes : standardTypes analyzed.command =
      (ownPositions analyzed.command).map fun position => (argument position).unnamed := by
    unfold standardTypes
    rw [ownArguments_eq, List.map_map]
    rfl
  rw [htypes]
  unfold Signature.types
  constructor
  · intro hsame
    have hlength := congrArg List.length hsame
    rw [List.length_map, List.length_map, ← halike.length_eq] at hlength
    have hkept : keptPositions analyzed = ownPositions analyzed.command :=
      (List.filter_sublist).eq_of_length hlength.symm
    rw [hkept] at halike ⊢
    intro position hposition
    exact ⟨hposition, (map_eq_map_iff_of_forall₂ halike).1 hsame position hposition⟩
  · intro hall
    have hkept : keptPositions analyzed = ownPositions analyzed.command :=
      List.filter_eq_self.2 fun position hposition =>
        (List.mem_filter.1 (hall position hposition).1).2
    rw [hkept] at halike
    exact (map_eq_map_iff_of_forall₂ halike).2 fun position hposition => (hall position hposition).2

end Lists

/-! ## Overloads that are seen -/

/-- Whether the standard overload of a command is there for a program that defines the given
macros. -/
def showsStandard (defined : String → Bool) (analyzed : Analyzed) : Bool :=
  analyzed.roles.hasPointers || defined Switch.disableEnhanced

/-- Whether enhanced overloads are there for a program that defines the given macros. -/
def showsEnhanced (defined : String → Bool) : Bool :=
  !defined Switch.disableEnhanced

/-- The only parameter that makes both overloads appear is the handle, which neither of them
takes, and whatever they do take they take alike. -/
structure OnlyHandlePoints (analyzed : Analyzed) : Prop where
  isMethod : analyzed.command.isMethod = true
  handle : ∃ handle, analyzed.command.arguments.head? = some handle ∧ handle.stars = 1
  others : ∀ position ∈ ownPositions analyzed.command,
    position ∈ keptPositions analyzed ∧ TakenAsDeclared analyzed position

section Seen

variable {spec : Spec} {name className functionName indent : String} {command : Command}
  {analyzed : Analyzed} {lines enhanced : List String} {signature : Signature}
  {defined : String → Bool}

theorem compiled_gatedStandardLines (hindent : Indents indent) :
    compiled defined [] (gatedStandardLines spec analyzed functionName indent) =
      if showsStandard defined analyzed = true then
        compiled defined []
          (standardLines spec.wrapped analyzed.name functionName indent analyzed.command)
      else [] := by
  have hstandard := (underGuard_standardLines hindent spec.wrapped analyzed.name functionName
    analyzed.command).nested
  unfold gatedStandardLines showsStandard
  dsimp only
  split
  · rename_i hpointers
    rw [hpointers, Bool.true_or, if_pos rfl]
  · rename_i hpointers
    rw [eq_false_of_ne_true hpointers, Bool.false_or,
      ← holds_ifdef defined Switch.disableEnhanced]
    exact compiled_conditional (directive?_ifdef _) (by decide) hstandard

/-- The switch decides about the enhanced overload, and about the standard one of a command
without pointers. -/
theorem compiled_overloadLines (hindent : Indents indent)
    (hlines : overloadLines spec analyzed className functionName indent = .ok lines)
    (henhanced : enhancedLines spec analyzed className functionName indent = .ok enhanced) :
    compiled defined [] lines =
      (if showsStandard defined analyzed = true then
        compiled defined []
          (standardLines spec.wrapped analyzed.name functionName indent analyzed.command)
        else []) ++ [""] ++
      if showsEnhanced defined = true then compiled defined [] enhanced else [] := by
  unfold overloadLines at hlines
  obtain ⟨written, hwritten, hlines⟩ := bind_eq_ok_iff.1 hlines
  obtain rfl := Except.ok.inj (hwritten.symm.trans henhanced)
  obtain rfl := Except.ok.inj hlines
  have hswitched : compiled defined [] (s!"#ifndef {Switch.disableEnhanced}" :: written ++
      [s!"#endif /*{Switch.disableEnhanced}*/"]) =
        if showsEnhanced defined = true then compiled defined [] written else [] := by
    unfold showsEnhanced
    rw [← holds_ifndef]
    exact compiled_conditional (by decide) (directive?_endif _)
      (underGuard_enhancedLines hindent hwritten).nested
  have hsplit : ∀ before after : List String,
      before ++ ["", s!"#ifndef {Switch.disableEnhanced}"] ++ written ++ after =
        before ++ ([""] ++ (s!"#ifndef {Switch.disableEnhanced}" :: written ++ after)) := by
    intro before after
    simp
  have hblank : WellNested [""] := by decide
  rw [hsplit, (wellNested_gatedStandardLines hindent).compiled_append, hblank.compiled_append,
    hswitched, compiled_gatedStandardLines hindent, List.append_assoc]
  rfl

theorem hasStar_of_takenAsDeclared {position : Position analyzed.command}
    (h : TakenAsDeclared analyzed position) : (argument position).hasStar = false := by
  unfold TakenAsDeclared at h
  split at h
  · exact hasStar_eq_false_of_spelledAsProxy h.2
  · exact h

theorem hasPointers_of_analyze (h : Analysis.analyze name command = .ok analyzed) :
    analyzed.roles.hasPointers = Analysis.hasPointers analyzed.command := by
  have hroles := rolesOf_of_analyze h
  unfold Analysis.rolesOf at hroles
  obtain ⟨arrays, -, hroles⟩ := bind_eq_ok_iff.1 hroles
  obtain ⟨counts, -, hroles⟩ := bind_eq_ok_iff.1 hroles
  obtain ⟨output, -, hroles⟩ := bind_eq_ok_iff.1 hroles
  obtain ⟨buffer, -, hroles⟩ := bind_eq_ok_iff.1 hroles
  exact congrArg Analysis.Roles.hasPointers (Except.ok.inj hroles).symm

/-- Overloads of the same types are only seen together if just the handle is a pointer. -/
theorem onlyHandlePoints_of_taken (hpointers : Analysis.hasPointers analyzed.command = true)
    (htaken : ∀ position ∈ ownPositions analyzed.command,
      position ∈ keptPositions analyzed ∧ TakenAsDeclared analyzed position) :
    OnlyHandlePoints analyzed := by
  obtain ⟨pointer, hpointer, hstars⟩ := List.any_eq_true.1 hpointers
  have hown : pointer ∉ ownArguments analyzed.command := by
    rw [ownArguments_eq]
    intro hmem
    obtain ⟨position, hposition, rfl⟩ := List.mem_map.1 hmem
    have hnone := hasStar_of_takenAsDeclared (htaken position hposition).2
    rw [hasStar_of_stars (beq_iff_eq.1 hstars)] at hnone
    cases hnone
  unfold ownArguments at hown
  split at hown
  · rename_i hmethod
    cases harguments : analyzed.command.arguments with
    | nil =>
      rw [harguments] at hpointer
      cases hpointer
    | cons handle rest =>
      rw [harguments] at hpointer hown
      refine ⟨hmethod, ⟨handle, ?_, ?_⟩, htaken⟩
      · rw [harguments]
        rfl
      · rcases List.mem_cons.1 hpointer with rfl | hrest
        · exact beq_iff_eq.1 hstars
        · exact absurd hrest hown
  · exact absurd hpointer hown

/-- What a program that defines the given macros sees of the overloads of a command. -/
structure Shows (defined : String → Bool) (spec : Spec) (analyzed : Analyzed)
    (functionName indent : String) (signature : Signature) (lines enhanced : List String) :
    Prop where
  lines_eq : compiled defined [] lines =
    (if showsStandard defined analyzed = true then
      compiled defined []
        (standardLines spec.wrapped analyzed.name functionName indent analyzed.command)
      else []) ++ [""] ++
    if showsEnhanced defined = true then compiled defined [] enhanced else []
  /-- Where the command itself is there, so are the declarations of the overloads. -/
  declared : analyzed.command.guard = "" ∨ defined analyzed.command.guard = true →
    standardHeader functionName indent analyzed.command ∈ compiled defined []
        (standardLines spec.wrapped analyzed.name functionName indent analyzed.command) ∧
      ∀ line ∈ signature.lines indent, line ∈ compiled defined [] enhanced
  either : showsStandard defined analyzed = true ∨ showsEnhanced defined = true
  collide_iff : showsStandard defined analyzed = true → showsEnhanced defined = true →
    (standardTypes analyzed.command = signature.types ↔ OnlyHandlePoints analyzed)

/-- At least one overload of a command can be seen at any setting of the switch.  Where both
can, the types of their parameters differ, unless the command is a method that has both
overloads for the sake of its handle alone. -/
theorem overloads_collide_iff (hanalyze : Analysis.analyze name command = .ok analyzed)
    (hindent : Indents indent)
    (hlines : overloadLines spec analyzed className functionName indent = .ok lines) :
    ∃ signature enhanced, signatureOf spec analyzed functionName = .ok signature ∧
      enhancedLines spec analyzed className functionName indent = .ok enhanced ∧
      ∀ defined, Shows defined spec analyzed functionName indent signature lines enhanced := by
  have hwritten := hlines
  unfold overloadLines at hwritten
  obtain ⟨enhanced, henhanced, -⟩ := bind_eq_ok_iff.1 hwritten
  obtain ⟨signature, body, hoverload⟩ := exists_isOverload henhanced
  refine ⟨signature, enhanced, hoverload.signature_eq, henhanced, fun defined => ?_⟩
  refine ⟨compiled_overloadLines hindent hlines henhanced, fun hguard => ⟨?_, ?_⟩, ?_, ?_⟩
  · have hcode := isCode_standardLines hindent spec.wrapped analyzed.name functionName
      analyzed.command
    unfold standardLines
    rw [compiled_guarded (.of_isCode hcode), if_pos hguard, compiled_of_isCode hcode]
    exact List.mem_cons_self
  · intro line hline
    have hcode := isCode_signatureLines hindent signature
    rw [hoverload.lines_eq, compiled_guarded (wellNested_signature_body hindent signature body),
      if_pos hguard, (WellNested.of_isCode hcode).compiled_append, compiled_of_isCode hcode]
    exact List.mem_append_left _ hline
  · unfold showsStandard showsEnhanced
    cases defined Switch.disableEnhanced with
    | true => exact .inl (Bool.or_true _)
    | false => exact .inr rfl
  · intro hstandard henhanced
    rw [standardTypes_eq_iff hoverload.signature_eq]
    refine ⟨fun htaken => ?_, fun honly => honly.others⟩
    have hswitch : defined Switch.disableEnhanced = false := by
      simpa [showsEnhanced] using henhanced
    have hpointers : Analysis.hasPointers analyzed.command = true := by
      unfold showsStandard at hstandard
      rw [hswitch, Bool.or_false] at hstandard
      rw [← hasPointers_of_analyze hanalyze]
      exact hstandard
    exact onlyHandlePoints_of_taken hpointers htaken

/-- A method that takes a pointer next to its handle has overloads of different types, both of
which a program without macros sees. -/
theorem description_overloads_differ :
    ∃ analyzed lines signature enhanced,
      Analysis.analyze "describe" sampleDescription = .ok analyzed ∧
      overloadLines sampleWrapping analyzed "Device" "describe" "    " = .ok lines ∧
      Shows (fun _ => false) sampleWrapping analyzed "describe" "    " signature lines enhanced ∧
      showsStandard (fun _ => false) analyzed = true ∧ showsEnhanced (fun _ => false) = true ∧
      standardTypes analyzed.command ≠ signature.types := by
  have hsample : (Analysis.rolesOf "describe" sampleDescription).toOption.any (fun roles =>
      roles.hasPointers && (overloadLines sampleWrapping ⟨"describe", sampleDescription, roles⟩
        "Device" "describe" "    ").toOption.isSome) = true := by
    decide +kernel
  obtain ⟨roles, hroles, hboth⟩ := exists_of_any hsample
  obtain ⟨hpointers, hwritten⟩ := Bool.and_eq_true_iff.1 hboth
  obtain ⟨lines, hlines⟩ := Option.isSome_iff_exists.1 hwritten
  have hlines := toOption_eq_some.1 hlines
  have hanalyze : Analysis.analyze "describe" sampleDescription =
      .ok ⟨"describe", sampleDescription, roles⟩ :=
    Analysis.analyze_eq_ok_iff.2 ⟨roles, hroles, rfl⟩
  have hindent : Indents "    " := rfl
  obtain ⟨signature, enhanced, -, -, hshows⟩ := overloads_collide_iff hanalyze hindent hlines
  have hstandard : showsStandard (fun _ => false) ⟨"describe", sampleDescription, roles⟩ = true :=
    Bool.or_eq_true_iff.2 (.inl hpointers)
  refine ⟨_, lines, signature, enhanced, hanalyze, hlines, hshows _, hstandard, rfl, ?_⟩
  intro hsame
  obtain ⟨handle, hhandle, hstars⟩ := (((hshows _).collide_iff hstandard rfl).1 hsame).handle
  obtain rfl := Option.some.inj hhandle
  exact absurd hstars (by decide)

/-- A command that takes the pointer to its handle, and a number. -/
def trimElement : Xml.Node :=
  ⟨"command", [],
   [.element "proto" []
     [.element "type" [] [.text "void"], .element "name" [] [.text "vkTrimDevice"]],
    .element "param" []
     [.text "const ", .element "type" [] [.text "VkDevice"], .text "*",
      .element "name" [] [.text "pDevice"]],
    .element "param" []
     [.element "type" [] [.text "uint32_t"], .element "name" [] [.text "mask"]]]⟩

/-- A registry that has the handle only. -/
def deviceOnly : Spec :=
  { Spec.initial with
    handles := Table.ofList [("Device", ⟨[], ""⟩)], wrapped := NameSet.ofList ["Device"] }

/-- The overloads of a method that takes its handle by a pointer and nothing else by one are
both seen by a program without macros, and the types of their parameters are the same. -/
theorem handle_pointer_collides :
    ∃ spec command analyzed lines signature,
      Registry.readCommand trimElement deviceOnly = .ok spec ∧
      spec.commands.get? "trimDevice" = some command ∧
      Analysis.analyze "trimDevice" command = .ok analyzed ∧
      overloadLines spec analyzed "Device" "trim" "    " = .ok lines ∧
      signatureOf spec analyzed "trim" = .ok signature ∧
      (∀ defined, defined Switch.disableEnhanced = false →
        showsStandard defined analyzed = true ∧ showsEnhanced defined = true) ∧
      standardTypes command = ["uint32_t "] ∧ signature.types = ["uint32_t "] := by
  have hsample : (Registry.readCommand trimElement deviceOnly).toOption.any (fun spec =>
      (spec.commands.get? "trimDevice").any fun command =>
        (Analysis.analyze "trimDevice" command).toOption.any fun analyzed =>
          (overloadLines spec analyzed "Device" "trim" "    ").toOption.any fun _ =>
            (signatureOf spec analyzed "trim").toOption.any fun signature =>
              analyzed.roles.hasPointers && standardTypes command == ["uint32_t "] &&
                signature.types == ["uint32_t "]) = true := by
    decide +kernel
  obtain ⟨spec, hread, hsample⟩ := exists_of_any hsample
  obtain ⟨command, hcommand, hsample⟩ := (Option.any_eq_true _ _).1 hsample
  obtain ⟨analyzed, hanalyze, hsample⟩ := exists_of_any hsample
  obtain ⟨lines, hlines, hsample⟩ := exists_of_any hsample
  obtain ⟨signature, hsignature, hsample⟩ := exists_of_any hsample
  obtain ⟨hboth, henhanced⟩ := Bool.and_eq_true_iff.1 hsample
  obtain ⟨hpointers, hstandard⟩ := Bool.and_eq_true_iff.1 hboth
  refine ⟨spec, command, analyzed, lines, signature, hread, hcommand, hanalyze, hlines,
    hsignature, fun defined hswitch => ⟨?_, ?_⟩, beq_iff_eq.1 hstandard, beq_iff_eq.1 henhanced⟩
  · exact Bool.or_eq_true_iff.2 (.inl hpointers)
  · unfold showsEnhanced
    rw [hswitch]
    rfl

end Seen

end VulkanBindings.Wrapper
