import Mathlib.Data.List.DropRight
import VulkanBindings.Proofs.Wrapper.Passing

/-!
# Default arguments

A caller may leave out the last arguments of an enhanced overload, as many as have a default.
`DefaultText` says which parameters have one, and what it is: pointers and texts that may be
absent, and flags without bits in last place.  Each parameter is looked at by itself
(`default_eq_some_iff`), and what is found is only kept at the end of the list
(`settleDefaults_eq`), since a parameter without a default has to be passed and so has every
parameter before it.

`defaults_lawful_and_maximal` says that this keeps as many defaults as there can be.
-/

namespace VulkanBindings.Wrapper

open Analysis (Analyzed Position argument allPositions)
open Naming (reduced)
open Registry (Member Spec)

/-! ## The last defaults -/

/-- The elements at the end of a list with a property are the longest suffix of such elements. -/
theorem suffix_rtakeWhile {α : Type} {p : α → Bool} {items suffix : List α}
    (h : suffix <:+ items) (hall : ∀ item ∈ suffix, p item = true) :
    suffix <:+ items.rtakeWhile p := by
  obtain ⟨before, rfl⟩ := h
  rw [List.rtakeWhile, List.reverse_append, List.takeWhile_append_of_pos (by simpa using hall),
    List.reverse_append, List.reverse_reverse]
  exact List.suffix_append _ _

theorem rdropWhile_map {α β : Type} (f : α → β) (p : β → Bool) (items : List α) :
    (items.map f).rdropWhile p = (items.rdropWhile (p ∘ f)).map f := by
  rw [List.rdropWhile, List.rdropWhile, ← List.map_reverse, List.dropWhile_map, List.map_reverse]

theorem rtakeWhile_map {α β : Type} (f : α → β) (p : β → Bool) (items : List α) :
    (items.map f).rtakeWhile p = (items.rtakeWhile (p ∘ f)).map f := by
  rw [List.rtakeWhile, List.rtakeWhile, ← List.map_reverse, List.takeWhile_map, List.map_reverse]

namespace Parameter

/-- Whether a parameter has a default. -/
def hasDefault (parameter : Parameter) : Bool :=
  parameter.default.isSome

/-- The parameter without its default. -/
def withoutDefault (parameter : Parameter) : Parameter :=
  { parameter with default := none }

/-- The last parameter decides about all defaults before it. -/
theorem settleDefaults_concat (parameters : List Parameter) (last : Parameter) :
    settleDefaults (parameters ++ [last]) =
      if last.hasDefault then settleDefaults parameters ++ [last]
      else (parameters ++ [last]).map withoutDefault := by
  obtain ⟨form, name, default⟩ := last
  induction parameters with
  | nil => cases default <;> rfl
  | cons first parameters ih =>
    rw [List.cons_append, settleDefaults, ih, settleDefaults]
    cases default <;> simp [hasDefault, withoutDefault]

/-- Defaults are kept for the longest suffix of parameters that have one, and for no others. -/
theorem settleDefaults_eq (parameters : List Parameter) :
    settleDefaults parameters =
      (parameters.rdropWhile hasDefault).map withoutDefault ++
        parameters.rtakeWhile hasDefault := by
  induction parameters using List.reverseRecOn with
  | nil => rfl
  | append_singleton parameters last ih =>
    rw [settleDefaults_concat, List.rdropWhile_concat, List.rtakeWhile_concat]
    split
    · rw [ih, List.append_assoc]
    · rw [List.append_nil]

theorem rendered_of_default {parameter : Parameter} {text : String}
    (h : parameter.default = some text) :
    parameter.rendered = parameter.declaration ++ " = " ++ text := by
  unfold rendered
  rw [h]
  rfl

theorem rendered_withoutDefault (parameter : Parameter) :
    parameter.withoutDefault.rendered = parameter.declaration := rfl

end Parameter

/-! ## Parameters that are kept -/

/-- A parameter of the native command that the enhanced overload has as well. -/
structure IsKept (analyzed : Analyzed) (position : Position analyzed.command) : Prop where
  not_handle : analyzed.command.isMethod = true → position.val ≠ 0
  not_count : analyzed.roles.counts.lookup position = none
  not_output : analyzed.roles.output ≠ some position

section Kept

variable {analyzed : Analyzed} {position : Position analyzed.command}

theorem mem_keptPositions : position ∈ keptPositions analyzed ↔ IsKept analyzed position := by
  unfold keptPositions
  rw [List.mem_filter, mem_ownPositions, Bool.and_eq_true, Option.isNone_iff_eq_none, bne_iff_ne]
  exact ⟨fun ⟨hown, hcount, houtput⟩ => ⟨hown, hcount, houtput⟩,
    fun ⟨hown, hcount, houtput⟩ => ⟨hown, hcount, houtput⟩⟩

theorem pairwise_keptPositions (analyzed : Analyzed) :
    (keptPositions analyzed).Pairwise (· < ·) := by
  have hown : (ownPositions analyzed.command).Sublist (allPositions analyzed.command) := by
    unfold ownPositions
    split
    · exact List.drop_sublist 1 _
    · exact List.Sublist.refl _
  exact (List.pairwise_lt_finRange _).sublist (List.filter_sublist.trans hown)

/-- The last parameter of the overload. -/
def IsLast (analyzed : Analyzed) (position : Position analyzed.command) : Prop :=
  IsKept analyzed position ∧ ∀ other, IsKept analyzed other → other ≤ position

theorem getLast?_keptPositions :
    (keptPositions analyzed).getLast? = some position ↔ IsLast analyzed position := by
  have hsorted := pairwise_keptPositions analyzed
  unfold IsLast
  simp only [← mem_keptPositions]
  constructor
  · intro hlast
    obtain ⟨before, hbefore⟩ := List.getLast?_eq_some_iff.1 hlast
    rw [hbefore] at hsorted ⊢
    refine ⟨by simp, fun other hother => ?_⟩
    rcases List.mem_append.1 hother with hother | hother
    · exact Fin.le_of_lt ((List.pairwise_append.1 hsorted).2.2 other hother position (by simp))
    · exact Fin.le_of_eq (List.mem_singleton.1 hother)
  · rintro ⟨hmem, hlast⟩
    obtain ⟨before, last, hbefore⟩ :=
      (List.eq_nil_or_concat _).resolve_left (List.ne_nil_of_mem hmem)
    rw [List.concat_eq_append] at hbefore
    have hle := hlast last (by simp [hbefore])
    rw [hbefore] at hsorted hmem ⊢
    rw [List.getLast?_concat]
    rcases List.mem_append.1 hmem with hmem | hmem
    · have hlt := (List.pairwise_append.1 hsorted).2.2 position hmem last (by simp)
      exact absurd hle (Fin.not_le.2 hlt)
    · rw [List.mem_singleton.1 hmem]

end Kept

/-! ## Defaults by kind -/

/-- A type of flags whose enum of bits has no enumerators. -/
def FlagsWithoutBits (spec : Spec) (type : String) : Prop :=
  spec.flags.contains type = true ∧ ∃ bits enumeration, spec.backing type = .ok bits ∧
    spec.enums.get? bits = some enumeration ∧ enumeration.members = []

/-- The kinds of parameters with a default, and the text of the default. -/
inductive DefaultText (spec : Spec) (analyzed : Analyzed) (position : Position analyzed.command) :
    String → Prop
  /-- A pointer or a text that may be absent and is no array. -/
  | pointer (single : analyzed.roles.arrays.lookup position = none)
    (star : (argument position).hasStar = true) (optional : (argument position).optional = true) :
    DefaultText spec analyzed position "nullptr"
  /-- A text of symbolic length that may be absent. -/
  | text (symbolic : analyzed.roles.arrays.lookup position = some none)
    (isText : (argument position).isText = true) (optional : (argument position).optional = true) :
    DefaultText spec analyzed position "nullptr"
  /-- Flags that are passed by value in last place and have no bits. -/
  | flags (single : analyzed.roles.arrays.lookup position = none)
    (value : (argument position).hasStar = false) (last : IsLast analyzed position)
    (empty : FlagsWithoutBits spec (argument position).baseType) :
    DefaultText spec analyzed position ((argument position).baseType ++ "()")

section Kinds

variable {spec : Spec} {analyzed : Analyzed} {position : Position analyzed.command}
  {parameter : Parameter} {text : String}

theorem emptyFlags?_eq_some_iff {type : String} {default : Option String}
    (h : emptyFlags? spec type = .ok default) :
    default = some text ↔ FlagsWithoutBits spec type ∧ text = type ++ "()" := by
  unfold emptyFlags? at h
  split at h
  · rename_i hflags
    obtain ⟨bits, hbits, h⟩ := bind_eq_ok_iff.1 h
    split at h
    · rename_i enumeration henumeration
      obtain rfl := Except.ok.inj h
      have hempty : FlagsWithoutBits spec type ↔ enumeration.members.isEmpty = true := by
        simp [FlagsWithoutBits, hflags, hbits, henumeration]
      rw [hempty]
      split
      · rename_i hmembers
        exact Option.some_inj.trans (eq_comm.trans (and_iff_right hmembers).symm)
      · rename_i hmembers
        simp [hmembers]
    · rename_i hnone
      obtain rfl := Except.ok.inj h
      simp [FlagsWithoutBits, hbits, hnone]
  · rename_i hflags
    obtain rfl := Except.ok.inj h
    simp [FlagsWithoutBits, hflags]

/-- A parameter that is an array only has a default if it is a text. -/
theorem default_arrayParameter_iff {count : Option (Position analyzed.command)} {isBuffer : Bool}
    (hlookup : analyzed.roles.arrays.lookup position = some count) :
    (arrayParameter (argument position) isBuffer count.isNone).default = some text ↔
      DefaultText spec analyzed position text := by
  have hkind : DefaultText spec analyzed position text ↔ (argument position).isText = true ∧
      (argument position).optional = true ∧ count = none ∧ text = "nullptr" := by
    constructor
    · rintro (⟨hsingle, -, -⟩ | ⟨hsymbolic, htext, hoptional⟩ | ⟨hsingle, -, -, -⟩)
      · simp [hsingle] at hlookup
      · exact ⟨htext, hoptional, Option.some.inj (hlookup.symm.trans hsymbolic), rfl⟩
      · simp [hsingle] at hlookup
    · rintro ⟨htext, hoptional, rfl, rfl⟩
      exact .text hlookup htext hoptional
  rw [hkind]
  unfold arrayParameter
  dsimp only
  split
  · rename_i htext
    split
    · rename_i hoptional
      obtain ⟨hoptional, hcount⟩ := Bool.and_eq_true_iff.1 hoptional
      simp [htext, hoptional, Option.isNone_iff_eq_none.1 hcount, eq_comm]
    · rename_i hrequired
      simp only [reduceCtorEq, false_iff]
      rintro ⟨-, hoptional, rfl, -⟩
      exact hrequired (by simp [hoptional])
  · rename_i htext
    split <;> simp [htext]

theorem default_pointerParameter_iff (hlookup : analyzed.roles.arrays.lookup position = none)
    (hstar : (argument position).hasStar = true) :
    (pointerParameter (argument position)).default = some text ↔
      DefaultText spec analyzed position text := by
  have hkind : DefaultText spec analyzed position text ↔
      (argument position).optional = true ∧ text = "nullptr" := by
    constructor
    · rintro (⟨-, -, hoptional⟩ | ⟨hsymbolic, -, -⟩ | ⟨-, hvalue, -, -⟩)
      · exact ⟨hoptional, rfl⟩
      · simp [hsymbolic] at hlookup
      · simp [hvalue] at hstar
    · rintro ⟨hoptional, rfl⟩
      exact .pointer hlookup hstar hoptional
  rw [hkind]
  unfold pointerParameter
  dsimp only
  by_cases hoptional : (argument position).optional = true
  · rw [if_pos hoptional, if_pos hoptional]
    split <;> simp [hoptional, eq_comm]
  · rw [if_neg hoptional, if_neg hoptional]
    split <;> simp [hoptional]

theorem default_valueParameter_iff (hlookup : analyzed.roles.arrays.lookup position = none)
    (hvalue : (argument position).hasStar = false)
    (h : valueParameter spec (argument position)
      ((keptPositions analyzed).getLast? = some position) = .ok parameter) :
    parameter.default = some text ↔ DefaultText spec analyzed position text := by
  have hkind : DefaultText spec analyzed position text ↔ IsLast analyzed position ∧
      FlagsWithoutBits spec (argument position).baseType ∧
        text = (argument position).baseType ++ "()" := by
    constructor
    · rintro (⟨-, hstar, -⟩ | ⟨hsymbolic, -, -⟩ | ⟨-, -, hlast, hflags⟩)
      · simp [hvalue] at hstar
      · simp [hsymbolic] at hlookup
      · exact ⟨hlast, hflags, rfl⟩
    · rintro ⟨hlast, hflags, rfl⟩
      exact .flags hlookup hvalue hlast hflags
  rw [hkind, ← getLast?_keptPositions]
  unfold valueParameter at h
  dsimp only at h
  split at h
  · rename_i hlast
    obtain ⟨default, hdefault, h⟩ := bind_eq_ok_iff.1 h
    obtain rfl := Except.ok.inj h
    rw [emptyFlags?_eq_some_iff hdefault]
    exact (and_iff_right (of_decide_eq_true hlast)).symm
  · rename_i hlast
    obtain rfl := Except.ok.inj h
    simp only [reduceCtorEq, false_iff]
    exact fun hall => hlast (decide_eq_true hall.1)

/-- The default that a parameter could have depends on its kind only. -/
theorem default_eq_some_iff (h : parameterAt spec analyzed position = .ok parameter) :
    parameter.default = some text ↔ DefaultText spec analyzed position text := by
  unfold parameterAt at h
  dsimp only at h
  split at h
  · rename_i count hlookup
    obtain rfl := Except.ok.inj h
    exact default_arrayParameter_iff hlookup
  · rename_i hlookup
    split at h
    · rename_i hstar
      obtain rfl := Except.ok.inj h
      exact default_pointerParameter_iff hlookup hstar
    · rename_i hvalue
      exact default_valueParameter_iff hlookup (eq_false_of_ne_true hvalue) h

theorem name_of_parameterAt (h : parameterAt spec analyzed position = .ok parameter) :
    parameter.name = reduced (argument position).name := by
  unfold parameterAt at h
  dsimp only at h
  split at h
  · obtain rfl := Except.ok.inj h
    unfold arrayParameter
    dsimp only
    split
    · split <;> rfl
    · split <;> rfl
  · split at h
    · obtain rfl := Except.ok.inj h
      unfold pointerParameter
      dsimp only
      split
      · split <;> rfl
      · split <;> rfl
    · obtain ⟨default, rfl⟩ := valueParameter_eq_ok h
      rfl

end Kinds

/-! ## Whole signatures -/

section Signatures

variable {spec : Spec} {functionName : String} {analyzed : Analyzed} {signature : Signature}

/-- The parameters of a signature in two parts: those that have to be passed, and those that are
written with a default, with the entries that they have. -/
structure SettlesDefaults (spec : Spec) (analyzed : Analyzed) (signature : Signature)
    (required defaulted : List (Position analyzed.command)) (plain usable : List Parameter) :
    Prop where
  parameters : signature.parameters = plain ++ usable
  /-- The entries are written one after another in the last line of the signature. -/
  written : ∀ indent, ∃ front back, (signature.lines indent).getLast? =
    some (front ++ parenthesized ((plain ++ usable).map Parameter.rendered) ++ back)
  ordered : (required ++ defaulted).Pairwise (· < ·)
  mem_iff_isKept : ∀ position, position ∈ required ++ defaulted ↔ IsKept analyzed position
  plain_entries : List.Forall₂ (fun position parameter =>
    parameter.name = reduced (argument position).name ∧
      parameter.rendered = parameter.declaration) required plain
  usable_entries : List.Forall₂ (fun position parameter =>
    parameter.name = reduced (argument position).name ∧
      ∃ text, DefaultText spec analyzed position text ∧
        parameter.rendered = parameter.declaration ++ " = " ++ text) defaulted usable
  longest : ∀ suffix, suffix <:+ required ++ defaulted →
    (∀ position ∈ suffix, ∃ text, DefaultText spec analyzed position text) → suffix <:+ defaulted

/-- The list of parameters is written in the last line of a signature. -/
theorem getLast?_lines (signature : Signature) (indent : String) :
    ∃ front back, (signature.lines indent).getLast? =
      some (front ++ parenthesized (signature.parameters.map Parameter.rendered) ++ back) := by
  unfold Signature.lines
  rw [List.getLast?_concat]
  refine ⟨s!"{indent}{signature.specifier}{signature.declared.text} " ++ signature.name,
    if signature.isMethod then " const" else "", congrArg some ?_⟩
  simp only [String.append_assoc]
  rfl

/-- The parameters of a signature are those of the command that are neither the handle of a
method nor a count nor returned, in their order.  Those that are written with a default are the
last ones, and as many as there can be. -/
theorem defaults_lawful_and_maximal
    (hsignature : signatureOf spec analyzed functionName = .ok signature) :
    ∃ required defaulted plain usable,
      SettlesDefaults spec analyzed signature required defaulted plain usable := by
  obtain ⟨parameters, hparameters, -, hsettled⟩ := signatureOf_eq_ok hsignature
  obtain ⟨entry, rfl, hentry⟩ := exists_eq_map_of_mapM ⟨.text, "", none⟩ hparameters
  let kept := keptPositions analyzed
  let required := kept.rdropWhile (Parameter.hasDefault ∘ entry)
  let defaulted := kept.rtakeWhile (Parameter.hasDefault ∘ entry)
  have hkept : required ++ defaulted = kept := List.rdropWhile_append_rtakeWhile
  have hname : ∀ position ∈ kept, (entry position).name = reduced (argument position).name :=
    fun position hposition => name_of_parameterAt (hentry position hposition)
  have hparts : signature.parameters =
      required.map (Parameter.withoutDefault ∘ entry) ++ defaulted.map entry := by
    rw [hsettled, Parameter.settleDefaults_eq, rdropWhile_map, rtakeWhile_map, List.map_map]
  refine ⟨required, defaulted, required.map (Parameter.withoutDefault ∘ entry),
    defaulted.map entry, hparts, ?_, ?_, ?_, ?_, ?_, ?_⟩
  · intro indent
    rw [← hparts]
    exact getLast?_lines signature indent
  · rw [hkept]
    exact pairwise_keptPositions analyzed
  · intro position
    rw [hkept]
    exact mem_keptPositions
  · rw [List.forall₂_map_right_iff, List.forall₂_same]
    intro position hposition
    have hmem := hkept ▸ List.mem_append_left defaulted hposition
    exact ⟨hname position hmem, Parameter.rendered_withoutDefault _⟩
  · rw [List.forall₂_map_right_iff, List.forall₂_same]
    intro position hposition
    have hmem := hkept ▸ List.mem_append_right required hposition
    have hdefault : (entry position).hasDefault = true :=
      List.mem_rtakeWhile_imp (p := Parameter.hasDefault ∘ entry) hposition
    obtain ⟨text, htext⟩ := Option.isSome_iff_exists.1 hdefault
    exact ⟨hname position hmem, text, (default_eq_some_iff (hentry position hmem)).1 htext,
      Parameter.rendered_of_default htext⟩
  · intro suffix hsuffix hall
    rw [hkept] at hsuffix
    refine suffix_rtakeWhile hsuffix fun position hposition => ?_
    obtain ⟨text, htext⟩ := hall position hposition
    exact Option.isSome_iff_exists.2
      ⟨text, (default_eq_some_iff (hentry position (hsuffix.subset hposition))).2 htext⟩

/-- A command that clears a device, with parameters of all kinds that have a default, and one
that has none between them. -/
def sampleClearing : Registry.Command where
  returnType := Registry.voidType
  arguments :=
    [⟨"Device", "device", "Device", "", "", false⟩,
     ⟨"const Info*", "pInfo", "Info", "", "", true⟩,
     ⟨"uint32_t", "mode", "uint32_t", "", "", false⟩,
     ⟨"const char*", "pName", "char", "", "null-terminated", true⟩,
     ⟨"const Callbacks*", "pAllocator", "Callbacks", "", "", true⟩,
     ⟨"ClearFlags", "flags", "ClearFlags", "", "", false⟩]
  successCodes := []
  guard := ""
  owner := some "Device"
  twoStep := false

/-- A registry with flags that have no bits. -/
def sampleEmptyFlags : Spec :=
  { Spec.initial with
    entities :=
      [{ name := "ClearFlags", needs := NameSet.ofList ["ClearFlagBits"], kind := .flags }]
    flags := Table.ofList [("ClearFlags", "")]
    enums := Table.ofList [("ClearFlagBits",
      { isBitmask := true, stem := "", ending := "", members := [], guard := "" })] }

/-- The defaults behind the mode are kept, the one before it is not. -/
theorem clearing_defaults_settled :
    ∃ analyzed signature required defaulted plain usable,
      Analysis.analyze "clearDevice" sampleClearing = .ok analyzed ∧
      signatureOf sampleEmptyFlags analyzed "clear" = .ok signature ∧
      signature.parameters.map Parameter.rendered =
        ["Optional<const Info> info", "uint32_t mode", "Optional<const std::string> name = nullptr",
          "Optional<const Callbacks> allocator = nullptr", "ClearFlags flags = ClearFlags()"] ∧
      SettlesDefaults sampleEmptyFlags analyzed signature required defaulted plain usable := by
  have hsample : (Analysis.rolesOf "clearDevice" sampleClearing).toOption.any (fun roles =>
      (signatureOf sampleEmptyFlags ⟨"clearDevice", sampleClearing, roles⟩
        "clear").toOption.any fun signature => signature.parameters.map Parameter.rendered ==
          ["Optional<const Info> info", "uint32_t mode",
            "Optional<const std::string> name = nullptr",
            "Optional<const Callbacks> allocator = nullptr", "ClearFlags flags = ClearFlags()"]) =
      true := by
    decide +kernel
  obtain ⟨roles, hroles, hsample⟩ := exists_of_any hsample
  obtain ⟨signature, hsignature, hrendered⟩ := exists_of_any hsample
  obtain ⟨required, defaulted, plain, usable, hsettles⟩ := defaults_lawful_and_maximal hsignature
  exact ⟨_, signature, required, defaulted, plain, usable,
    Analysis.analyze_eq_ok_iff.2 ⟨roles, hroles, rfl⟩, hsignature, beq_iff_eq.1 hrendered, hsettles⟩

end Signatures

end VulkanBindings.Wrapper
