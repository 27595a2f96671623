import Mathlib.Data.List.Chain
import VulkanBindings.Naming.Affix
import VulkanBindings.Naming.Case
import VulkanBindings.Proofs.Text.Search

/-!
# From camel case to upper case and back

The native interface spells the name of a type in upper case with underscores where the
name is part of an enumerator's name.  `camelCase_words_eq_iff` says that the name can be
read off again exactly if its words can be told apart (`IsCamelName`): a capital after a
capital starts no word, and a small letter after a digit loses its case.

All characters of such names are ASCII, where what the case tables say can be looked up
character by character (`forall_ascii`).
-/

namespace VulkanBindings.Naming

open Text (isAscii isDigit isLower isUpper lower upper)

/-! ## Letters and digits -/

/-- What holds of each of the ASCII characters. -/
theorem forall_ascii (property : Char → Prop) (h : ∀ point < 128, property (Char.ofNat point))
    {c : Char} (hc : isAscii c = true) : property c := by
  have hpoint := h c.toNat (of_decide_eq_true hc)
  rwa [Char.ofNat_toNat] at hpoint

theorem isAlphanum_iff {c : Char} :
    c.isAlphanum = true ↔ (c.isUpper = true ∨ c.isLower = true) ∨ c.isDigit = true :=
  Bool.or_eq_true_iff.trans (or_congr_left Bool.or_eq_true_iff)

theorem isAscii_of_isAlphanum {c : Char} (h : c.isAlphanum = true) : isAscii c = true := by
  have hascii : ∀ last : Char, last.toNat < 128 → c.val ≤ last.val → isAscii c = true :=
    fun last hlast hle => decide_eq_true (Nat.lt_of_le_of_lt (UInt32.le_iff_toNat_le.1 hle) hlast)
  rcases isAlphanum_iff.1 h with (hupper | hlower) | hdigit
  · exact hascii 'Z' (by decide) (of_decide_eq_true hupper).2
  · exact hascii 'z' (by decide) (of_decide_eq_true (Bool.and_eq_true_iff.1 hlower).2)
  · exact hascii '9' (by decide) (of_decide_eq_true (Bool.and_eq_true_iff.1 hdigit).2)

/-- What the conversions see of a letter or a digit in upper case. -/
structure Capitalizes (c : Char) : Prop where
  isAscii : isAscii c = true
  upper_eq : upper c = [c.toUpper]
  ne_underscore : c.toUpper ≠ '_'
  isDigit_eq : isDigit c.toUpper = c.isDigit
  of_isUpper : c.isUpper = true → c.toUpper = c
  of_isLower : c.isLower = true → lower c.toUpper = [c]
  of_isDigit : c.isDigit = true → c.toUpper = c ∧ lower c = [c]

theorem capitalizes_of_isAlphanum {c : Char} (h : c.isAlphanum = true) : Capitalizes c where
  isAscii := isAscii_of_isAlphanum h
  upper_eq := Text.upper_of_ascii (isAscii_of_isAlphanum h)
  ne_underscore := forall_ascii (fun c => c.isAlphanum = true → c.toUpper ≠ '_') (by decide)
    (isAscii_of_isAlphanum h) h
  isDigit_eq := forall_ascii (fun c => isDigit c.toUpper = c.isDigit) (by decide)
    (isAscii_of_isAlphanum h)
  of_isUpper := forall_ascii (fun c => c.isUpper = true → c.toUpper = c) (by decide)
    (isAscii_of_isAlphanum h)
  of_isLower := forall_ascii (fun c => c.isLower = true → lower c.toUpper = [c]) (by decide)
    (isAscii_of_isAlphanum h)
  of_isDigit := forall_ascii (fun c => c.isDigit = true → c.toUpper = c ∧ lower c = [c])
    (by decide) (isAscii_of_isAlphanum h)

/-- Changing its case changes a letter. -/
theorem case_ne {c : Char} (h : c.isAlphanum = true) :
    (c.isUpper = true → c.toLower ≠ c) ∧ (c.isLower = true → c.toUpper ≠ c) :=
  forall_ascii (fun c => (c.isUpper = true → c.toLower ≠ c) ∧ (c.isLower = true → c.toUpper ≠ c))
    (by decide) (isAscii_of_isAlphanum h)

/-- A letter is either a capital or small, and a digit is neither. -/
theorem kind_of_isAlphanum {c : Char} (h : c.isAlphanum = true) :
    (c.isUpper = true ∧ c.isLower = false ∧ c.isDigit = false) ∨
      (c.isUpper = false ∧ c.isLower = true ∧ c.isDigit = false) ∨
      (c.isUpper = false ∧ c.isLower = false ∧ c.isDigit = true) :=
  forall_ascii (fun c => c.isAlphanum = true →
    (c.isUpper = true ∧ c.isLower = false ∧ c.isDigit = false) ∨
      (c.isUpper = false ∧ c.isLower = true ∧ c.isDigit = false) ∨
      (c.isUpper = false ∧ c.isLower = false ∧ c.isDigit = true)) (by decide)
    (isAscii_of_isAlphanum h) h

/-! ## Names in camel case -/

/-- The character after another one begins a new word of its own, or goes on with a word. -/
def Follows (previous c : Char) : Prop :=
  (previous.isUpper = true → c.isUpper = false) ∧ (previous.isDigit = true → c.isLower = false)

instance (previous c : Char) : Decidable (Follows previous c) :=
  inferInstanceAs (Decidable (_ ∧ _))

/-- A name of letters and digits, of which the words can be told apart. -/
structure IsCamelName (name : String) : Prop where
  starts : name.toList.head?.any Char.isUpper = true
  alphanumeric : ∀ c ∈ name.toList, c.isAlphanum = true
  follows : name.toList.IsChain Follows

/-- A name of letters and digits that begins with a capital, like every type has one. -/
structure IsTypeName (name : String) : Prop where
  starts : name.toList.head?.any Char.isUpper = true
  alphanumeric : ∀ c ∈ name.toList, c.isAlphanum = true

theorem IsCamelName.isTypeName {name : String} (h : IsCamelName name) : IsTypeName name :=
  ⟨h.starts, h.alphanumeric⟩

/-- The words of a name in upper case, with an underscore between them. -/
def words (name : String) : String :=
  withoutStart "_" (screamingSnake name)

namespace Chars

/-- In upper case and back, a character becomes one character again, and itself exactly if it
follows the one before it. -/
theorem exists_camelAfter_snakeAfter_cons {previous c : Char} (rest : List Char)
    (hprevious : previous.isAlphanum = true) (hc : c.isAlphanum = true) :
    ∃ image, camelAfter previous.toUpper (snakeAfter previous (c :: rest)) =
        image :: camelAfter c.toUpper (snakeAfter c rest) ∧
      (image = c ↔ Follows previous c) := by
  have hp := capitalizes_of_isAlphanum hprevious
  have hcapital := capitalizes_of_isAlphanum hc
  obtain ⟨hlower, hupper⟩ := case_ne hc
  rw [snakeAfter, hcapital.upper_eq, Text.isUpper_of_ascii hcapital.isAscii,
    Text.isLower_of_ascii hp.isAscii, Text.isDigit_of_ascii hp.isAscii]
  rcases kind_of_isAlphanum hc with
    ⟨hkind, hsmall, -⟩ | ⟨hkind, hsmall, -⟩ | ⟨hkind, hsmall, hdigit⟩
  · -- A capital begins a word, unless there is a capital before it.
    have hself := hcapital.of_isUpper hkind
    have hne := hself ▸ hcapital.ne_underscore
    rcases kind_of_isAlphanum hprevious with ⟨hbefore, hother, hnumber⟩ | hword | hword
    · refine ⟨c.toLower, ?_, by simp [Follows, hbefore, hkind, hlower hkind]⟩
      simp [camelAfter, hkind, hother, hnumber, hself, hne, hp.ne_underscore, hp.isDigit_eq,
        Text.lower_of_ascii hcapital.isAscii]
    · refine ⟨c, ?_, by simp [Follows, hword, hsmall]⟩
      simp [camelAfter, hkind, hword, hself, hne]
    · refine ⟨c, ?_, by simp [Follows, hword, hsmall]⟩
      simp [camelAfter, hkind, hword, hself, hne]
  · -- A small letter goes on with its word, unless there is a digit before it.
    by_cases hnumber : previous.isDigit = true
    · refine ⟨c.toUpper, ?_, by simp [Follows, hnumber, hsmall, hupper hsmall]⟩
      simp [camelAfter, hkind, hcapital.ne_underscore, hp.isDigit_eq, hnumber]
    · refine ⟨c, ?_, by simp [Follows, hnumber, hkind]⟩
      simp [camelAfter, hkind, hcapital.ne_underscore, hp.ne_underscore, hp.isDigit_eq, hnumber,
        hcapital.of_isLower hsmall]
  · -- A digit has no case.
    obtain ⟨hself, hlowered⟩ := hcapital.of_isDigit hdigit
    refine ⟨c, ?_, by simp [Follows, hkind, hsmall]⟩
    simp [camelAfter, hkind, hself, hlowered, hself ▸ hcapital.ne_underscore]

/-- The words after a character are read off again exactly if each character follows the one
before it. -/
theorem camelAfter_snakeAfter_eq_iff {previous : Char} {rest : List Char}
    (halphanumeric : ∀ c ∈ previous :: rest, c.isAlphanum = true) :
    camelAfter previous.toUpper (snakeAfter previous rest) = rest ↔
      (previous :: rest).IsChain Follows := by
  induction rest generalizing previous with
  | nil => simp [snakeAfter, camelAfter]
  | cons c rest ih =>
    obtain ⟨hprevious, hrest⟩ := List.forall_mem_cons.1 halphanumeric
    obtain ⟨image, heq, himage⟩ :=
      exists_camelAfter_snakeAfter_cons rest hprevious (hrest c List.mem_cons_self)
    rw [heq, List.cons_eq_cons, himage, ih hrest, List.isChain_cons_cons]

/-- An underscore at the end vanishes like any other. -/
theorem camelAfter_append_underscore (previous : Char) (text : List Char) :
    camelAfter previous (text ++ ['_']) = camelAfter previous text := by
  induction text generalizing previous with
  | nil => rfl
  | cons c rest ih => rw [List.cons_append, camelAfter, camelAfter, ih]

end Chars

variable {name : String}

theorem IsTypeName.exists_toList (h : IsTypeName name) :
    ∃ c rest, name.toList = c :: rest ∧ c.isUpper = true ∧
      (words name).toList = c :: Chars.snakeAfter c rest := by
  have hstarts := h.starts
  cases hname : name.toList with
  | nil => simp [hname] at hstarts
  | cons c rest =>
    rw [hname, List.head?_cons, Option.any_some] at hstarts
    have hc := capitalizes_of_isAlphanum (h.alphanumeric c (by simp [hname]))
    refine ⟨c, rest, rfl, hstarts, ?_⟩
    have hsnake : (screamingSnake name).toList = "_".toList ++ c :: Chars.snakeAfter c rest := by
      rw [screamingSnake, String.toList_ofList, hname, Chars.screamingSnake,
        Text.isUpper_of_ascii hc.isAscii, hstarts, hc.upper_eq, hc.of_isUpper hstarts]
      rfl
    unfold words withoutStart
    rw [hsnake, Text.Chars.after?_append]
    exact String.toList_ofList

/-- A name is read off its words exactly if these can be told apart. -/
theorem camelCase_words_eq_iff (h : IsTypeName name) :
    camelCase (words name) = name ↔ name.toList.IsChain Follows := by
  obtain ⟨c, rest, hname, hupper, hwords⟩ := h.exists_toList
  have halphanumeric := hname ▸ h.alphanumeric
  have hself := (capitalizes_of_isAlphanum (halphanumeric c List.mem_cons_self)).of_isUpper hupper
  have hrest := Chars.camelAfter_snakeAfter_eq_iff halphanumeric
  rw [hself] at hrest
  rw [← String.toList_inj, camelCase, String.toList_ofList, hwords, hname, Chars.camelCase,
    List.cons_eq_cons, and_iff_right rfl, hrest]

theorem camelCase_words (h : IsCamelName name) : camelCase (words name) = name :=
  (camelCase_words_eq_iff h.isTypeName).2 h.follows

/-- So different names have different words. -/
theorem screamingSnake_injOn {other : String} (hname : IsCamelName name)
    (hother : IsCamelName other) (h : screamingSnake name = screamingSnake other) :
    name = other := by
  rw [← camelCase_words hname, ← camelCase_words hother, words, words, h]

/-- A name is also read off its words when a mark was cut off behind them. -/
theorem camelCase_words_append (h : IsCamelName name) : camelCase (words name ++ "_") = name := by
  obtain ⟨c, rest, -, -, hwords⟩ := h.isTypeName.exists_toList
  have hsame : camelCase (words name ++ "_") = camelCase (words name) := by
    unfold camelCase
    rw [String.toList_append, hwords]
    exact congrArg (String.ofList <| c :: ·) (Chars.camelAfter_append_underscore c _)
  rw [hsame, camelCase_words h]

/-! ## Starts, marks and tags -/

theorem withoutStart_append (start rest : String) : withoutStart start (start ++ rest) = rest := by
  unfold withoutStart
  rw [String.toList_append, Text.Chars.after?_append]
  exact String.ofList_toList

/-- What remains is the end of the name. -/
theorem withoutStart_suffix (start name : String) :
    (withoutStart start name).toList <:+ name.toList := by
  unfold withoutStart
  split
  · rename_i rest hrest
    rw [String.toList_ofList, Text.Chars.after?_eq_some.1 hrest]
    exact List.suffix_append start.toList rest
  · exact List.suffix_refl name.toList

/-- Without a mark, all that follows the start remains. -/
theorem between_append_empty (start rest : String) :
    between start "" (start ++ rest) = .ok rest := by
  unfold between
  rw [withoutStart_append]
  rfl

/-- A mark at the end is the one at which a name is cut. -/
theorem between_append_mark {mark : String} (hmark : mark ≠ "") (start rest : String) :
    between start mark (start ++ (rest ++ mark)) = .ok rest := by
  unfold between
  dsimp only
  rw [withoutStart_append, if_neg fun hempty => hmark (String.isEmpty_iff.1 hempty),
    Text.cutLast?_append hmark]

/-- A name is not cut at a mark that does not remain without its start. -/
theorem between_of_absent {start mark name : String} (hmark : mark ≠ "")
    (h : ¬ mark.toList <:+: (withoutStart start name).toList) :
    between start mark name = .error (.markerAbsent name mark) := by
  unfold between
  dsimp only
  rw [if_neg fun hempty => hmark (String.isEmpty_iff.1 hempty), Text.cutLast?_eq_none_iff.2 h]

/-- A name is cut at a mark that remains without its start, or not cut at all. -/
theorem exists_between {start mark name : String}
    (h : mark = "" ∨ mark.toList <:+: (withoutStart start name).toList) :
    ∃ words, between start mark name = .ok words := by
  unfold between
  dsimp only
  split
  · exact ⟨_, rfl⟩
  · rename_i hempty
    have hpart := h.resolve_left fun hmark => hempty (String.isEmpty_iff.2 hmark)
    split
    · exact ⟨_, rfl⟩
    · rename_i hnone
      exact absurd hpart (Text.cutLast?_eq_none_iff.1 hnone)

/-- A tag that a start has is one of the tags, and stands before the underscore at its end. -/
theorem tagOfStart_spec {tags : NameSet} {start : String} (h : tagOfStart tags start ≠ "") :
    tagOfStart tags start ∈ tags ∧ Text.endsWith (tagOfStart tags start ++ "_") start = true := by
  unfold tagOfStart at h ⊢
  cases hfound : tags.names.find? fun tag => Text.endsWith (tag ++ "_") start with
  | none =>
    rw [hfound] at h
    exact absurd rfl h
  | some tag =>
    have hends := List.find?_some hfound
    exact ⟨List.mem_of_find?_eq_some hfound, hends⟩

end VulkanBindings.Naming
