import VulkanBindings.Proofs.Naming.RoundTrip

/-!
# Where camel case shows a marker

Camel case joins the words of a native name, so that something can show up in the result
that no word is.  A character keeps its case only at the beginning of a word or after a digit
(`KeepsCase`), and every other capital becomes small.  So there are two ways in which a marker
can show up:

* one that is a capital with small letters after it, where a word or what follows a digit
  begins with its letters (`infix_camelAfter_iff`);
* one in capitals, where each of its letters is a word of its own (`suffix_camelAfter_iff`).
-/

namespace VulkanBindings.Naming

open Text (isAscii isDigit isLower lower)

/-! ## Small letters -/

/-- A character is small already, or it becomes something without capitals and digits. -/
def LowersProperly (c : Char) : Prop :=
  (lower c = [c] ∧ c.isUpper = false) ∨
    lower c ≠ [] ∧ ∀ image ∈ lower c, image.isUpper = false ∧ image.isDigit = false

instance (c : Char) : Decidable (LowersProperly c) :=
  decidable_of_iff ((lower c = [c] ∧ c.isUpper = false) ∨ lower c ≠ [] ∧
      (lower c).all (fun image => !image.isUpper && !image.isDigit) = true)
    (by simp [LowersProperly])

/-- The capitals and the digits come before the small letters. -/
theorem not_capital_of_le {c : Char} (h : 97 ≤ c.toNat) :
    c.isUpper = false ∧ c.isDigit = false := by
  have hval : c.toNat = c.val.toNat := rfl
  constructor
  · have hlast : 'Z'.val.toNat = 90 := rfl
    refine eq_false_of_ne_true fun hupper => ?_
    have hle := UInt32.le_iff_toNat_le.1 (of_decide_eq_true hupper).2
    omega
  · have hlast : '9'.val.toNat = 57 := rfl
    refine eq_false_of_ne_true fun hdigit => ?_
    have hle := UInt32.le_iff_toNat_le.1 (of_decide_eq_true (Bool.and_eq_true_iff.1 hdigit).2)
    omega

/-- No code point of the table becomes a capital or a digit. -/
theorem le_of_shifted {point image : Nat}
    (h : Text.CodePoints.shifted? Text.CaseTable.toLower point = some image) : 97 ≤ image := by
  have htable : (Text.CaseTable.toLower.all fun shift =>
      decide (97 ≤ shift.points.first + shift.distance)) = true := by
    decide +kernel
  obtain ⟨shift, hshift, himage⟩ := List.exists_of_findSome?_eq_some h
  have hfirst := of_decide_eq_true (List.all_eq_true.1 htable shift hshift)
  unfold Text.CodePoints.Shift.image? at himage
  split at himage
  · rename_i hholds
    obtain rfl := Option.some.inj himage
    simp only [Text.CodePoints.Stride.holds, Bool.and_eq_true, decide_eq_true_eq] at hholds
    omega
  · cases himage

/-- Nor does a number that is no code point, which stands for the zero character. -/
theorem not_capital_ofNat {point : Nat} (h : 97 ≤ point) :
    (Char.ofNat point).isUpper = false ∧ (Char.ofNat point).isDigit = false := by
  by_cases hvalid : point.isValidChar
  · rw [Char.ofNat, dif_pos hvalid]
    exact not_capital_of_le h
  · rw [Char.ofNat, dif_neg hvalid]
    decide

theorem lowersProperly (c : Char) : LowersProperly c := by
  by_cases hascii : isAscii c = true
  · exact forall_ascii LowersProperly (by decide) hascii
  · have hplain : c.isUpper = false := by
      refine (not_capital_of_le ?_).1
      have hle : ¬ c.toNat < 128 := fun hlt => hascii (decide_eq_true hlt)
      omega
    unfold LowersProperly lower Text.mapByTables
    rw [if_neg hascii]
    cases hmany : Text.CaseTable.toLowerMany.lookup c.toNat with
    | some points =>
      have htable : ∀ entry ∈ Text.CaseTable.toLowerMany,
          entry.2 ≠ [] ∧ ∀ point ∈ entry.2, 97 ≤ point := by
        decide
      obtain ⟨before, after, hsplit, -⟩ := List.lookup_eq_some_iff.1 hmany
      obtain ⟨hpoints, hle⟩ := htable (c.toNat, points) (by simp [hsplit])
      refine .inr ⟨mt List.map_eq_nil_iff.1 hpoints, fun image himage => ?_⟩
      obtain ⟨point, hpoint, rfl⟩ := List.mem_map.1 himage
      exact not_capital_ofNat (hle point hpoint)
    | none =>
      cases hone : Text.CodePoints.shifted? Text.CaseTable.toLower c.toNat with
      | none => exact .inl ⟨rfl, hplain⟩
      | some point =>
        refine .inr ⟨List.cons_ne_nil _ _, fun image himage => ?_⟩
        rw [List.mem_singleton.1 himage]
        exact not_capital_ofNat (le_of_shifted hone)

/-! ## Camel case, character by character -/

/-- A character after this one keeps its case. -/
def KeepsCase (previous : Char) : Prop :=
  previous = '_' ∨ isDigit previous = true

instance (previous : Char) : Decidable (KeepsCase previous) :=
  inferInstanceAs (Decidable (_ ∨ _))

namespace Chars

variable {previous c : Char} {text : List Char}

theorem camelAfter_underscore : camelAfter previous ('_' :: text) = camelAfter '_' text := rfl

theorem camelAfter_kept (hc : c ≠ '_') (h : KeepsCase previous) :
    camelAfter previous (c :: text) = c :: camelAfter c text := by
  have hkeeps : (decide (previous = '_') || isDigit previous) = true := by
    rcases h with h | h <;> simp [h]
  rw [camelAfter, if_neg hc, hkeeps]
  rfl

theorem camelAfter_lowered (hc : c ≠ '_') (h : ¬ KeepsCase previous) :
    camelAfter previous (c :: text) = lower c ++ camelAfter c text := by
  have hlowers : (decide (previous = '_') || isDigit previous) = false := by
    simpa [KeepsCase] using h
  rw [camelAfter, if_neg hc, hlowers]
  rfl

theorem camelAfter_append (previous : Char) (first second : List Char) :
    camelAfter previous (first ++ second) =
      camelAfter previous first ++ camelAfter (first.getLastD previous) second := by
  induction first generalizing previous with
  | nil => rfl
  | cons c rest ih =>
    rw [List.cons_append, camelAfter, camelAfter, ih, List.getLastD_cons, List.append_assoc]

/-- The first character keeps its case, as at the beginning of any word. -/
theorem camelCase_eq_camelAfter (h : text.head? ≠ some '_') :
    camelCase text = camelAfter '_' text := by
  cases text with
  | nil => rfl
  | cons c rest =>
    have hc : c ≠ '_' := fun heq => h (congrArg some heq)
    rw [camelAfter_kept hc (.inl rfl)]
    rfl

end Chars

/-! ## Markers with one capital -/

/-- A character of a native name in upper case. -/
def IsNative (c : Char) : Prop :=
  (c.isUpper = true ∨ c.isDigit = true) ∨ c = '_'

/-- What the conversions see of a capital. -/
structure Lowers (c : Char) : Prop where
  lower_eq : lower c = [c.toLower]
  ne_underscore : c ≠ '_'
  not_keepsCase : ¬ KeepsCase c
  isLower : c.toLower.isLower = true
  isUpper_toLower : c.toLower.isUpper = false
  toUpper_toLower : c.toLower.toUpper = c

instance (c : Char) : Decidable (Lowers c) :=
  decidable_of_iff (lower c = [c.toLower] ∧ c ≠ '_' ∧ ¬ KeepsCase c ∧ c.toLower.isLower = true ∧
      c.toLower.isUpper = false ∧ c.toLower.toUpper = c)
    ⟨fun ⟨h₁, h₂, h₃, h₄, h₅, h₆⟩ => ⟨h₁, h₂, h₃, h₄, h₅, h₆⟩,
      fun ⟨h₁, h₂, h₃, h₄, h₅, h₆⟩ => ⟨h₁, h₂, h₃, h₄, h₅, h₆⟩⟩

theorem lowers_of_isUpper {c : Char} (h : c.isUpper = true) : Lowers c :=
  forall_ascii (fun c => c.isUpper = true → Lowers c) (by decide)
    (isAscii_of_isAlphanum (isAlphanum_iff.2 (.inl (.inl h)))) h

/-- A digit has no case, and what follows it keeps its own. -/
theorem lower_of_isDigit {c : Char} (h : c.isDigit = true) :
    lower c = [c] ∧ KeepsCase c ∧ c.isUpper = false :=
  forall_ascii (fun c => c.isDigit = true → lower c = [c] ∧ KeepsCase c ∧ c.isUpper = false)
    (by decide) (isAscii_of_isAlphanum (isAlphanum_iff.2 (.inr h))) h

/-- What holds of a small letter. -/
theorem raises_of_isLower {c : Char} (h : c.isLower = true) :
    c.toUpper.isUpper = true ∧ c.toUpper.toLower = c ∧ c.isDigit = false ∧ c.isUpper = false :=
  forall_ascii (fun c => c.isLower = true → c.toUpper.isUpper = true ∧ c.toUpper.toLower = c ∧
      c.isDigit = false ∧ c.isUpper = false) (by decide)
    (isAscii_of_isAlphanum (isAlphanum_iff.2 (.inl (.inr h)))) h

theorem IsNative.isLower_eq_false {c : Char} (h : IsNative c) : c.isLower = false := by
  refine eq_false_of_ne_true fun hlower => ?_
  obtain ⟨-, -, hdigit, hupper⟩ := raises_of_isLower hlower
  rcases h with (h | h) | rfl
  · rw [hupper] at h
    cases h
  · rw [hdigit] at h
    cases h
  · cases hlower

theorem isNative_toUpper {c : Char} (h : c.isAlphanum = true) : IsNative c.toUpper :=
  .inl (forall_ascii (fun c => c.isAlphanum = true → c.toUpper.isUpper = true ∨
    c.toUpper.isDigit = true) (by decide) (isAscii_of_isAlphanum h) h)

/-- A name in upper case has no other characters, and ends with a letter or a digit. -/
structure IsUpperCase (text : List Char) : Prop where
  native : ∀ c ∈ text, IsNative c
  last : ∀ c ∈ text.getLast?, c ≠ '_'

theorem IsUpperCase.of_suffix {text tail : List Char} (h : IsUpperCase text)
    (htail : tail <:+ text) : IsUpperCase tail := by
  obtain ⟨start, rfl⟩ := htail
  refine ⟨fun c hc => h.native c (List.mem_append_right start hc), fun c hc => h.last c ?_⟩
  rw [List.getLast?_append, Option.mem_def.1 hc]
  rfl

/-- The mark of the interface is in upper case as well. -/
theorem IsUpperCase.native_mark {text : List Char} (h : IsUpperCase text) :
    IsUpperCase ("VK".toList ++ text) := by
  refine ⟨List.forall_mem_append.2 ⟨?_, h.native⟩, fun c hc => ?_⟩
  · simp [IsNative]
  · rw [List.getLast?_append] at hc
    cases hlast : text.getLast? with
    | none =>
      rw [hlast] at hc
      obtain rfl : 'K' = c := Option.some.inj hc
      decide
    | some last =>
      rw [hlast] at hc
      exact h.last c (hlast.trans hc)

namespace Chars

theorem isUpperCase_snakeAfter {previous : Char} {rest : List Char}
    (hrest : ∀ c ∈ rest, c.isAlphanum = true) : IsUpperCase (snakeAfter previous rest) := by
  induction rest generalizing previous with
  | nil => exact ⟨by simp [snakeAfter], by simp [snakeAfter]⟩
  | cons c rest ih =>
    obtain ⟨hc, hrest⟩ := List.forall_mem_cons.1 hrest
    obtain ⟨hnative, hlast⟩ := @ih c hrest
    have hcapital := capitalizes_of_isAlphanum hc
    rw [snakeAfter, hcapital.upper_eq]
    constructor
    · refine List.forall_mem_append.2 ⟨List.forall_mem_append.2 ⟨fun d hd => ?_, ?_⟩, hnative⟩
      · split at hd
        · exact .inr (List.mem_singleton.1 hd)
        · cases hd
      · exact List.forall_mem_singleton.2 (isNative_toUpper hc)
    · intro d hd
      rw [List.getLast?_append, List.getLast?_concat] at hd
      cases hend : (snakeAfter c rest).getLast? with
      | some last =>
        rw [hend] at hd hlast
        exact hlast d hd
      | none =>
        rw [hend] at hd
        obtain rfl := Option.some.inj hd
        exact hcapital.ne_underscore

/-- A name begins as it would after a small letter. -/
theorem screamingSnake_eq_snakeAfter (text : List Char) :
    screamingSnake text = snakeAfter 'a' text := by
  have hsmall : (isLower 'a' || isDigit 'a') = true := by decide
  cases text with
  | nil => rfl
  | cons c rest => rw [screamingSnake, snakeAfter, hsmall, Bool.and_true]

end Chars

theorem isUpperCase_screamingSnake {name : String} (h : IsCamelName name) :
    IsUpperCase (screamingSnake name).toList := by
  rw [screamingSnake, String.toList_ofList, Chars.screamingSnake_eq_snakeAfter]
  exact Chars.isUpperCase_snakeAfter h.alphanumeric

namespace Chars

variable {previous : Char} {small text : List Char}

/-- No word begins with a small letter. -/
theorem isLower_head_camelAfter (htext : ∀ c ∈ text, IsNative c) :
    ∀ c ∈ (camelAfter '_' text).head?, c.isLower = false := by
  induction text with
  | nil => simp [camelAfter]
  | cons c rest ih =>
    obtain ⟨hc, hrest⟩ := List.forall_mem_cons.1 htext
    by_cases hunderscore : c = '_'
    · rw [hunderscore, camelAfter_underscore]
      exact ih hrest
    · rw [camelAfter_kept hunderscore (.inl rfl)]
      simpa using hc.isLower_eq_false

/-- Small letters inside a word come from capitals there. -/
theorem prefix_camelAfter_iff (hprevious : ¬ KeepsCase previous) (htext : ∀ c ∈ text, IsNative c)
    (hsmall : ∀ c ∈ small, c.isLower = true) :
    small <+: camelAfter previous text ↔ small.map Char.toUpper <+: text := by
  induction small generalizing previous text with
  | nil => simp
  | cons s small ih =>
    obtain ⟨hs, hsmall⟩ := List.forall_mem_cons.1 hsmall
    obtain ⟨hcapital, hlowered, hdigit, -⟩ := raises_of_isLower hs
    cases text with
    | nil => simp [camelAfter]
    | cons c rest =>
      obtain ⟨hc, hrest⟩ := List.forall_mem_cons.1 htext
      rw [List.map_cons, List.cons_prefix_cons]
      rcases hc with (hupper | hnumber) | rfl
      · have hlowers := lowers_of_isUpper hupper
        rw [camelAfter_lowered hlowers.ne_underscore hprevious, hlowers.lower_eq,
          List.singleton_append, List.cons_prefix_cons, ih hlowers.not_keepsCase hrest hsmall]
        refine and_congr_left fun _ => ⟨?_, ?_⟩
        · rintro rfl
          exact hlowers.toUpper_toLower
        · rintro rfl
          exact hlowered.symm
      · have hne : c ≠ '_' := by
          rintro rfl
          cases hnumber
        rw [camelAfter_lowered hne hprevious, (lower_of_isDigit hnumber).1, List.singleton_append,
          List.cons_prefix_cons]
        refine iff_of_false (fun h => ?_) fun h => ?_
        · rw [h.1, hnumber] at hdigit
          cases hdigit
        · rw [h.1, (lower_of_isDigit hnumber).2.2] at hcapital
          cases hcapital
      · rw [camelAfter_underscore]
        refine iff_of_false (fun h => ?_) fun h => ?_
        · obtain ⟨after, hafter⟩ := h
          have hhead := isLower_head_camelAfter hrest s (by rw [← hafter]; rfl)
          rw [hs] at hhead
          cases hhead
        · rw [h.1] at hcapital
          cases hcapital

/-- Somewhere in a text that follows `previous` the marker stands, and its first character keeps
its case there. -/
def Shows (marker : List Char) (previous : Char) (text : List Char) : Prop :=
  ∃ before after, text = before ++ marker ++ after ∧ KeepsCase (before.getLastD previous)

theorem shows_cons_iff {c first : Char} {marker : List Char} :
    Shows (first :: marker) previous (c :: text) ↔
      (c = first ∧ KeepsCase previous ∧ marker <+: text) ∨ Shows (first :: marker) c text := by
  constructor
  · rintro ⟨before, after, htext, hkeeps⟩
    cases before with
    | nil =>
      obtain ⟨rfl, rfl⟩ := List.cons.inj htext
      exact .inl ⟨rfl, hkeeps, List.prefix_append _ _⟩
    | cons d before =>
      obtain ⟨rfl, rfl⟩ := List.cons.inj htext
      rw [List.getLastD_cons] at hkeeps
      exact .inr ⟨before, after, rfl, hkeeps⟩
  · rintro (⟨rfl, hkeeps, after, rfl⟩ | ⟨before, after, rfl, hkeeps⟩)
    · exact ⟨[], after, rfl, hkeeps⟩
    · exact ⟨c :: before, after, rfl, by rwa [List.getLastD_cons]⟩

/-- A capital with small letters after it shows up in camel case exactly where it does in
capitals, and begins a word or follows a digit there. -/
theorem infix_camelAfter_iff {capital : Char} (hcapital : capital.isUpper = true)
    (hsmall : ∀ c ∈ small, c.isLower = true) (htext : ∀ c ∈ text, IsNative c) :
    (capital :: small) <:+: camelAfter previous text ↔
      Shows (capital :: small.map Char.toUpper) previous text := by
  have hlowers := lowers_of_isUpper hcapital
  induction text generalizing previous with
  | nil =>
    refine iff_of_false (by simp [camelAfter]) ?_
    rintro ⟨before, after, htext, -⟩
    simp at htext
  | cons c rest ih =>
    obtain ⟨hc, hrest⟩ := List.forall_mem_cons.1 htext
    rw [shows_cons_iff, (ih hrest).symm]
    by_cases hunderscore : c = '_'
    · rw [hunderscore, camelAfter_underscore]
      exact (or_iff_right fun h => hlowers.ne_underscore h.1.symm).symm
    by_cases hkeeps : KeepsCase previous
    · rw [camelAfter_kept hunderscore hkeeps, List.infix_cons_iff, List.cons_prefix_cons, eq_comm]
      refine or_congr_left (and_congr_right fun heq => ?_)
      rw [heq, prefix_camelAfter_iff hlowers.not_keepsCase hrest hsmall]
      exact (and_iff_right hkeeps).symm
    · -- A character that does not keep its case is no capital any more.
      have himage : ∃ image, lower c = [image] ∧ image.isUpper = false := by
        rcases hc.resolve_right hunderscore with hupper | hdigit
        · exact ⟨_, (lowers_of_isUpper hupper).lower_eq, (lowers_of_isUpper hupper).isUpper_toLower⟩
        · exact ⟨_, (lower_of_isDigit hdigit).1, (lower_of_isDigit hdigit).2.2⟩
      obtain ⟨image, hlower, hsmallImage⟩ := himage
      rw [camelAfter_lowered hunderscore hkeeps, hlower, List.singleton_append,
        List.infix_cons_iff, List.cons_prefix_cons]
      refine or_congr_left (iff_of_false (fun h => ?_) fun h => hkeeps h.2.1)
      rw [← h.1, hcapital] at hsmallImage
      cases hsmallImage

end Chars

/-! ## Markers in capitals -/

namespace Chars

variable {tag text : List Char}

/-- A text ends with the characters of a tag, with underscores in between, and each of its
capitals begins a word or follows a digit. -/
def SpellsOut (tag text : List Char) : Prop :=
  ∃ before letters, text = before ++ letters ∧ letters.filter (· ≠ '_') = tag ∧
    (before.getLastD '_' :: letters).IsChain fun previous c => c.isUpper = true → KeepsCase previous

theorem spellsOut_nil : SpellsOut [] text :=
  ⟨text, [], (List.append_nil text).symm, rfl, List.isChain_singleton _⟩

/-- The last character is one of the tag or an underscore. -/
theorem spellsOut_concat_iff {c : Char} (hnonempty : tag ≠ []) : SpellsOut tag (text ++ [c]) ↔
    ∃ shorter, SpellsOut shorter text ∧ shorter ++ [c].filter (· ≠ '_') = tag ∧
      (c.isUpper = true → KeepsCase (text.getLastD '_')) := by
  have hlast : ∀ before letters : List Char,
      (before.getLastD '_' :: letters).getLast? = some ((before ++ letters).getLastD '_') := by
    intro before letters
    rw [List.getLast?_cons, List.getLastD_eq_getLast?, List.getLastD_eq_getLast?,
      List.getLast?_append]
    cases letters.getLast? <;> rfl
  have hchain : ∀ before letters : List Char,
      (before.getLastD '_' :: (letters ++ [c])).IsChain (fun previous c =>
          c.isUpper = true → KeepsCase previous) ↔
        (before.getLastD '_' :: letters).IsChain (fun previous c =>
          c.isUpper = true → KeepsCase previous) ∧
        (c.isUpper = true → KeepsCase ((before ++ letters).getLastD '_')) := by
    intro before letters
    rw [← List.cons_append, List.isChain_append, hlast]
    simp
  constructor
  · rintro ⟨before, letters, htext, hletters, hkeeps⟩
    rcases List.eq_nil_or_concat' letters with rfl | ⟨shorter, last, rfl⟩
    · exact absurd hletters.symm hnonempty
    · rw [← List.append_assoc] at htext
      obtain ⟨rfl, hlast⟩ := List.append_inj' htext rfl
      obtain rfl := List.singleton_inj.1 hlast
      obtain ⟨hshorter, hkeeps⟩ := (hchain before shorter).1 hkeeps
      exact ⟨_, ⟨before, shorter, rfl, rfl, hshorter⟩, by rw [← hletters, List.filter_append],
        hkeeps⟩
  · rintro ⟨shorter, ⟨before, letters, rfl, rfl, hshorter⟩, hletters, hkeeps⟩
    exact ⟨before, letters ++ [c], by rw [List.append_assoc], by rw [List.filter_append, hletters],
      (hchain before letters).2 ⟨hshorter, hkeeps⟩⟩

/-- The last character of camel case is a capital or a digit only if the text has it there. -/
theorem concat_suffix_camelAfter_iff {previous c last : Char} {shown : List Char}
    (hlast : last.isUpper = true ∨ last.isDigit = true) (hc : c ≠ '_') :
    tag ++ [last] <:+ shown ++ camelAfter previous [c] ↔
      tag <:+ shown ∧ c = last ∧ (c.isUpper = true → KeepsCase previous) := by
  have hsame : tag ++ [last] <:+ shown ++ [c] ↔ tag <:+ shown ∧ c = last := by
    rw [List.suffix_concat_iff]
    constructor
    · rintro (hnil | ⟨start, hstart, hsuffix⟩)
      · simp at hnil
      · obtain ⟨rfl, heq⟩ := List.append_inj' hstart rfl
        exact ⟨hsuffix, (List.singleton_inj.1 heq).symm⟩
    · rintro ⟨hsuffix, rfl⟩
      exact .inr ⟨tag, rfl, hsuffix⟩
  by_cases hkeeps : KeepsCase previous
  · rw [camelAfter_kept hc hkeeps, camelAfter, hsame]
    simp [hkeeps]
  · rw [camelAfter_lowered hc hkeeps, camelAfter, List.append_nil]
    rcases lowersProperly c with ⟨hlower, hupper⟩ | ⟨hnonempty, himages⟩
    · rw [hlower, hsame]
      simp [hupper]
    · refine iff_of_false (fun h => ?_) ?_
      · obtain ⟨start, image, hlower⟩ := (List.eq_nil_or_concat' (lower c)).resolve_left hnonempty
        rw [hlower, ← List.append_assoc] at h
        rcases List.suffix_concat_iff.1 h with hnil | ⟨rest, hrest, -⟩
        · simp at hnil
        · obtain rfl := List.singleton_inj.1 (List.append_inj' hrest rfl).2
          obtain ⟨hupper, hdigit⟩ := himages last (by simp [hlower])
          simp [hupper, hdigit] at hlast
      · rintro ⟨-, rfl, hupper⟩
        rcases hlast with hcapital | hdigit
        · exact hkeeps (hupper hcapital)
        · have hself := (himages c (by simp [(lower_of_isDigit hdigit).1])).2
          rw [hdigit] at hself
          cases hself

/-- A tag in capitals and digits shows up at the end of camel case exactly where it is spelled
out. -/
theorem suffix_camelAfter_iff (htag : ∀ c ∈ tag, c.isUpper = true ∨ c.isDigit = true) :
    tag <:+ camelAfter '_' text ↔ SpellsOut tag text := by
  induction text using List.reverseRecOn generalizing tag with
  | nil =>
    constructor
    · intro h
      rw [List.suffix_nil.1 h]
      exact spellsOut_nil
    · rintro ⟨before, letters, htext, rfl, -⟩
      obtain ⟨-, rfl⟩ := List.append_eq_nil_iff.1 htext.symm
      exact List.nil_suffix
  | append_singleton text c ih =>
    rcases List.eq_nil_or_concat' tag with rfl | ⟨shorter, last, rfl⟩
    · exact iff_of_true List.nil_suffix spellsOut_nil
    obtain ⟨hshorter, hlast⟩ := List.forall_mem_append.1 htag
    rw [camelAfter_append, spellsOut_concat_iff (by simp)]
    by_cases hc : c = '_'
    · subst hc
      have hnothing : camelAfter (text.getLastD '_') ['_'] = [] := rfl
      rw [hnothing, List.append_nil, ih htag]
      simp
    · rw [concat_suffix_camelAfter_iff (hlast last (by simp)) hc, ih hshorter]
      simp only [List.filter_cons, List.filter_nil, ne_eq, hc, not_false_eq_true, decide_true,
        if_true]
      constructor
      · rintro ⟨hspells, rfl, hkeeps⟩
        exact ⟨shorter, hspells, rfl, hkeeps⟩
      · rintro ⟨start, hspells, hstart, hkeeps⟩
        obtain ⟨rfl, heq⟩ := List.append_inj' hstart rfl
        exact ⟨hspells, List.singleton_inj.1 heq, hkeeps⟩

end Chars

end VulkanBindings.Naming
