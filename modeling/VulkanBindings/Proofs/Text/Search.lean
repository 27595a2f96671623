import Mathlib.Data.List.Infix
import VulkanBindings.Text.Search

/-!
# What the tests on text say

The tests for endings and occurrences in terms of the relations between lists of
characters (`endsWith_iff`, `occurs_iff`, `cutLast?_eq_none_iff`), and where a text is cut that
ends with a marker (`cutLast?_append` at the last occurrence, `cut?_append_marker` at the first
one) or begins with it (`exists_cutLast?_of_start`).
-/

namespace VulkanBindings.Text

namespace Chars

variable {start marker text : List Char}

theorem isSome_after?_iff : (after? start text).isSome = true ↔ start <+: text := by
  constructor
  · intro h
    obtain ⟨rest, hrest⟩ := Option.isSome_iff_exists.1 h
    exact ⟨rest, (after?_eq_some.1 hrest).symm⟩
  · rintro ⟨rest, rfl⟩
    rw [after?_append, Option.isSome_some]

theorem occurs_iff : occurs marker text = true ↔ marker <:+: text := by
  unfold occurs
  induction text with
  | nil =>
    rw [cut?, Option.isSome_map, isSome_after?_iff, List.prefix_nil, List.infix_nil]
  | cons c text ih =>
    rw [cut?, List.infix_cons_iff, ← isSome_after?_iff, ← ih]
    cases hstart : after? marker (c :: text) with
    | some rest => simp
    | none => simp

/-- A text is cut around a single character where that character first occurs. -/
theorem cut?_singleton_eq_some {c : Char} {before rest : List Char} :
    cut? [c] text = some (before, rest) ↔ text = before ++ c :: rest ∧ c ∉ before := by
  constructor
  · intro h
    refine ⟨by simpa using cut?_eq_some h, ?_⟩
    induction text generalizing before with
    | nil => simp [cut?, after?] at h
    | cons d text ih =>
      by_cases hd : c = d
      · simp [cut?, after?, hd] at h
        simp [h.1]
      · simp only [cut?, after?, if_neg hd, Option.map_eq_some_iff, Prod.mk.injEq] at h
        obtain ⟨⟨start, tail⟩, hcut, rfl, rfl⟩ := h
        simp [hd, ih hcut]
  · rintro ⟨rfl, hbefore⟩
    induction before with
    | nil => simp [cut?, after?]
    | cons d before ih =>
      obtain ⟨hd, hrest⟩ := not_or.1 (mt List.mem_cons.2 hbefore)
      simp [cut?, after?, hd, ih hrest]

/-- Behind a text, a marker whose first character is not repeated in it overlaps with nothing:
the first cut is in the text, or else at the marker itself. -/
theorem cut?_append_marker {c : Char} {tail : List Char} (htail : c ∉ tail) :
    cut? (c :: tail) (text ++ c :: tail) =
      some (((cut? (c :: tail) text).map fun parts => (parts.1, parts.2 ++ c :: tail)).getD
        (text, [])) := by
  induction text with
  | nil =>
    have hself : after? (c :: tail) (c :: tail) = some [] :=
      after?_eq_some.2 (List.append_nil _).symm
    rw [List.nil_append, cut?, cut?, hself]
    rfl
  | cons d text ih =>
    rw [List.cons_append, cut?, cut?, ih]
    cases hstart : after? (c :: tail) (d :: text) with
    | some rest =>
      have hlater : after? (c :: tail) (d :: (text ++ c :: tail)) = some (rest ++ c :: tail) := by
        rw [after?_eq_some, ← List.cons_append, after?_eq_some.1 hstart, List.append_assoc]
      rw [hlater]
      rfl
    | none =>
      have hlater : after? (c :: tail) (d :: (text ++ c :: tail)) = none := by
        have hnot : ∀ rest, d :: text ≠ c :: tail ++ rest := fun rest heq => by
          rw [after?_eq_some.2 heq] at hstart
          cases hstart
        refine Option.eq_none_iff_forall_ne_some.2 fun rest hrest => ?_
        obtain ⟨rfl, hsplit⟩ := List.cons.inj (after?_eq_some.1 hrest)
        rcases List.append_eq_append_iff.1 hsplit with ⟨between, rfl, hover⟩ | ⟨between, rfl, -⟩
        · -- The marker would begin in the text and end in the marker behind it.
          cases between with
          | nil => exact hnot [] (by simp)
          | cons e between =>
            obtain ⟨rfl, -⟩ := List.cons.inj hover
            exact htail (by simp)
        · exact hnot between rfl
      rw [hlater]
      cases cut? (c :: tail) text <;> rfl

/-- A text is cut at the last occurrence of a marker if there is one. -/
theorem isSome_cutLast?_iff : (cutLast? marker text).isSome = true ↔ marker <:+: text := by
  induction text with
  | nil => rw [cutLast?, Option.isSome_map, isSome_after?_iff, List.prefix_nil, List.infix_nil]
  | cons c text ih =>
    rw [cutLast?, List.infix_cons_iff, ← isSome_after?_iff, ← ih]
    cases cutLast? marker text with
    | some parts => simp
    | none => simp

/-- A marker does not occur in a shorter text. -/
theorem cutLast?_eq_none_of_length (h : text.length < marker.length) :
    cutLast? marker text = none := by
  rw [← Option.not_isSome_iff_eq_none, isSome_cutLast?_iff]
  intro hpart
  have hlength := hpart.length_le
  omega

/-- A text that begins with the marker is cut somewhere, there or later. -/
theorem exists_cutLast?_of_start (marker tail : List Char) :
    ∃ before rest, cutLast? marker (marker ++ tail) = some (before, rest) ∧
      marker ++ tail = before ++ marker ++ rest := by
  have hpart : marker <:+: marker ++ tail := (List.prefix_append marker tail).isInfix
  obtain ⟨⟨before, rest⟩, hcut⟩ := Option.isSome_iff_exists.1 (isSome_cutLast?_iff.2 hpart)
  exact ⟨before, rest, hcut, cutLast?_eq_some hcut⟩

/-- A text that ends with the marker is cut there, since no occurrence is later. -/
theorem cutLast?_append (hmarker : marker ≠ []) (before : List Char) :
    cutLast? marker (before ++ marker) = some (before, []) := by
  have hself : ∀ text, text = marker → after? marker text = some [] := by
    rintro text rfl
    simpa using after?_append text []
  induction before with
  | nil =>
    obtain ⟨c, rest, rfl⟩ := List.exists_cons_of_ne_nil hmarker
    have hrest : cutLast? (c :: rest) rest = none := cutLast?_eq_none_of_length (by simp)
    rw [List.nil_append, cutLast?, hrest]
    simp [hself]
  | cons c before ih => rw [List.cons_append, cutLast?, ih]

end Chars

variable {marker text tail : String}

theorem endsWith_iff : endsWith tail text = true ↔ tail.toList <:+ text.toList := by
  rw [endsWith, Chars.isSome_after?_iff, List.reverse_prefix]

theorem occurs_iff : occurs marker text = true ↔ marker.toList <:+: text.toList :=
  Chars.occurs_iff

theorem cutLast?_eq_none_iff : cutLast? marker text = none ↔ ¬ marker.toList <:+: text.toList := by
  rw [cutLast?, Option.map_eq_none_iff, ← Option.not_isSome_iff_eq_none, Chars.isSome_cutLast?_iff]

/-- A text begins with a start that can be taken off. -/
theorem beginsWith_iff {start : String} :
    beginsWith start text = true ↔ start.toList <+: text.toList :=
  Chars.isSome_after?_iff

/-- A text is cut around a single character where that character first occurs. -/
theorem cut?_singleton_eq_some {c : Char} {before rest : String} :
    cut? (String.singleton c) text = some (before, rest) ↔
      text = before ++ String.singleton c ++ rest ∧ c ∉ before.toList := by
  have hmarker : (String.singleton c).toList = [c] := String.toList_singleton c
  constructor
  · intro h
    obtain ⟨⟨start, tail⟩, hcut, hparts⟩ := Option.map_eq_some_iff.1 h
    rw [hmarker, Chars.cut?_singleton_eq_some] at hcut
    obtain ⟨rfl, rfl⟩ := Prod.mk.inj hparts
    refine ⟨?_, by simpa using hcut.2⟩
    rw [← String.toList_inj, hcut.1]
    simp
  · rintro ⟨rfl, hbefore⟩
    have hcut : Chars.cut? [c] (before ++ String.singleton c ++ rest).toList =
        some (before.toList, rest.toList) :=
      Chars.cut?_singleton_eq_some.2 ⟨by simp, hbefore⟩
    rw [cut?, hmarker, hcut, Option.map_some, toParts, String.ofList_toList, String.ofList_toList]

/-- A text that ends with the marker is cut there. -/
theorem cutLast?_append (hmarker : marker ≠ "") (before : String) :
    cutLast? marker (before ++ marker) = some (before, "") := by
  have hchars : marker.toList ≠ [] := fun hnil => hmarker (String.toList_eq_nil_iff.1 hnil)
  unfold cutLast?
  rw [String.toList_append, Chars.cutLast?_append hchars, Option.map_some, toParts,
    String.ofList_toList]

/-! ## Ends of texts -/

/-- A text does not have two endings, unless one of them ends with the other. -/
theorem append_ne_append {before before' after after' : String}
    (h : ¬ after.toList <:+ after'.toList ∧ ¬ after'.toList <:+ after.toList) :
    before ++ after ≠ before' ++ after' := by
  intro heq
  have heq : before.toList ++ after.toList = before'.toList ++ after'.toList := by
    simpa only [String.toList_append] using congrArg String.toList heq
  rcases List.suffix_or_suffix_of_suffix (List.suffix_append before.toList after.toList)
    (heq ▸ List.suffix_append before'.toList after'.toList) with hends | hends
  · exact h.1 hends
  · exact h.2 hends

/-- A start of two texts is one of the first, if it lacks what the second begins with. -/
theorem Chars.prefix_of_prefix_append {start text rest : List Char} (h : start <+: text ++ rest)
    (hrest : ∀ c ∈ rest.head?, c ∉ start) : start <+: text := by
  rcases List.prefix_or_prefix_of_prefix h (List.prefix_append text rest) with hstart | ⟨tail, rfl⟩
  · exact hstart
  · have htail : tail <+: rest := (List.prefix_append_right_inj text).1 h
    cases tail with
    | nil => exact (List.append_nil text).symm ▸ List.prefix_rfl
    | cons c tail =>
      obtain ⟨rest, rfl⟩ := htail
      exact absurd (by simp) (hrest c (by simp))

/-- When a name has `c` right behind it in one place, and the same text has `tail` in front
of that name in another, then `c` is somewhere in `tail`. -/
theorem Chars.mem_of_append_eq_append {c : Char} {name rest rest' tail : List Char}
    (htail : tail ≠ []) (h : name ++ c :: rest = tail ++ (name ++ rest')) : c ∈ tail := by
  induction name generalizing tail with
  | nil =>
    cases tail with
    | nil => exact absurd rfl htail
    | cons d tail => exact (List.cons.inj h).1 ▸ List.mem_cons_self
  | cons n name ih =>
    cases tail with
    | nil => exact absurd rfl htail
    | cons d tail =>
      obtain ⟨rfl, h⟩ := List.cons.inj h
      -- The first letter of the name moves to the end of what stands in front of the rest.
      have hrotated : name ++ c :: rest = tail ++ [n] ++ (name ++ rest') := by simpa using h
      exact (List.perm_append_singleton n tail).mem_iff.1 (ih (by simp) hrotated)

/-- A name with `c` in front of it does not end a text that also ends with that name and
`tail`, unless `c` is in `tail`. -/
theorem mark_append_ne_append {c : Char} {tail : String} (htail : tail ≠ "")
    (hmark : c ∉ tail.toList) (before before' name : String) :
    before ++ String.singleton c ++ name ≠ before' ++ name ++ tail := by
  intro heq
  have hreverse : name.toList.reverse ++ c :: before.toList.reverse =
      tail.toList.reverse ++ (name.toList.reverse ++ before'.toList.reverse) := by
    simpa using congrArg (fun text => text.toList.reverse) heq
  have htail : tail.toList.reverse ≠ [] := by simpa using htail
  exact hmark (by simpa using Chars.mem_of_append_eq_append htail hreverse)

end VulkanBindings.Text
