/-!
# Finding text in text

A text is cut around a marker, at its first or at its last occurrence, into
what stands before the marker and what stands after it.  `Chars.cut?_eq_some`
and `Chars.cutLast?_eq_some` say that the two parts and the marker make up the
text.
-/

namespace VulkanBindings.Text

namespace Chars

/-- The rest of the text, when it begins with `start`. -/
def after? : (start text : List Char) → Option (List Char)
  | [], text => some text
  | _ :: _, [] => none
  | s :: start, c :: text => if s = c then after? start text else none

/-- The parts of the text before and after the first occurrence of `marker`. -/
def cut? (marker : List Char) : (text : List Char) → Option (List Char × List Char)
  | [] => (after? marker []).map ([], ·)
  | c :: text =>
    match after? marker (c :: text) with
    | some rest => some ([], rest)
    | none => (cut? marker text).map fun (before, rest) => (c :: before, rest)

/-- The parts of the text before and after the last occurrence of `marker`. -/
def cutLast? (marker : List Char) : (text : List Char) → Option (List Char × List Char)
  | [] => (after? marker []).map ([], ·)
  | c :: text =>
    match cutLast? marker text with
    | some (before, rest) => some (c :: before, rest)
    | none => (after? marker (c :: text)).map ([], ·)

/-- Whether `marker` occurs in the text. -/
def occurs (marker text : List Char) : Bool :=
  (cut? marker text).isSome

/-- The parts of the text between occurrences of `separator`: one more than
there are occurrences. -/
def fields (separator : Char) : (text : List Char) → List (List Char)
  | [] => [[]]
  | c :: text =>
    if c = separator then
      [] :: fields separator text
    else
      match fields separator text with
      | [] => [[c]]
      | field :: others => (c :: field) :: others

/-! ## Nothing is lost -/

@[simp] theorem after?_append (start rest : List Char) :
    after? start (start ++ rest) = some rest := by
  induction start with
  | nil => rfl
  | cons s start ih => simp [after?, ih]

theorem after?_eq_some {start text rest : List Char} :
    after? start text = some rest ↔ text = start ++ rest := by
  induction start generalizing text with
  | nil => simp [after?]
  | cons s start ih =>
    cases text with
    | nil => simp [after?]
    | cons c text =>
      simp only [after?, List.cons_append, List.cons.injEq]
      split
      · rename_i h; simp [ih, h]
      · rename_i h; simp; intro hc; exact absurd hc.symm h

theorem cut?_eq_some {marker text before rest : List Char}
    (h : cut? marker text = some (before, rest)) : text = before ++ marker ++ rest := by
  induction text generalizing before with
  | nil =>
    simp only [cut?, Option.map_eq_some_iff, Prod.mk.injEq] at h
    obtain ⟨_, ha, rfl, rfl⟩ := h
    simpa using after?_eq_some.1 ha
  | cons c text ih =>
    simp only [cut?] at h
    split at h
    · rename_i tail ha
      simp only [Option.some.injEq, Prod.mk.injEq] at h
      obtain ⟨rfl, rfl⟩ := h
      simpa using after?_eq_some.1 ha
    · simp only [Option.map_eq_some_iff, Prod.mk.injEq] at h
      obtain ⟨⟨b, r⟩, hc, rfl, rfl⟩ := h
      simp [ih hc]

theorem cutLast?_eq_some {marker text before rest : List Char}
    (h : cutLast? marker text = some (before, rest)) : text = before ++ marker ++ rest := by
  induction text generalizing before with
  | nil =>
    simp only [cutLast?, Option.map_eq_some_iff, Prod.mk.injEq] at h
    obtain ⟨_, ha, rfl, rfl⟩ := h
    simpa using after?_eq_some.1 ha
  | cons c text ih =>
    simp only [cutLast?] at h
    split at h
    · rename_i b r hc
      simp only [Option.some.injEq, Prod.mk.injEq] at h
      obtain ⟨rfl, rfl⟩ := h
      simp [ih hc]
    · simp only [Option.map_eq_some_iff, Prod.mk.injEq] at h
      obtain ⟨_, ha, rfl, rfl⟩ := h
      simpa using after?_eq_some.1 ha

end Chars

/-- The two parts of a cut, as texts. -/
def toParts (parts : List Char × List Char) : String × String :=
  (String.ofList parts.1, String.ofList parts.2)

/-- The parts of the text before and after the first occurrence of `marker`. -/
def cut? (marker text : String) : Option (String × String) :=
  (Chars.cut? marker.toList text.toList).map toParts

/-- The parts of the text before and after the last occurrence of `marker`. -/
def cutLast? (marker text : String) : Option (String × String) :=
  (Chars.cutLast? marker.toList text.toList).map toParts

/-- Whether `marker` occurs in the text. -/
def occurs (marker text : String) : Bool :=
  Chars.occurs marker.toList text.toList

/-- Whether the text begins with `start`. -/
def beginsWith (start text : String) : Bool :=
  (Chars.after? start.toList text.toList).isSome

/-- Whether the text ends with `tail`. -/
def endsWith (tail text : String) : Bool :=
  (Chars.after? tail.toList.reverse text.toList.reverse).isSome

/-- The parts of the text between occurrences of `separator`. -/
def fields (separator : Char) (text : String) : List String :=
  (Chars.fields separator text.toList).map String.ofList

end VulkanBindings.Text
