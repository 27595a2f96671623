import VulkanBindings.Proofs.Naming.Casing
import VulkanBindings.Proofs.Registry.Enumerators

/-!
# Names of enumerators

An enumerator gets its name from the words of its native name.  Two parts of the native name are
no words and are to be left out, and each of them can turn up among the words once more:

* the tag of an extension.  It is cut off together with what follows, so that the name of the
  enumerator does not end with it, unless the words before it spell it out in single letters
  (`tag_suffix_iff`);
* the ending of bits.  The name is cut at the first place where it has the ending, which is the
  end of the native name unless one of the words shows the ending earlier (`bits_named_iff`).
-/

namespace VulkanBindings.Registry

open Naming (between camelCase enumeratorMark)
open Naming.Chars (Shows SpellsOut)

variable {enumeration grown : Enumeration} {rawName tag name : String} {appendTag : Bool}

/-! ## Tags at the end -/

/-- The letter of enumerators and an underscore at the start are no part of a tag. -/
theorem suffix_mark_iff {tag words : List Char}
    (htag : ∀ c ∈ tag, c.isUpper = true ∨ c.isDigit = true) :
    tag <:+ enumeratorMark.toList ++ Naming.Chars.camelCase words ↔ SpellsOut tag words := by
  have hmark : ∀ first ∈ ['e', '_'], ∀ rest, tag <:+ first :: rest ↔ tag <:+ rest := by
    intro first hfirst rest
    rw [List.suffix_cons_iff]
    refine or_iff_right ?_
    rintro rfl
    have hcapital := htag first List.mem_cons_self
    simp at hfirst
    rcases hfirst with rfl | rfl <;> simp at hcapital
  rw [← Naming.Chars.suffix_camelAfter_iff htag]
  show tag <:+ 'e' :: Naming.Chars.camelCase words ↔ _
  rw [hmark 'e' (by simp)]
  by_cases hhead : words.head? = some '_'
  · obtain ⟨rest, rfl⟩ := List.head?_eq_some_iff.1 hhead
    show tag <:+ '_' :: Naming.Chars.camelAfter '_' rest ↔ tag <:+ Naming.Chars.camelAfter '_' rest
    rw [hmark '_' (by simp)]
  · rw [Naming.Chars.camelCase_eq_camelAfter hhead]

theorem endsWith_append (tag name : String) : Text.endsWith tag (name ++ tag) = true := by
  rw [Text.endsWith_iff, String.toList_append]
  exact List.suffix_append _ _

/-- An enum that has no bits takes a tagged enumerator in under the name without the tag, or under
that name with the tag behind it.  The first ends with the tag all the same, if and only if the
words before the tag spell it out once more. -/
theorem tag_suffix_iff (hplain : enumeration.isBitmask = false)
    (htag : ∀ c ∈ tag.toList, c.isUpper = true ∨ c.isDigit = true)
    (h : enumeration.add rawName tag appendTag = .ok grown) :
    ∃ words name, between enumeration.stem tag rawName = .ok words ∧
      enumeration.add rawName tag false =
        .ok { enumeration with members := enumeration.members ++ [⟨name, rawName⟩] } ∧
      enumeration.add rawName tag true =
        .ok { enumeration with members := enumeration.members ++ [⟨name ++ tag, rawName⟩] } ∧
      Text.endsWith tag (name ++ tag) = true ∧
      (Text.endsWith tag name = true ↔ SpellsOut tag.toList words.toList) := by
  obtain ⟨_, hname, -⟩ := add_eq_ok h
  obtain ⟨hcarried, words, hwords⟩ := exists_words hname
  have hnames := nameOf_plain hplain hcarried hwords
  refine ⟨words, enumeratorMark ++ camelCase words, hwords, add_of_nameOf (hnames false),
    add_of_nameOf (hnames true), endsWith_append _ _, ?_⟩
  rw [Text.endsWith_iff, String.toList_append, camelCase, String.toList_ofList]
  exact suffix_mark_iff htag

/-- An enum of color spaces. -/
def colorSpaces : Enumeration :=
  .bare false "VK_COLOR_SPACE_" ""

/-- A color space of an extension, whose words do not spell out the tag. -/
theorem sample_tag_suffix : ∃ words,
    between colorSpaces.stem "KHR" "VK_COLOR_SPACE_SRGB_NONLINEAR_KHR" = .ok words ∧
      ¬ SpellsOut "KHR".toList words.toList ∧
      colorSpaces.add "VK_COLOR_SPACE_SRGB_NONLINEAR_KHR" "KHR" false = .ok { colorSpaces with
        members := [⟨"eSrgbNonlinear", "VK_COLOR_SPACE_SRGB_NONLINEAR_KHR"⟩] } ∧
      colorSpaces.add "VK_COLOR_SPACE_SRGB_NONLINEAR_KHR" "KHR" true = .ok { colorSpaces with
        members := [⟨"eSrgbNonlinearKHR", "VK_COLOR_SPACE_SRGB_NONLINEAR_KHR"⟩] } := by
  have hname : (colorSpaces.nameOf "VK_COLOR_SPACE_SRGB_NONLINEAR_KHR" "KHR" false).toOption.any
      (· == "eSrgbNonlinear") = true := by decide +kernel
  obtain ⟨name, hname, heq⟩ := exists_of_any hname
  obtain rfl := beq_iff_eq.1 heq
  have hadded := add_of_nameOf hname
  obtain ⟨words, name, hwords, hwithout, hwith, -, hends⟩ :=
    tag_suffix_iff rfl (by simp) hadded
  have hmembers := congrArg Enumeration.members (Except.ok.inj (hadded.symm.trans hwithout))
  obtain ⟨rfl, -⟩ := Enumerator.mk.inj (List.singleton_inj.1 hmembers)
  exact ⟨words, hwords, mt hends.2 (by decide +kernel), hwithout, hwith⟩

/-- The letters of the tag, each a word of its own, make up the tag once more. -/
theorem spelled_tag_left : ∃ grown,
    colorSpaces.add "VK_COLOR_SPACE_LAB_K_H_R_KHR" "KHR" false = .ok grown ∧
      grown.members = [⟨"eLabKHR", "VK_COLOR_SPACE_LAB_K_H_R_KHR"⟩] ∧
      Text.endsWith "KHR" "eLabKHR" = true := by
  have hadded : (colorSpaces.add "VK_COLOR_SPACE_LAB_K_H_R_KHR" "KHR" false).toOption.any
      (fun grown => decide (grown.members = [⟨"eLabKHR", "VK_COLOR_SPACE_LAB_K_H_R_KHR"⟩])) =
        true := by decide +kernel
  obtain ⟨grown, hadded, hmembers⟩ := exists_of_any hadded
  exact ⟨grown, hadded, of_decide_eq_true hmembers, by decide⟩

/-! ## Bits -/

/-- A word of a native name. -/
def IsNativeWord (word : List Char) : Prop :=
  word ≠ [] ∧ ∀ c ∈ word, c.isUpper = true ∨ c.isDigit = true

/-- Words with a single underscore between one and the next. -/
inductive IsWordSequence : List Char → Prop where
  | last {word : List Char} (h : IsNativeWord word) : IsWordSequence word
  | next {word rest : List Char} (h : IsNativeWord word) (hrest : IsWordSequence rest) :
    IsWordSequence (word ++ '_' :: rest)

theorem IsWordSequence.isNative {words : List Char} (h : IsWordSequence words) :
    ∀ c ∈ words, Naming.IsNative c := by
  induction h with
  | last hword => exact fun c hc => .inl (hword.2 c hc)
  | next hword _ ih =>
    refine List.forall_mem_append.2 ⟨fun c hc => .inl (hword.2 c hc), ?_⟩
    exact List.forall_mem_cons.2 ⟨.inr rfl, ih⟩

/-- A sequence of words begins with a character of its first word. -/
theorem IsWordSequence.exists_head {words : List Char} (h : IsWordSequence words) :
    ∃ c rest, words = c :: rest ∧ c ≠ '_' := by
  have hhead : ∀ word : List Char, IsNativeWord word → ∃ c rest, word = c :: rest ∧ c ≠ '_' := by
    rintro word ⟨hnonempty, hcharacters⟩
    obtain ⟨c, rest, rfl⟩ := List.exists_cons_of_ne_nil hnonempty
    refine ⟨c, rest, rfl, ?_⟩
    rintro rfl
    simpa using hcharacters '_' List.mem_cons_self
  cases h with
  | last hword => exact hhead _ hword
  | next hword =>
    obtain ⟨c, rest, rfl, hc⟩ := hhead _ hword
    exact ⟨c, _, rfl, hc⟩

/-- What every native name of a bit ends with. -/
def nativeBitEnding : String := "_BIT"

/-- The words of a bit in camel case, up to the first place where the ending of bits shows up. -/
def wordsOfBit (words : String) : String :=
  ((Text.cut? bitEnding (camelCase words)).map Prod.fst).getD (camelCase words)

section Bits

variable {words : String}

/-- The ending of a native name becomes the ending of its camel case. -/
theorem camelCase_append_ending (hwords : words ≠ "") :
    camelCase (words ++ nativeBitEnding) = camelCase words ++ bitEnding := by
  obtain ⟨c, rest, hcharacters⟩ :=
    List.exists_cons_of_ne_nil (mt String.toList_eq_nil_iff.1 hwords)
  rw [← String.toList_inj, String.toList_append, camelCase, camelCase, String.toList_ofList,
    String.toList_ofList, String.toList_append, hcharacters]
  have hending : ∀ previous,
      Naming.Chars.camelAfter previous nativeBitEnding.toList = bitEnding.toList := by
    intro previous
    rfl
  show c :: Naming.Chars.camelAfter c (rest ++ _) = _
  rw [Naming.Chars.camelAfter_append, hending]
  rfl

/-- Of the camel case of a bit, what stands before the first ending is kept. -/
theorem cutEnding_bit (hbits : enumeration.isBitmask = true)
    (hending : enumeration.ending = bitEnding) (text : String) :
    enumeration.cutEnding (enumeratorMark ++ (text ++ bitEnding)) =
      enumeratorMark ++ ((Text.cut? bitEnding text).map Prod.fst).getD text := by
  have hmarker : bitEnding.toList = 'B' :: ['i', 't'] := rfl
  have hname : (enumeratorMark ++ (text ++ bitEnding)).toList =
      'e' :: (text.toList ++ 'B' :: ['i', 't']) := by
    rw [String.toList_append, String.toList_append, hmarker]
    rfl
  have hstart : ∀ rest, Text.Chars.after? ['B', 'i', 't'] ('e' :: rest) = none := fun _ => rfl
  have hmark : ∀ rest, String.ofList ('e' :: rest) = enumeratorMark ++ String.ofList rest := by
    intro rest
    have hsplit : String.ofList (['e'] ++ rest) = String.ofList ['e'] ++ String.ofList rest :=
      String.ofList_append
    exact hsplit
  unfold Enumeration.cutEnding Text.cut?
  rw [hbits, hending, hname, hmarker, Text.Chars.cut?, hstart,
    Text.Chars.cut?_append_marker (by decide)]
  cases hcut : Text.Chars.cut? ['B', 'i', 't'] text.toList with
  | none =>
    show String.ofList ('e' :: text.toList) = enumeratorMark ++ text
    rw [hmark, String.ofList_toList]
  | some parts => exact hmark parts.1

/-- The ending shows up among the words of a bit where they show it in capitals. -/
theorem isSome_cut?_iff (hwords : IsWordSequence words.toList) :
    (Text.cut? bitEnding (camelCase words)).isSome = true ↔
      Shows "BIT".toList '_' words.toList := by
  obtain ⟨c, rest, hcharacters, hc⟩ := hwords.exists_head
  have hhead : words.toList.head? ≠ some '_' := by
    rw [hcharacters, List.head?_cons, ne_eq, Option.some_inj]
    exact hc
  have hshows : 'B' :: ['i', 't'] <:+: Naming.Chars.camelAfter '_' words.toList ↔
      Shows ('B' :: ['i', 't'].map Char.toUpper) '_' words.toList :=
    Naming.Chars.infix_camelAfter_iff (by decide) (by simp) hwords.isNative
  rw [Text.cut?, Option.isSome_map, camelCase, String.toList_ofList,
    Naming.Chars.camelCase_eq_camelAfter hhead]
  exact Text.Chars.occurs_iff.trans hshows

theorem wordsOfBit_eq_iff (hwords : IsWordSequence words.toList) :
    wordsOfBit words = camelCase words ↔ ¬ Shows "BIT".toList '_' words.toList := by
  rw [← isSome_cut?_iff hwords, wordsOfBit]
  cases hcut : Text.cut? bitEnding (camelCase words) with
  | none => simp
  | some parts =>
    obtain ⟨⟨before, rest⟩, hchars, rfl⟩ := Option.map_eq_some_iff.1 hcut
    refine iff_of_false (fun heq => ?_) (not_not_intro rfl)
    have hlength := congrArg List.length (Text.Chars.cut?_eq_some hchars)
    rw [← heq] at hlength
    have hmarker : bitEnding.toList.length = 3 := rfl
    simp [Text.toParts, hmarker] at hlength

/-- The name of a bit is made of its words, up to the first ending that shows up among them. -/
theorem nameOf_bit (hbits : enumeration.isBitmask = true)
    (hending : enumeration.ending = bitEnding) (hwords : words ≠ "") :
    enumeration.nameOf (enumeration.stem ++ words ++ nativeBitEnding) "" false =
      .ok (enumeratorMark ++ wordsOfBit words) := by
  rw [String.append_assoc, nameOf_of_between (.inl rfl) (Naming.between_append_empty _ _),
    camelCase_append_ending hwords, cutEnding_bit hbits hending]
  rfl

end Bits

/-- A bit is taken in under its words in camel case, if and only if none of them begins with the
letters of the ending or has them after a digit.  Otherwise the name stops at the first place
where the ending shows up.  Bits with words of the first kind have different names if their
words are different in camel case. -/
theorem bits_named_iff (hbits : enumeration.isBitmask = true)
    (hending : enumeration.ending = bitEnding) :
    (∀ words : String, IsWordSequence words.toList →
      enumeration.add (enumeration.stem ++ words ++ nativeBitEnding) "" false =
        .ok { enumeration with members := enumeration.members ++
          [⟨enumeratorMark ++ wordsOfBit words, enumeration.stem ++ words ++ nativeBitEnding⟩] } ∧
      (wordsOfBit words = camelCase words ↔ ¬ Shows "BIT".toList '_' words.toList)) ∧
    ∀ words others : String, IsWordSequence words.toList → IsWordSequence others.toList →
      ¬ Shows "BIT".toList '_' words.toList → ¬ Shows "BIT".toList '_' others.toList →
      camelCase words ≠ camelCase others →
        enumeration.nameOf (enumeration.stem ++ words ++ nativeBitEnding) "" false ≠
          enumeration.nameOf (enumeration.stem ++ others ++ nativeBitEnding) "" false := by
  have hnonempty : ∀ words : String, IsWordSequence words.toList → words ≠ "" := by
    rintro _ hwords rfl
    obtain ⟨c, rest, hnil, -⟩ := hwords.exists_head
    cases hnil
  refine ⟨fun words hwords => ⟨?_, wordsOfBit_eq_iff hwords⟩, ?_⟩
  · exact add_of_nameOf (nameOf_bit hbits hending (hnonempty words hwords))
  · intro words others hwords hothers hplain hotherPlain hne hsame
    rw [nameOf_bit hbits hending (hnonempty words hwords),
      nameOf_bit hbits hending (hnonempty others hothers),
      (wordsOfBit_eq_iff hwords).2 hplain, (wordsOfBit_eq_iff hothers).2 hotherPlain] at hsame
    exact hne (String.append_right_inj _ |>.1 (Except.ok.inj hsame))

/-- An enum of the bits of images. -/
def imageBits : Enumeration :=
  .bare true "VK_IMAGE_" bitEnding

/-- Two bits of the sample with their names. -/
theorem sample_bits_named :
    ¬ Shows "BIT".toList '_' "COLOR_ATTACHMENT".toList ∧
    imageBits.add "VK_IMAGE_COLOR_ATTACHMENT_BIT" "" false = .ok { imageBits with
      members := [⟨"eColorAttachment", "VK_IMAGE_COLOR_ATTACHMENT_BIT"⟩] } ∧
    imageBits.nameOf "VK_IMAGE_COLOR_ATTACHMENT_BIT" "" false ≠
      imageBits.nameOf "VK_IMAGE_8_SAMPLES_BIT" "" false := by
  have hcolor : IsWordSequence "COLOR_ATTACHMENT".toList := by
    show IsWordSequence ("COLOR".toList ++ '_' :: "ATTACHMENT".toList)
    exact .next ⟨by simp, by simp⟩ (.last ⟨by simp, by simp⟩)
  have hsamples : IsWordSequence "8_SAMPLES".toList := by
    show IsWordSequence ("8".toList ++ '_' :: "SAMPLES".toList)
    exact .next ⟨by simp, by simp⟩ (.last ⟨by simp, by simp⟩)
  obtain ⟨hadded, hdistinct⟩ := bits_named_iff (rfl : imageBits.isBitmask = true) rfl
  obtain ⟨hcolorAdded, hcolorPlain⟩ := hadded _ hcolor
  have hcolorPlain := hcolorPlain.1 (by decide +kernel)
  have hsamplesPlain := (hadded _ hsamples).2.1 (by decide +kernel)
  have hdifferent := hdistinct _ _ hcolor hsamples hcolorPlain hsamplesPlain (by decide +kernel)
  have hcolorRaw : imageBits.stem ++ "COLOR_ATTACHMENT" ++ nativeBitEnding =
      "VK_IMAGE_COLOR_ATTACHMENT_BIT" := by decide +kernel
  have hsamplesRaw : imageBits.stem ++ "8_SAMPLES" ++ nativeBitEnding =
      "VK_IMAGE_8_SAMPLES_BIT" := by decide +kernel
  have hname : enumeratorMark ++ wordsOfBit "COLOR_ATTACHMENT" = "eColorAttachment" := by
    decide +kernel
  rw [hcolorRaw, hname] at hcolorAdded
  rw [hcolorRaw, hsamplesRaw] at hdifferent
  exact ⟨hcolorPlain, hcolorAdded, hdifferent⟩

/-- Two bits whose words begin with the letters of the ending get one name. -/
theorem bitmap_bits_collide :
    IsWordSequence "BITMAP".toList ∧ IsWordSequence "BITCOUNT".toList ∧
      camelCase "BITMAP" = "Bitmap" ∧ camelCase "BITCOUNT" = "Bitcount" ∧
      ∃ grown, (imageBits.add "VK_IMAGE_BITMAP_BIT" "" false >>= fun first =>
          first.add "VK_IMAGE_BITCOUNT_BIT" "" false) = .ok grown ∧
        grown.members = [⟨"e", "VK_IMAGE_BITMAP_BIT"⟩, ⟨"e", "VK_IMAGE_BITCOUNT_BIT"⟩] := by
  have hadded : (imageBits.add "VK_IMAGE_BITMAP_BIT" "" false >>= fun first =>
      first.add "VK_IMAGE_BITCOUNT_BIT" "" false).toOption.any (fun grown => decide
        (grown.members = [⟨"e", "VK_IMAGE_BITMAP_BIT"⟩, ⟨"e", "VK_IMAGE_BITCOUNT_BIT"⟩])) =
      true := by decide +kernel
  obtain ⟨grown, hadded, hmembers⟩ := exists_of_any hadded
  exact ⟨.last ⟨by simp, by simp⟩, .last ⟨by simp, by simp⟩, by decide +kernel,
    by decide +kernel, grown, hadded, of_decide_eq_true hmembers⟩

end VulkanBindings.Registry
