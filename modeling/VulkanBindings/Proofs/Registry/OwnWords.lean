import VulkanBindings.Proofs.Registry.EnumeratorNames

/-!
# Groups whose enumerators keep their own words

The native names of the enumerators of a group begin with the name of the group in upper case,
and what follows are their own words.  A group of an extension has the tag of its vendor at the
end of its name; the tag is looked for at the end of the upper case name, and what stands
between the rest of the name and the last occurrence of the tag is taken for the words.

So a group whose name only ends with the letters of a tag loses the words.  `own_words_iff` says
that every other group names all its enumerators after their own words (`Unmistaken`), and that
one in which a tag is mistaken does not.
-/

namespace VulkanBindings.Registry

open Naming (IsCamelName between camelCase enumeratorMark screamingSnake tagOfStart)
open Xml (Node)

variable {tags : NameSet} {name tag rawName label : String} {node : Node}
  {group : Enumeration}

/-! ## Tags at the end of a group's name -/

/-- No tag stands at the end of the upper case name, apart from the empty tag. -/
def Unmistaken (tags : NameSet) (name : String) : Prop :=
  "" ∈ tags ∨ ∀ tag ∈ tags, Text.endsWith tag ("VK" ++ screamingSnake name) = false

/-- Nothing comes before the empty name. -/
theorem head?_names_of_empty (h : "" ∈ tags) : tags.names.head? = some "" := by
  obtain ⟨names, hincreasing⟩ := tags
  cases names with
  | nil => cases h
  | cons first rest =>
    rcases List.mem_cons.1 h with hfirst | hrest
    · exact congrArg some hfirst.symm
    · have hbefore := (List.pairwise_cons.1 hincreasing).1 "" hrest
      exact absurd (String.lt_iff.1 hbefore) (List.not_lt_nil _)

theorem endsWith_stemOf (tag name : String) :
    Text.endsWith (tag ++ "_") (stemOf name) = Text.endsWith tag ("VK" ++ screamingSnake name) := by
  have hmark : "_".toList = ['_'] := rfl
  rw [Bool.eq_iff_iff, Text.endsWith_iff, Text.endsWith_iff, stemOf, String.toList_append,
    String.toList_append, hmark]
  exact List.suffix_append_self_iff

theorem tagOfStart_stemOf (tags : NameSet) (name : String) : tagOfStart tags (stemOf name) =
    (tags.names.find? fun tag => Text.endsWith tag ("VK" ++ screamingSnake name)).getD "" := by
  unfold tagOfStart
  simp only [endsWith_stemOf]

/-- A tag that a group has is one of the tags, and stands at the end of the upper case name. -/
theorem endsWith_of_tagOfStart (h : tagOfStart tags (stemOf name) = tag) (htag : tag ≠ "") :
    tag ∈ tags ∧ Text.endsWith tag ("VK" ++ screamingSnake name) = true := by
  subst h
  rw [← endsWith_stemOf]
  exact Naming.tagOfStart_spec htag

/-- A group has no tag exactly if none is mistaken for one. -/
theorem tagOfStart_eq_empty_iff : tagOfStart tags (stemOf name) = "" ↔ Unmistaken tags name := by
  constructor
  · intro h
    rw [tagOfStart_stemOf] at h
    cases hfound : tags.names.find? fun tag => Text.endsWith tag ("VK" ++ screamingSnake name) with
    | none => exact .inr fun tag htag => eq_false_of_ne_true (List.find?_eq_none.1 hfound tag htag)
    | some tag =>
      rw [hfound, Option.getD_some] at h
      rw [h] at hfound
      exact .inl (List.mem_of_find?_eq_some hfound)
  · rintro (hempty | hnone)
    · obtain ⟨rest, hnames⟩ := List.head?_eq_some_iff.1 (head?_names_of_empty hempty)
      have hends : Text.endsWith "" ("VK" ++ screamingSnake name) = true :=
        Text.endsWith_iff.2 List.nil_suffix
      rw [tagOfStart_stemOf, hnames, List.find?_cons, hends]
      rfl
    · by_contra htag
      obtain ⟨hmem, hends⟩ := endsWith_of_tagOfStart rfl htag
      rw [hnone _ hmem] at hends
      cases hends

/-- A tag that a group has is in front of the underscore at the end of its stem. -/
theorem exists_start (h : tagOfStart tags (stemOf name) = tag) (htag : tag ≠ "") :
    ∃ start, "VK" ++ screamingSnake name = start ++ tag ∧ dropTag (stemOf name) tag = start := by
  obtain ⟨start, hstart⟩ := Text.endsWith_iff.1 (endsWith_of_tagOfStart h htag).2
  have hsplit : "VK" ++ screamingSnake name = String.ofList start ++ tag := by
    rw [← String.toList_inj, ← hstart, String.toList_append, String.toList_ofList]
  refine ⟨String.ofList start, hsplit, ?_⟩
  have hlength : (stemOf name).length - (tag.length + 1) = start.length := by
    rw [stemOf, hsplit, String.length_append, String.length_append, String.length_ofList]
    have hmark : "_".length = 1 := rfl
    omega
  rw [dropTag, if_neg (mt String.isEmpty_iff.1 htag), hlength, stemOf, hsplit,
    String.toList_append, String.toList_append, String.toList_ofList, List.append_assoc,
    List.take_left]

/-- The enum and the tag of a group that is none of bits. -/
theorem groupOf_enum (htype : node.attribute? "type" = some "enum") (hresult : name ≠ resultEnum) :
    groupOf node name tags =
      .ok (.bare false (dropTag (stemOf name) (tagOfStart tags (stemOf name))) "",
        tagOfStart tags (stemOf name)) := by
  unfold groupOf
  rw [if_neg fun heq => hresult (beq_iff_eq.1 heq), requireAttribute_eq_ok.2 htype]
  rfl

/-! ## What a group takes in -/

/-- Whatever members the enum of a group has got by then, it takes the enumerator in under the
name. -/
def Takes (group : Enumeration) (tag rawName name : String) : Prop :=
  ∀ grown, group.Extends grown → grown.add rawName tag false =
    .ok { grown with members := grown.members ++ [⟨name, rawName⟩] }

theorem takes_iff : Takes group tag rawName label ↔ group.nameOf rawName tag false = .ok label := by
  constructor
  · intro h
    obtain ⟨name, hname, hgrown⟩ := add_eq_ok (h group (.refl group))
    have hmembers := congrArg Enumeration.members hgrown
    obtain ⟨rfl, -⟩ : label = name ∧ rawName = rawName := by
      simpa using List.append_cancel_left hmembers
    exact hname
  · intro h grown hgrown
    refine add_of_nameOf ?_
    rw [hgrown.nameOf_eq]
    exact h

/-- Words that an enum without bits has for an enumerator give it its name. -/
theorem nameOf_bare {start words : String} (hcarried : tag = "" ∨ Text.occurs tag rawName = true)
    (hwords : between start tag rawName = .ok words) :
    (Enumeration.bare false start "").nameOf rawName tag false =
      .ok (enumeratorMark ++ camelCase words) := by
  have hplain : (Enumeration.bare false start "").isBitmask = false := rfl
  exact nameOf_plain hplain hcarried hwords false

/-- A group with a tag names its enumerators after what stands between its stem and the last
occurrence of the tag. -/
theorem nameOf_tagged {start : String} (hstart : "VK" ++ screamingSnake name = start ++ tag)
    (htag : tag ≠ "") (words : String) :
    ∃ before rest, tag ++ "_" ++ words = before ++ tag ++ rest ∧
      (Enumeration.bare false start "").nameOf (stemOf name ++ words) tag false =
        .ok (enumeratorMark ++ camelCase before) := by
  obtain ⟨before, rest, hcut, hsplit⟩ :=
    Text.Chars.exists_cutLast?_of_start tag.toList ("_" ++ words).toList
  have hraw : stemOf name ++ words = start ++ (tag ++ ("_" ++ words)) := by
    rw [stemOf, hstart]
    simp only [String.append_assoc]
  have hoccurs : Text.occurs tag (stemOf name ++ words) = true := by
    rw [Text.occurs_iff, hraw, String.toList_append, String.toList_append]
    exact ⟨start.toList, ("_" ++ words).toList, List.append_assoc ..⟩
  have hwords : between start tag (stemOf name ++ words) = .ok (String.ofList before) := by
    rw [hraw, between, Naming.withoutStart_append]
    rw [if_neg (mt String.isEmpty_iff.1 htag), Text.cutLast?, String.toList_append, hcut]
    rfl
  refine ⟨String.ofList before, String.ofList rest, ?_, ?_⟩
  · rw [← String.toList_inj, String.append_assoc, String.toList_append, hsplit]
    simp
  · exact nameOf_bare (.inr hoccurs) hwords

/-- A tag without small letters, and with no underscore at its end, does not occur once more
where an underscore and a small letter follow it. -/
theorem eq_nil_of_append_small {marker before rest : List Char} (hnonempty : marker ≠ [])
    (hsmall : 'a' ∉ marker) (hlast : ∀ c ∈ marker.getLast?, c ≠ '_')
    (hsplit : marker ++ ['_', 'a'] = before ++ marker ++ rest) : before = [] := by
  obtain ⟨start, last, rfl⟩ := (List.eq_nil_or_concat' marker).resolve_left hnonempty
  have hsplit : start ++ [last] ++ ['_'] ++ ['a'] = before ++ (start ++ [last]) ++ rest := by
    rw [← hsplit, List.append_assoc _ ['_']]
    rfl
  rcases List.eq_nil_or_concat' rest with rfl | ⟨rest, c, rfl⟩
  · rw [List.append_nil, ← List.append_assoc before] at hsplit
    obtain rfl := List.singleton_inj.1 (List.append_inj' hsplit rfl).2
    exact absurd (List.mem_append_right start (List.mem_singleton_self 'a')) hsmall
  rw [← List.append_assoc _ rest] at hsplit
  have hsplit := (List.append_inj' hsplit rfl).1
  rcases List.eq_nil_or_concat' rest with rfl | ⟨rest, d, rfl⟩
  · rw [List.append_nil, ← List.append_assoc before] at hsplit
    obtain rfl := List.singleton_inj.1 (List.append_inj' hsplit rfl).2
    exact absurd rfl (hlast '_' (by simp))
  · have hlength := congrArg List.length hsplit
    simp only [List.length_append, List.length_singleton] at hlength
    exact List.length_eq_zero_iff.1 (by omega)

/-- A tag at the end of the name of a group takes the word of some enumerator away. -/
theorem exists_mistaken {start : String} (hname : IsCamelName name)
    (hstart : "VK" ++ screamingSnake name = start ++ tag) (htag : tag ≠ "") :
    (Enumeration.bare false start "").nameOf (stemOf name ++ "a") tag false ≠
      .ok (enumeratorMark ++ camelCase "a") := by
  obtain ⟨before, rest, hsplit, hlabel⟩ := nameOf_tagged hstart htag "a"
  have hchars : tag.toList ≠ [] := mt String.toList_eq_nil_iff.1 htag
  obtain ⟨hnative, hlast⟩ : Naming.IsUpperCase tag.toList := by
    refine (Naming.isUpperCase_screamingSnake hname).native_mark.of_suffix ⟨start.toList, ?_⟩
    rw [← String.toList_append, ← hstart, String.toList_append]
  have hsmall : 'a' ∉ tag.toList := by
    intro hmem
    have hnot := (hnative 'a' hmem).isLower_eq_false
    cases hnot
  have hsplit : tag.toList ++ ['_', 'a'] = before.toList ++ tag.toList ++ rest.toList := by
    simpa using congrArg String.toList hsplit
  have hempty := eq_nil_of_append_small hchars hsmall hlast hsplit
  rw [hlabel, String.toList_eq_nil_iff.1 hempty]
  exact fun hsame => absurd (Except.ok.inj hsame) (by decide)

/-- A group that is not one of bits takes every enumerator in that begins with its stem, either
under the words behind the stem or under what stands there before some occurrence of the tag.  It
takes all of them in under their own words, if and only if no tag is mistaken for the end of its
name.  What the group takes in is a member of its enum in the end. -/
theorem own_words_iff (spec : Spec) (hname : IsCamelName name) (hresult : name ≠ resultEnum)
    (hgroup : node.attribute? "name" = some ("Vk" ++ name))
    (htype : node.attribute? "type" = some "enum") :
    ∃ group tag, groupOf node name spec.tags = .ok (group, tag) ∧
      (∀ words, ∃ kept, Takes group tag (stemOf name ++ words) (enumeratorMark ++ camelCase kept) ∧
        (kept = words ∨ ∃ rest, tag ++ "_" ++ words = kept ++ tag ++ rest)) ∧
      ((∀ words, words ≠ "" →
          Takes group tag (stemOf name ++ words) (enumeratorMark ++ camelCase words)) ↔
        Unmistaken spec.tags name) ∧
      ∀ later, readEnums node spec = .ok later →
        ∃ enumeration, later.enums.get? name = some enumeration ∧
          ∀ child ∈ node.children, ∀ words label, NamesEnumerator child (stemOf name ++ words) →
            Takes group tag (stemOf name ++ words) label →
              ⟨label, stemOf name ++ words⟩ ∈ enumeration.members := by
  have huntagged : ∀ words, (Enumeration.bare false (dropTag (stemOf name) "") "").nameOf
      (stemOf name ++ words) "" false = .ok (enumeratorMark ++ camelCase words) :=
    fun words => nameOf_bare (.inl rfl) (Naming.between_append_empty _ _)
  refine ⟨_, _, groupOf_enum htype hresult, ?_, ?_, ?_⟩
  · intro words
    by_cases htag : tagOfStart spec.tags (stemOf name) = ""
    · rw [htag]
      exact ⟨words, takes_iff.2 (huntagged words), .inl rfl⟩
    · obtain ⟨start, hstart, hdrop⟩ := exists_start rfl htag
      obtain ⟨before, rest, hsplit, hlabel⟩ := nameOf_tagged hstart htag words
      rw [hdrop]
      exact ⟨before, takes_iff.2 hlabel, .inr ⟨rest, hsplit⟩⟩
  · rw [← tagOfStart_eq_empty_iff]
    refine ⟨fun hall => ?_, fun htag words _ => ?_⟩
    · by_contra htag
      obtain ⟨start, hstart, hdrop⟩ := exists_start rfl htag
      have hsmall := takes_iff.1 (hall "a" (by decide))
      rw [hdrop] at hsmall
      exact exists_mistaken hname hstart htag hsmall
    · rw [htag]
      exact takes_iff.2 (huntagged words)
  · intro later hlater
    have hkept : "Vk" ++ name ∉ skippedGroups := by
      intro hmem
      have heq := congrArg String.toList (List.mem_singleton.1 hmem)
      rw [String.toList_append] at heq
      cases heq
    obtain ⟨origin, tag, enumeration, horigin, henumeration, hget⟩ :=
      readEnums_eq_ok hlater hgroup hkept
    have htypeName : Naming.typeName ("Vk" ++ name) = name := Naming.withoutStart_append _ _
    rw [htypeName] at horigin hget
    obtain ⟨rfl, rfl⟩ :=
      Prod.mk.inj (Except.ok.inj ((groupOf_enum htype hresult).symm.trans horigin))
    refine ⟨enumeration, hget, fun child hchild words label hnames htakes => ?_⟩
    obtain ⟨found, hfound, hmember⟩ := exists_member_of_readEnumerators henumeration hchild hnames
    obtain rfl := Except.ok.inj (hfound.symm.trans (takes_iff.1 htakes))
    exact hmember

/-- A group with a name at whose end no tag stands. -/
def presentModes : Node :=
  ⟨"enums", [("name", "VkPresentMode"), ("type", "enum")],
   [.element "enum" [("value", "0"), ("name", "VK_PRESENT_MODE_IMMEDIATE")] []]⟩

/-- The enumerator of the sample has the name of its own word. -/
theorem sample_own_words : ∃ later enumeration, readEnums presentModes .initial = .ok later ∧
    later.enums.get? "PresentMode" = some enumeration ∧
      ⟨"eImmediate", "VK_PRESENT_MODE_IMMEDIATE"⟩ ∈ enumeration.members := by
  have hread : (readEnums presentModes .initial).toOption.any (fun _ => true) = true := by
    decide +kernel
  obtain ⟨later, hread, -⟩ := exists_of_any hread
  have hname : IsCamelName "PresentMode" :=
    ⟨by decide, List.all_eq_true.1 (by decide), by decide⟩
  have hraw : stemOf "PresentMode" ++ "IMMEDIATE" = "VK_PRESENT_MODE_IMMEDIATE" := by
    decide +kernel
  have hlabel : enumeratorMark ++ camelCase "IMMEDIATE" = "eImmediate" := by decide +kernel
  have hunmistaken : Unmistaken Spec.initial.tags "PresentMode" :=
    .inr fun tag htag => by
      have hall : (Spec.initial.tags.names.all fun tag =>
          !Text.endsWith tag ("VK" ++ screamingSnake "PresentMode")) = true := by decide +kernel
      simpa using List.all_eq_true.1 hall tag htag
  have hgroup : presentModes.attribute? "name" = some ("Vk" ++ "PresentMode") := by decide
  obtain ⟨group, tag, -, -, hiff, hmembers⟩ :=
    own_words_iff .initial hname (by decide) hgroup rfl
  obtain ⟨enumeration, hget, hmember⟩ := hmembers later hread
  have himmediate := hmember _ (.head _) "IMMEDIATE" _ ⟨rfl, by rw [hraw]; rfl⟩
    (hiff.2 hunmistaken "IMMEDIATE" (by decide))
  rw [hraw, hlabel] at himmediate
  exact ⟨later, enumeration, hread, hget, himmediate⟩

/-- A group with a name whose word ends with the letters of a tag. -/
def textModes : Node :=
  ⟨"enums", [("name", "VkText"), ("type", "enum")],
   [.element "enum" [("value", "0"), ("name", "VK_TEXT_LEFT")] [],
    .element "enum" [("value", "1"), ("name", "VK_TEXT_RIGHT")] []]⟩

/-- The word is mistaken for the tag, and nothing remains of the enumerators. -/
theorem text_mistaken : IsCamelName "Text" ∧ "Text" ≠ resultEnum ∧
    (∀ tag ∈ Spec.initial.tags, Text.endsWith tag "Text" = false) ∧
    enumeratorMark ++ camelCase "LEFT" = "eLeft" ∧
    ∃ later enumeration, readEnums textModes .initial = .ok later ∧
      later.enums.get? "Text" = some enumeration ∧
      enumeration.members = [⟨"e", "VK_TEXT_LEFT"⟩, ⟨"e", "VK_TEXT_RIGHT"⟩] := by
  have hread : (readEnums textModes .initial).toOption.any (fun later =>
      (later.enums.get? "Text").any fun enumeration => decide (enumeration.members =
        [⟨"e", "VK_TEXT_LEFT"⟩, ⟨"e", "VK_TEXT_RIGHT"⟩])) = true := by
    decide +kernel
  obtain ⟨later, hread, hget⟩ := exists_of_any hread
  obtain ⟨enumeration, hget, hmembers⟩ := (Option.any_eq_true _ _).1 hget
  have htags : (Spec.initial.tags.names.all fun tag => !Text.endsWith tag "Text") = true := by
    decide +kernel
  refine ⟨⟨by decide, List.all_eq_true.1 (by decide), by decide⟩, by decide,
    fun tag htag => by simpa using List.all_eq_true.1 htags tag htag, by decide +kernel, later,
    enumeration, hread, hget, of_decide_eq_true hmembers⟩

end VulkanBindings.Registry
