import VulkanBindings.Proofs.Registry.OwnWords

/-!
# Stems of groups

The stem of a group of enumerators is its name in upper case.  `stems_told_apart` says which
names can be read off their upper case form again, and that no two of these have the same form.

What a group keeps as its stem is less than that form: the mark of bits is cut off before the
name is put into upper case, and the tag of a vendor after that.  So the stem and the tag
together tell apart what the groups are named after (`NamedAfter`), while groups that differ in
the mark of bits or in their tags may well have one stem (`filter_stems_agree`).
-/

namespace VulkanBindings.Registry

open Naming (Follows IsCamelName IsTypeName camelCase screamingSnake tagOfStart)
open Xml (Node)

variable {node : Node} {name other tag : String} {tags : NameSet} {group : Enumeration}

/-- What the stem of a group is made of: its name, up to the mark of bits if it has any. -/
def stemWords (isBitmask : Bool) (name : String) : String :=
  if isBitmask then ((Text.cut? "FlagBits" name).map Prod.fst).getD name else name

/-- A group other than the result codes has the words in its stem. -/
inductive NamedAfter (tags : NameSet) (words : String) (group : Enumeration) (tag : String) :
    Prop where
  | intro {node : Node} {name : String} (hresult : name ≠ resultEnum)
    (hgroup : groupOf node name tags = .ok (group, tag))
    (hwords : stemWords group.isBitmask name = words) : NamedAfter tags words group tag

theorem stem_of_groupOf (h : groupOf node name tags = .ok (group, tag))
    (hresult : name ≠ resultEnum) :
    tag = tagOfStart tags (stemOf (stemWords group.isBitmask name)) ∧
      group.stem = dropTag (stemOf (stemWords group.isBitmask name)) tag := by
  unfold groupOf at h
  rw [if_neg fun heq => hresult (beq_iff_eq.1 heq)] at h
  obtain ⟨kind, -, h⟩ := bind_eq_ok_iff.1 h
  dsimp only at h
  split at h
  · -- The stem of bits is made of what stands before their mark.
    split at h
    · rename_i before after hcut
      obtain ⟨rfl, rfl⟩ := Prod.mk.inj (Except.ok.inj h)
      have hwords : stemWords true name = before := by rw [stemWords, hcut]; rfl
      show tagOfStart tags (stemOf before) = tagOfStart tags (stemOf (stemWords true name)) ∧
        dropTag (stemOf before) _ = dropTag (stemOf (stemWords true name)) _
      rw [hwords]
      exact ⟨rfl, rfl⟩
    · cases h
  · split at h
    · obtain ⟨rfl, rfl⟩ := Prod.mk.inj (Except.ok.inj h)
      exact ⟨rfl, rfl⟩
    · cases h

/-- The stem and the tag that was cut off it make up the whole upper case form. -/
theorem stemOf_eq_append (h : tagOfStart tags (stemOf name) = tag) :
    stemOf name = dropTag (stemOf name) tag ++ if tag.isEmpty then "" else tag ++ "_" := by
  by_cases htag : tag = ""
  · simp [htag, dropTag]
  · obtain ⟨start, hstart, hdrop⟩ := exists_start h htag
    rw [hdrop, if_neg (mt String.isEmpty_iff.1 htag), stemOf, hstart, String.append_assoc]

theorem stemOf_injective (hname : IsCamelName name) (hother : IsCamelName other)
    (h : stemOf name = stemOf other) : name = other := by
  refine Naming.screamingSnake_injOn hname hother ?_
  rw [← String.toList_inj] at h ⊢
  simpa [stemOf] using h

/-- Groups with the same stem and the same tag are named after the same words. -/
theorem NamedAfter.stem_eq_iff {later : Enumeration} {laterTag : String}
    (h : NamedAfter tags name group tag) (hlater : NamedAfter tags other later laterTag)
    (hname : IsCamelName name) (hother : IsCamelName other) :
    (group.stem = later.stem ∧ tag = laterTag) ↔ name = other := by
  obtain ⟨hresult, hgroup, rfl⟩ := h
  obtain ⟨hresult', hgroup', rfl⟩ := hlater
  obtain ⟨htag, hstem⟩ := stem_of_groupOf hgroup hresult
  obtain ⟨htag', hstem'⟩ := stem_of_groupOf hgroup' hresult'
  constructor
  · rintro ⟨hsame, rfl⟩
    refine stemOf_injective hname hother ?_
    rw [stemOf_eq_append htag.symm, stemOf_eq_append htag'.symm, ← hstem, ← hstem', hsame]
  · intro hsame
    rw [← hsame] at htag' hstem'
    obtain rfl := htag.trans htag'.symm
    exact ⟨hstem.trans hstem'.symm, rfl⟩

/-- A name is read off its upper case form exactly if no capital follows a capital and no small
letter a digit.  Such names have different upper case forms, and groups that are named after
them have the same stem and the same tag only if they are named after the same one. -/
theorem stems_told_apart (hname : IsTypeName name) (hother : IsTypeName other) :
    (camelCase (Naming.words name) = name ↔ name.toList.IsChain Follows) ∧
    (name.toList.IsChain Follows → other.toList.IsChain Follows →
      (screamingSnake name = screamingSnake other → name = other) ∧
      ∀ tags group later tag laterTag, NamedAfter tags name group tag →
        NamedAfter tags other later laterTag →
          ((group.stem = later.stem ∧ tag = laterTag) ↔ name = other)) := by
  refine ⟨Naming.camelCase_words_eq_iff hname, fun hfollows hfollows' => ?_⟩
  have hcamel : IsCamelName name := ⟨hname.starts, hname.alphanumeric, hfollows⟩
  have hcamel' : IsCamelName other := ⟨hother.starts, hother.alphanumeric, hfollows'⟩
  refine ⟨Naming.screamingSnake_injOn hcamel hcamel', ?_⟩
  intro tags group later tag laterTag hgroup hlater
  exact hgroup.stem_eq_iff hlater hcamel hcamel'

/-- A group of the given name and type, without enumerators. -/
def emptyGroup (name type : String) : Node :=
  ⟨"enums", [("name", name), ("type", type)], []⟩

/-- The stems of a group of bits and of a plain one, which are named after different words. -/
theorem sample_stems_told_apart : ∃ bits plain,
    groupOf (emptyGroup "VkImageUsageFlagBits" "bitmask") "ImageUsageFlagBits" Spec.initial.tags =
        .ok (bits, "") ∧
      groupOf (emptyGroup "VkImageTiling" "enum") "ImageTiling" Spec.initial.tags =
        .ok (plain, "") ∧
      camelCase (Naming.words "ImageUsage") = "ImageUsage" ∧
      screamingSnake "ImageUsage" ≠ screamingSnake "ImageTiling" ∧ bits.stem ≠ plain.stem := by
  have hbits : (groupOf (emptyGroup "VkImageUsageFlagBits" "bitmask") "ImageUsageFlagBits"
      Spec.initial.tags).toOption.any (fun read => read.1.isBitmask && read.2 == "") = true := by
    decide +kernel
  have hplain : (groupOf (emptyGroup "VkImageTiling" "enum") "ImageTiling"
      Spec.initial.tags).toOption.any (fun read => !read.1.isBitmask && read.2 == "") = true := by
    decide +kernel
  obtain ⟨⟨bits, _⟩, hbits, hkind⟩ := exists_of_any hbits
  obtain ⟨⟨plain, _⟩, hplain, hkind'⟩ := exists_of_any hplain
  simp only [Bool.and_eq_true, beq_iff_eq, Bool.not_eq_true'] at hkind hkind'
  obtain ⟨hkind, rfl⟩ := hkind
  obtain ⟨hkind', rfl⟩ := hkind'
  have husage : IsTypeName "ImageUsage" := ⟨by decide, List.all_eq_true.1 (by decide)⟩
  have htiling : IsTypeName "ImageTiling" := ⟨by decide, List.all_eq_true.1 (by decide)⟩
  obtain ⟨hread, hapart⟩ := stems_told_apart husage htiling
  obtain ⟨hforms, hstems⟩ := hapart (by decide) (by decide)
  have hne : "ImageUsage" ≠ "ImageTiling" := by decide
  refine ⟨bits, plain, hbits, hplain, hread.2 (by decide), mt hforms hne, fun hsame => hne ?_⟩
  refine (hstems Spec.initial.tags bits plain "" "" ?_ ?_).1 ⟨hsame, rfl⟩
  · exact .intro (by decide) hbits (by rw [hkind]; decide +kernel)
  · exact .intro (by decide) hplain (by rw [hkind']; decide +kernel)

/-- A registry with three groups of which the names can be told apart. -/
def filterGroups : Node :=
  ⟨"registry", [],
   [(emptyGroup "VkFilter" "enum").toContent,
    (emptyGroup "VkFilterFlagBits" "bitmask").toContent,
    (emptyGroup "VkFilterExt" "enum").toContent]⟩

/-- The mark of bits and the tag are no part of the stems, so that all three are the same. -/
theorem filter_stems_agree :
    (∀ name ∈ ["Filter", "FilterFlagBits", "FilterExt"], IsCamelName name) ∧
    ["Filter", "FilterFlagBits", "FilterExt"].Nodup ∧
    ∃ spec, Spec.ofRegistry filterGroups = .ok spec ∧
      ∀ name ∈ ["Filter", "FilterFlagBits", "FilterExt"],
        ∃ enumeration, spec.enums.get? name = some enumeration ∧
          enumeration.stem = "VK_FILTER_" := by
  have hread : (Spec.ofRegistry filterGroups).toOption.any (fun spec =>
      ["Filter", "FilterFlagBits", "FilterExt"].all fun name =>
        (spec.enums.get? name).any (·.stem == "VK_FILTER_")) = true := by
    decide +kernel
  obtain ⟨spec, hread, hstems⟩ := exists_of_any hread
  refine ⟨?_, by decide, spec, hread, fun name hname => ?_⟩
  · simp only [List.forall_mem_cons]
    refine ⟨⟨by decide, List.all_eq_true.1 (by decide), by decide⟩,
      ⟨by decide, List.all_eq_true.1 (by decide), by decide⟩,
      ⟨by decide, List.all_eq_true.1 (by decide), by decide⟩, by simp⟩
  · obtain ⟨enumeration, hget, hstem⟩ :=
      (Option.any_eq_true _ _).1 (List.all_eq_true.1 hstems name hname)
    exact ⟨enumeration, hget, beq_iff_eq.1 hstem⟩

end VulkanBindings.Registry
