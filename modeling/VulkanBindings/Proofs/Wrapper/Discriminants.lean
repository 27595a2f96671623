import VulkanBindings.Proofs.Naming.RoundTrip
import VulkanBindings.Proofs.Registry.Enumerators
import VulkanBindings.Wrapper.Aggregate

/-!
# Discriminants of structs

A struct names its discriminant after itself: the letter of an enumerator and its own
name.  The enumerator has a native name in upper case, which loses its stem and its tag
and is turned into camel case again.  `discriminants_exist` says that the two meet, for
the structs of the interface itself and for those of an extension, as long as no tag is a
word at the end of the stem.
-/

namespace VulkanBindings.Wrapper

open Naming (IsCamelName words)
open Registry (Aggregate ContributesEnumerator DeclaresEnumerator EnumOrigin Enumeration Enumerator
  Member NamesEnumerator Spec)
open Xml (Node)

/-! ## The enum of discriminants -/

/-- The native name of the enum of discriminants. -/
def nativeStructureType : String := "VkStructureType"

/-- What the native names of discriminants begin with. -/
def discriminantStem : String := "VK_STRUCTURE_TYPE_"

/-- No tag stands at the end of the stem. -/
def StemUntagged (tags : NameSet) : Prop :=
  ∀ tag ∈ tags, tag ≠ "" → Text.endsWith (tag ++ "_") discriminantStem = false

theorem typeName_nativeStructureType : Naming.typeName nativeStructureType = structureType := by
  decide +kernel

theorem stemOf_structureType : Registry.stemOf structureType = discriminantStem := by
  decide +kernel

theorem tagOfStart_discriminantStem {tags : NameSet} (h : StemUntagged tags) :
    Naming.tagOfStart tags discriminantStem = "" := by
  by_contra hne
  obtain ⟨hmem, hends⟩ := Naming.tagOfStart_spec hne
  rw [h _ hmem hne] at hends
  cases hends

/-- The group of discriminants has the whole stem and no tag. -/
theorem groupOf_structureType {node : Node} {tags : NameSet} {group : Enumeration} {tag : String}
    (htags : StemUntagged tags)
    (h : Registry.groupOf node structureType tags = .ok (group, tag)) :
    group = .bare false discriminantStem "" ∧ tag = "" := by
  obtain ⟨rfl, rfl⟩ := Registry.groupOf_eq_ok h (by decide) (by decide +kernel)
  rw [stemOf_structureType, tagOfStart_discriminantStem htags]
  exact ⟨rfl, rfl⟩

/-- The enum of discriminants comes from such a group, since its name is not one of bits. -/
theorem stem_of_origin {tags : NameSet} {origin : Enumeration} (htags : StemUntagged tags)
    (h : EnumOrigin tags structureType origin) :
    origin.isBitmask = false ∧ origin.stem = discriminantStem := by
  cases h with
  | bits hname => exact absurd (Registry.occurs_of_flagBits hname) (by decide +kernel)
  | group hgroup hextends =>
    obtain ⟨rfl, -⟩ := groupOf_structureType htags hgroup
    exact ⟨hextends.isBitmask, hextends.stem⟩

/-! ## Names of discriminants -/

variable {name tag : String} {enumeration : Enumeration}

/-- The discriminant of a struct of the interface. -/
theorem nameOf_discriminant (hbitmask : enumeration.isBitmask = false)
    (hstem : enumeration.stem = discriminantStem) (hname : IsCamelName name) :
    enumeration.nameOf (discriminantStem ++ words name) "" false =
      .ok (Naming.enumeratorMark ++ name) := by
  have hwords : Naming.between enumeration.stem "" (discriminantStem ++ words name) =
      .ok (words name) := by
    rw [hstem, Naming.between_append_empty]
  rw [Registry.nameOf_plain hbitmask (.inl rfl) hwords, Naming.camelCase_words hname]
  rfl

/-- The discriminant of a struct of an extension. -/
theorem nameOf_tagged_discriminant (hbitmask : enumeration.isBitmask = false)
    (hstem : enumeration.stem = discriminantStem) (hname : IsCamelName name) (htag : tag ≠ "") :
    enumeration.nameOf (discriminantStem ++ (words name ++ "_" ++ tag)) tag true =
      .ok (Naming.enumeratorMark ++ name ++ tag) := by
  have hoccurs : Text.occurs tag (discriminantStem ++ (words name ++ "_" ++ tag)) = true := by
    rw [Text.occurs_iff, ← String.append_assoc, String.toList_append]
    exact (List.suffix_append _ _).isInfix
  have hwords : Naming.between enumeration.stem tag
      (discriminantStem ++ (words name ++ "_" ++ tag)) = .ok (words name ++ "_") := by
    rw [hstem, Naming.between_append_mark htag]
  rw [Registry.nameOf_plain hbitmask (.inr hoccurs) hwords, Naming.camelCase_words_append hname]
  rfl

/-! ## What structs are initialized with -/

/-- Wrappers of structs of the given name set their discriminant to the enumerator. -/
def SetsDiscriminant (name enumerator : String) : Prop :=
  ∀ (defaults : Table String) (aggregate : Aggregate) (lines : List String),
    structLines defaults name aggregate = .ok lines → aggregate.returnedOnly = false →
      ∀ member ∈ aggregate.members, isDiscriminant member = true → member.arraySize = "" →
        ∃ mark : String, s!"      {mark} sType( {structureType}::{enumerator} )" ∈ lines

theorem mem_initializerLines {members : List Member} {member : Member} (hmember : member ∈ members)
    (hdiscriminant : isDiscriminant member = true) (hsize : member.arraySize = "") :
    ∃ mark : String, s!"      {mark} sType( {structureType}::{Naming.enumeratorMark ++ name} )" ∈
      initializerLines name members := by
  obtain ⟨hsType, -⟩ := Bool.and_eq_true_iff.1 hdiscriminant
  have hlabel : member.name = "sType" := beq_iff_eq.1 hsType
  have hvalue : initialValue name member =
      structureType ++ "::" ++ Naming.enumeratorMark ++ name := by
    unfold initialValue
    rw [hdiscriminant, hlabel]
    rfl
  have hplain : member ∈ members.filter (·.arraySize.isEmpty) :=
    List.mem_filter.2 ⟨hmember, by simp [hsize]⟩
  obtain ⟨index, hindex, hget⟩ := List.mem_iff_getElem.1 hplain
  refine ⟨if index == 0 then ":" else ",", List.mem_mapIdx.2 ⟨index, hindex, ?_⟩⟩
  have hword : " sType( " = " " ++ "sType" ++ "( " := by decide
  rw [hget, hlabel, hvalue, hword]
  simp only [toString, String.append_assoc]

/-- The initializers of a struct that can be filled in are among its lines. -/
theorem mem_structLines {defaults : Table String} {aggregate : Aggregate} {lines : List String}
    (h : structLines defaults name aggregate = .ok lines) (hfilled : aggregate.returnedOnly = false)
    {line : String} (hline : line ∈ initializerLines name aggregate.members) : line ∈ lines := by
  unfold structLines at h
  obtain ⟨filling, hfilling, h⟩ := bind_eq_ok_iff.1 h
  unfold fillingLines at hfilling
  rw [hfilled] at hfilling
  obtain ⟨constructor, hconstructor, hfilling⟩ := bind_eq_ok_iff.1 hfilling
  unfold constructorLines at hconstructor
  obtain ⟨parameters, -, hconstructor⟩ := bind_eq_ok_iff.1 hconstructor
  obtain rfl := Except.ok.inj hconstructor
  obtain rfl := Except.ok.inj hfilling
  obtain rfl := Except.ok.inj h
  refine mem_guarded ?_
  simp only [List.mem_append, hline, true_or, or_true]

theorem setsDiscriminant (name : String) :
    SetsDiscriminant name (Naming.enumeratorMark ++ name) := by
  intro defaults aggregate lines hlines hfilled member hmember hdiscriminant hsize
  obtain ⟨mark, hmark⟩ := mem_initializerLines hmember hdiscriminant hsize
  exact ⟨mark, mem_structLines hlines hfilled hmark⟩

/-! ## Discriminants are there -/

section Registry

variable {root : Node} {spec : Spec}

/-- Whatever the document declares for the discriminant of a struct becomes the enumerator
that the wrapper of the struct is initialized with: for a struct of the interface in the
group of discriminants, and for one of an extension by the extension. -/
theorem discriminants_exist (hread : Spec.ofRegistry root = .ok spec)
    (htags : StemUntagged spec.tags) (hname : IsCamelName name) :
    (DeclaresEnumerator root nativeStructureType (discriminantStem ++ words name) →
      ∃ enumeration, spec.enums.get? structureType = some enumeration ∧
        ∃ enumerator ∈ enumeration.members,
          enumerator.value = discriminantStem ++ words name ∧
          SetsDiscriminant name enumerator.name) ∧
    (∀ tag, tag ≠ "" →
      ContributesEnumerator root tag nativeStructureType
        (discriminantStem ++ (words name ++ "_" ++ tag)) →
      ∃ enumeration, spec.enums.get? structureType = some enumeration ∧
        ∃ enumerator ∈ enumeration.members,
          enumerator.value = discriminantStem ++ (words name ++ "_" ++ tag) ∧
          SetsDiscriminant (name ++ tag) enumerator.name) := by
  constructor
  · intro hdeclares
    obtain ⟨node, tags, origin, tag, label, enumeration, hknown, hgroup, hlabel, hget, hmember⟩ :=
      Registry.exists_declared hread (by decide) hdeclares
    rw [typeName_nativeStructureType] at hgroup hget
    obtain ⟨rfl, rfl⟩ := groupOf_structureType (fun tag htag => htags tag (hknown tag htag)) hgroup
    obtain rfl := Except.ok.inj (hlabel.symm.trans (nameOf_discriminant rfl rfl hname))
    exact ⟨enumeration, hget, _, hmember, rfl, setsDiscriminant name⟩
  · intro tag htag hcontributes
    obtain ⟨tags, origin, label, enumeration, hknown, horigin, hlabel, hget, hmember⟩ :=
      Registry.exists_contributed hread hcontributes
    rw [typeName_nativeStructureType] at horigin hget
    obtain ⟨hbitmask, hstem⟩ := stem_of_origin (fun tag htag => htags tag (hknown tag htag)) horigin
    obtain rfl := Except.ok.inj
      (hlabel.symm.trans (nameOf_tagged_discriminant hbitmask hstem hname htag))
    refine ⟨enumeration, hget, _, hmember, rfl, ?_⟩
    rw [String.append_assoc]
    exact setsDiscriminant (name ++ tag)

/-- A registry with the discriminants of two structs, one of them from an extension. -/
def sampleDiscriminants : Node :=
  ⟨"registry", [],
   [.element "enums" [("name", "VkStructureType"), ("type", "enum")]
     [.element "enum" [("value", "0"), ("name", "VK_STRUCTURE_TYPE_APPLICATION_INFO")] []],
    .element "tags" [] [.element "tag" [("name", "NV")] []],
    .element "extensions" []
     [.element "extension" [("name", "VK_NV_dedicated_allocation")]
       [.element "require" []
         [.element "enum" [("extends", "VkStructureType"), ("offset", "0"),
           ("name", "VK_STRUCTURE_TYPE_DEDICATED_IMAGE_NV")] []]]]]⟩

/-- Both structs of the sample find their discriminants. -/
theorem sample_discriminants_exist : ∃ spec enumeration,
    Spec.ofRegistry sampleDiscriminants = .ok spec ∧
      spec.enums.get? structureType = some enumeration ∧
      (∃ enumerator ∈ enumeration.members,
        enumerator.value = "VK_STRUCTURE_TYPE_APPLICATION_INFO" ∧
        SetsDiscriminant "ApplicationInfo" enumerator.name) ∧
      (∃ enumerator ∈ enumeration.members,
        enumerator.value = "VK_STRUCTURE_TYPE_DEDICATED_IMAGE_NV" ∧
        SetsDiscriminant "DedicatedImageNV" enumerator.name) := by
  have hsample : (Spec.ofRegistry sampleDiscriminants).toOption.any (fun spec =>
      spec.tags.names.all fun tag => !Text.endsWith (tag ++ "_") discriminantStem) = true := by
    decide +kernel
  obtain ⟨spec, hread, htags⟩ := exists_of_any hsample
  have htags : StemUntagged spec.tags := fun tag htag _ => by
    simpa using List.all_eq_true.1 htags tag htag
  have happlicationName : IsCamelName "ApplicationInfo" :=
    ⟨by decide, List.all_eq_true.1 (by decide), by decide⟩
  have himageName : IsCamelName "DedicatedImage" :=
    ⟨by decide, List.all_eq_true.1 (by decide), by decide⟩
  have happlication : discriminantStem ++ words "ApplicationInfo" =
      "VK_STRUCTURE_TYPE_APPLICATION_INFO" := by decide +kernel
  have himage : discriminantStem ++ (words "DedicatedImage" ++ "_" ++ "NV") =
      "VK_STRUCTURE_TYPE_DEDICATED_IMAGE_NV" := by decide +kernel
  obtain ⟨hgroup, -⟩ := discriminants_exist hread htags happlicationName
  obtain ⟨-, hextension⟩ := discriminants_exist hread htags himageName
  have hextension := hextension "NV" (by decide)
  rw [happlication] at hgroup
  rw [himage] at hextension
  obtain ⟨enumeration, hget, hfirst⟩ := hgroup
    ⟨_, .head _, rfl, rfl, _, .head _, rfl, rfl⟩
  obtain ⟨other, hother, hsecond⟩ := hextension
    ⟨_, .tail _ (.tail _ (.head _)), rfl, _, .head _, rfl, ⟨_, rfl, by decide +kernel⟩,
      by decide +kernel, _, .head _, rfl, _, .head _, ⟨rfl, rfl⟩, rfl, rfl⟩
  obtain rfl := Option.some.inj (hget.symm.trans hother)
  exact ⟨spec, enumeration, hread, hget, hfirst, hsecond⟩

end Registry

end VulkanBindings.Wrapper
