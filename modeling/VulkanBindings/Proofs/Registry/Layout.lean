import Mathlib.Logic.Relation
import VulkanBindings.Proofs.Registry.Enumerators
import VulkanBindings.Proofs.Registry.Revision
import VulkanBindings.Proofs.Registry.Stages

/-!
# Documentation and layout

Much of a registry is there for its readers: comments, notes on valid usage, sections for other
tools, extensions that are not enabled.  `RegistryEdit` lists what may be taken out of a
registry or moved about in it, and `layout_irrelevant` says that this never changes what the
registry says.

All edits inside a section are revisions of elements (`Revision`), so there is one lemma for
each reader: it yields the same for the revised element.  Only reading a command is more than a
loop over its children, since the first of them has to be the prototype.
-/

namespace VulkanBindings.Registry

open Xml (Content Node)

/-! ## What may be edited -/

/-- A comment is taken out of a member or a parameter. -/
def MemberEdit : Node → Node → Prop :=
  Revision (·.tag = "comment") fun _ _ => False

/-- A comment or a note on valid usage is taken out of a struct or a union, or a member of it is
edited. -/
def AggregateEdit : Node → Node → Prop :=
  Revision (fun child => child.tag = "comment" ∨ child.tag = "validity") fun child edited =>
    child.tag = "member" ∧ MemberEdit child edited

/-- A comment or a type that is defined elsewhere is taken out of a types section, or a struct
or a union of it is edited. -/
def TypesEdit : Node → Node → Prop :=
  Revision
    (fun child => child.tag = "comment" ∨ child.tag = "type" ∧
      (child.attribute? "category" = some "enum" ∨ child.attribute? "category" = some "include"))
    fun child edited => child.tag = "type" ∧
      (child.attribute? "category" = some "struct" ∨ child.attribute? "category" = some "union") ∧
      AggregateEdit child edited

/-- A comment or a range of unused values is taken out of an enums section. -/
def EnumsEdit : Node → Node → Prop :=
  Revision (fun child => child.tag = "comment" ∨ child.tag = "unused") fun _ _ => False

/-- A note on valid usage or on synchronization. -/
def IsCommandNote (node : Node) : Prop :=
  node.tag = "validity" ∨ node.tag = "implicitexternsyncparams"

/-- A parameter of a command is edited. -/
def ParameterEdit (node other : Node) : Prop :=
  node.tag = "param" ∧ MemberEdit node other

/-- A note is taken out of a command, or a parameter of it is edited. -/
def CommandEdit : Node → Node → Prop :=
  Revision IsCommandNote ParameterEdit

/-- A comment is taken out of a commands section, or a command of it is edited. -/
def CommandsEdit : Node → Node → Prop :=
  Revision (·.tag = "comment") fun child edited => child.tag = "command" ∧ CommandEdit child edited

/-- A comment or a note on usage is taken out of a block of an extension. -/
def RequireEdit : Node → Node → Prop :=
  Revision (fun child => child.tag = "comment" ∨ child.tag = "usage") fun _ _ => False

/-- A block of an extension is edited. -/
def ExtensionEdit : Node → Node → Prop :=
  Revision (fun _ => False) fun child edited => child.tag = "require" ∧ RequireEdit child edited

/-- A comment or a disabled extension is taken out of an extensions section, or an extension of
it is edited. -/
def ExtensionsEdit : Node → Node → Prop :=
  Revision
    (fun child => child.tag = "comment" ∨
      child.tag = "extension" ∧ child.attribute? "supported" = some disabledSupport)
    fun child edited => child.tag = "extension" ∧ ExtensionEdit child edited

/-- A section of the given kind is edited. -/
def SectionEdit : Section → Node → Node → Prop
  | .types => TypesEdit
  | .enums => EnumsEdit
  | .commands => CommandsEdit
  | .extensions => ExtensionsEdit
  | .comment | .tags => fun _ _ => False

/-- One section of a registry is edited. -/
def InnerEdit : Node → Node → Prop :=
  Revision (fun _ => False) fun child edited =>
    ∃ kind : Section, child.tag = kind.tag ∧ SectionEdit kind child edited

/-- A change of a registry that is of no concern to the bindings: its sections are arranged in
another way, where those of each kind stay in order and those that are passed over may come and
go, or one section is edited. -/
inductive RegistryEdit (root other : Node) : Prop where
  | arrange (h : ∀ tag, tag ∉ ignoredSections →
      other.children.filter (·.tag == tag) = root.children.filter (·.tag == tag))
  | inside (h : InnerEdit root other)

/-! ## Members -/

variable {node other root : Node} {spec : Spec}

theorem tokens_of_edit (h : MemberEdit node other) : Member.tokens other = Member.tokens node := by
  refine h.content.filter_eq ?_ ?_
  · intro piece hpiece
    obtain ⟨child, hchild, htag⟩ := hpiece
    cases piece with
    | text run => cases hchild
    | element tag attributes content =>
      obtain rfl := Option.some.inj hchild
      have htag : tag = "comment" := htag
      simp [htag]
  · intro piece revised hpiece
    obtain ⟨child, edited, -, -, hfalse⟩ := hpiece
    exact hfalse

theorem persists_member (h : MemberEdit node other) (needs : NameSet) :
    Persists (Member.read node needs) (Member.read other needs) := by
  refine Persists.bind (fun member hmember => ?_) fun _ => .refl _
  unfold Member.ofNode at hmember ⊢
  rw [tokens_of_edit h, h.attribute?_eq]
  split at hmember
  · exact hmember
  · cases hmember

/-! ## Types -/

theorem persists_readMembers (h : AggregateEdit node other) :
    Persists (readMembers node) (readMembers other) := by
  unfold readMembers
  rw [h.unexpectedChild_eq]
  refine h.children.persists_foldlM ?_ ?_ _
  · rintro child (htag | htag) state
    all_goals simp [htag, pure, Except.pure, Persists.refl]
  · intro child edited hedit state
    obtain ⟨htag, hedit⟩ := hedit
    simp only [hedit.tag, htag, beq_self_eq_true, if_true]
    exact (persists_member hedit _).bind fun _ => .refl _

theorem persists_readAggregate (h : AggregateEdit node other) (kind : EntityKind) :
    Persists (readAggregate kind node spec) (readAggregate kind other spec) := by
  unfold readAggregate
  rw [h.requireAttribute_eq, h.attribute?_eq]
  refine Persists.bind (.refl _) fun name => ?_
  dsimp only
  -- Whatever `returnedonly` says, what follows differs in the members only.
  split
  all_goals
    refine Persists.bind (.refl _) fun returnedOnly => ?_
    split
    · exact .refl _
    · refine Persists.bind (.refl _) fun _ => ?_
      exact (persists_readMembers h).bind fun _ => .refl _

theorem readType_of_elsewhere (h : node.attribute? "category" = some "enum" ∨
    node.attribute? "category" = some "include") : readType node spec = .ok spec := by
  unfold readType
  rcases h with hcategory | hcategory
  · rw [hcategory]
    rfl
  · rw [hcategory]
    rfl

theorem persists_readType (hcategory : node.attribute? "category" = some "struct" ∨
    node.attribute? "category" = some "union") (h : AggregateEdit node other) :
    Persists (readType node spec) (readType other spec) := by
  unfold readType
  rw [h.attribute?_eq]
  rcases hcategory with hcategory | hcategory
  · rw [hcategory]
    exact persists_readAggregate h _
  · rw [hcategory]
    exact persists_readAggregate h _

theorem persists_readTypes (h : TypesEdit node other) :
    Persists (readTypes node spec) (readTypes other spec) := by
  unfold readTypes
  rw [h.unexpectedChild_eq]
  refine h.children.persists_foldlM ?_ ?_ _
  · rintro child (htag | ⟨htag, hcategory⟩) state
    · simp [htag, Persists.refl]
    · simp [htag, readType_of_elsewhere hcategory, Persists.refl]
  · rintro child edited ⟨htag, hcategory, hedit⟩ state
    simp only [hedit.tag, htag]
    exact persists_readType hcategory hedit

/-! ## Enums -/

theorem readEnumerator_of_edit (h : EnumsEdit node other) :
    readEnumerator other = readEnumerator node := by
  funext tag group child
  unfold readEnumerator
  rw [h.unexpectedChild_eq]

theorem persists_readEnumerators (h : EnumsEdit node other) (tag : String) (group : Enumeration) :
    Persists (readEnumerators node tag group) (readEnumerators other tag group) := by
  unfold readEnumerators
  rw [readEnumerator_of_edit h]
  refine h.children.persists_foldlM ?_ ?_ _
  · rintro child (htag | htag) state
    all_goals simp [readEnumerator, htag, pure, Except.pure, Persists.refl]
  · rintro child edited ⟨⟩

theorem persists_readEnums (h : EnumsEdit node other) :
    Persists (readEnums node spec) (readEnums other spec) := by
  have hgroup : groupOf other = groupOf node := by
    funext name tags
    unfold groupOf
    rw [h.requireAttribute_eq]
  unfold readEnums
  rw [h.requireAttribute_eq, hgroup]
  refine Persists.bind (.refl _) fun rawName => ?_
  split
  · exact .refl _
  · refine Persists.bind (.refl _) fun group => ?_
    refine Persists.bind (.refl _) fun _ => ?_
    exact (persists_readEnumerators h _ _).bind fun _ => .refl _

/-! ## Commands -/

/-- The parameters stand after the prototype, so what is revised is a list of elements here. -/
theorem persists_readParameters {items others : List Node}
    (hparent : unexpectedChild other = unexpectedChild node)
    (h : Revised IsCommandNote ParameterEdit items others) (needs : NameSet) :
    Persists (readParameters node items needs) (readParameters other others needs) := by
  unfold readParameters
  rw [hparent]
  refine h.persists_foldlM ?_ ?_ _
  · rintro child (htag | htag) state
    all_goals simp [htag, pure, Except.pure, Persists.refl]
  · rintro child edited ⟨htag, hedit⟩ state
    simp only [hedit.tag, hedit.attribute?_eq, htag, beq_self_eq_true, if_true]
    exact (persists_member hedit _).bind fun _ => .refl _

theorem persists_readCommand (h : CommandEdit node other) :
    Persists (readCommand node spec) (readCommand other spec) := by
  have hcodes : successCodesOf other = successCodesOf node := by
    funext tags
    unfold successCodesOf
    rw [h.attribute?_eq]
  unfold readCommand
  rw [hcodes]
  extract_lets readRest readOtherRest
  have hrest : ∀ prototype {items others}, Revised IsCommandNote ParameterEdit items others →
      Persists (readRest (prototype, items)) (readOtherRest (prototype, others)) := by
    intro prototype items others hrevised
    unfold readRest readOtherRest
    dsimp only
    refine Persists.bind (.refl _) fun typeNode => ?_
    refine Persists.bind (.refl _) fun nameNode => ?_
    refine Persists.bind (.refl _) fun _ => ?_
    refine Persists.bind (.refl _) fun successCodes => ?_
    have hparameters := persists_readParameters h.unexpectedChild_eq hrevised
    exact (hparameters _).mapError.bind fun _ => .refl _
  have hchildren := h.children
  -- The prototype comes first, and is not concerned.
  cases hnode : node.children with
  | nil => exact .error
  | cons first items =>
    dsimp only
    split
    · rename_i hproto
      have hproto : first.tag = "proto" := beq_iff_eq.1 hproto
      rw [hnode] at hchildren
      obtain ⟨others, hother, hrevised⟩ :=
        hchildren.cons_left (by simp [IsCommandNote, hproto]) (by simp [ParameterEdit, hproto])
      rw [hother]
      simp only [hproto, beq_self_eq_true, if_true]
      exact hrest first hrevised
    · exact .error

theorem persists_readCommands (h : CommandsEdit node other) :
    Persists (readCommands node spec) (readCommands other spec) := by
  unfold readCommands
  rw [h.unexpectedChild_eq]
  refine h.children.persists_foldlM ?_ ?_ _
  · rintro child htag state
    simp [htag, Persists.refl]
  · rintro child edited ⟨htag, hedit⟩ state
    simp only [hedit.tag, htag]
    exact persists_readCommand hedit

/-! ## Extensions -/

theorem readItem_of_edit (h : RequireEdit node other) : readItem other = readItem node := by
  funext guard tag spec child
  unfold readItem
  rw [h.unexpectedChild_eq]

theorem persists_readItems (h : RequireEdit node other) (guard tag : String) :
    Persists (node.children.foldlM (readItem node guard tag) spec)
      (other.children.foldlM (readItem other guard tag) spec) := by
  rw [readItem_of_edit h]
  refine h.children.persists_foldlM ?_ ?_ _
  · rintro child (htag | htag) state
    all_goals simp [readItem, htag, pure, Except.pure, Persists.refl]
  · rintro child edited ⟨⟩

theorem readRequirement_of_edit (h : ExtensionEdit node other) :
    readRequirement other = readRequirement node := by
  funext guard tag spec child
  unfold readRequirement
  rw [h.unexpectedChild_eq]

theorem persists_readExtension (h : ExtensionEdit node other) :
    Persists (readExtension node spec) (readExtension other spec) := by
  unfold readExtension
  rw [h.requireAttribute_eq, h.attribute?_eq, readRequirement_of_edit h]
  refine Persists.bind (.refl _) fun name => ?_
  refine Persists.bind (.refl _) fun tag => ?_
  dsimp only
  split
  · exact .error
  split
  · exact .refl _
  · refine h.children.persists_foldlM ?_ ?_ _
    · rintro child ⟨⟩
    · rintro child edited ⟨htag, hedit⟩ state
      simp only [readRequirement, hedit.tag, htag, beq_self_eq_true, if_true]
      exact persists_readItems hedit _ _

theorem persists_readExtension_disabled (h : node.attribute? "supported" = some disabledSupport) :
    Persists (readExtension node spec) (.ok spec) := by
  intro later hlater
  obtain ⟨_, _, _, _, _, hskipped⟩ := readExtension_eq_ok hlater
  rw [if_pos h] at hskipped
  rw [hskipped]

theorem readExtensionsChild_of_edit (h : ExtensionsEdit node other) :
    readExtensionsChild other = readExtensionsChild node := by
  funext spec child
  unfold readExtensionsChild
  rw [h.unexpectedChild_eq]

theorem persists_readExtensions (h : ExtensionsEdit node other) :
    Persists (readExtensions node spec) (readExtensions other spec) := by
  unfold readExtensions
  rw [readExtensionsChild_of_edit h]
  refine h.children.persists_foldlM ?_ ?_ _
  · rintro child (htag | ⟨htag, hdisabled⟩) state
    · simp [readExtensionsChild, htag, Persists.refl]
    · simp only [readExtensionsChild, htag]
      exact persists_readExtension_disabled hdisabled
  · rintro child edited ⟨htag, hedit⟩ state
    simp only [readExtensionsChild, hedit.tag, htag]
    exact persists_readExtension hedit

/-! ## Sections -/

variable {kind : Section}

theorem persists_readSection (h : SectionEdit kind node other) :
    Persists (kind.read node spec) (kind.read other spec) := by
  cases kind with
  | comment | tags => exact h.elim
  | types => exact (persists_readTypes h).mapError
  | enums => exact persists_readEnums h
  | commands => exact persists_readCommands h
  | extensions => exact persists_readExtensions h

theorem SectionEdit.tag_eq (h : SectionEdit kind node other) : other.tag = node.tag := by
  cases kind with
  | comment | tags => exact h.elim
  | types | enums | commands | extensions => exact Revision.tag h

theorem InnerEdit.tags_eq (h : InnerEdit root other) :
    other.children.map (·.tag) = root.children.map (·.tag) := by
  refine Revised.map_eq (Revision.children h) (fun _ => id) ?_
  rintro child edited ⟨_, _, hedit⟩
  exact hedit.tag_eq

/-- What is said by the sections of one kind does not change with an edit of any section. -/
theorem persists_sections (h : InnerEdit root other) (spec : Spec) (kind : Section) :
    Persists (readKind root spec kind) (readKind other spec kind) := by
  unfold readKind sectionNodes
  rw [List.foldlM_filter, List.foldlM_filter]
  refine (Revision.children h).persists_foldlM ?_ ?_ spec
  · rintro child ⟨⟩
  · rintro child edited ⟨kind', htag, hedit⟩ state
    rw [hedit.tag_eq]
    split
    · rename_i hkind
      have hsame : kind' = kind := by
        have hfound := ofTag?_eq_some_iff.2 (beq_iff_eq.1 hkind)
        exact Option.some.inj ((ofTag?_eq_some_iff.2 htag).symm.trans hfound)
      subst hsame
      exact persists_readSection hedit
    · exact .refl _

/-! ## The whole registry -/

theorem knownSections_iff : KnownSections root ↔ ∀ tag ∈ root.children.map (·.tag),
    tag ∈ ignoredSections ∨ ∃ kind : Section, tag = kind.tag := by
  unfold KnownSections
  rw [List.forall_mem_map]

theorem length_sectionNodes (root : Node) (kind : Section) :
    (sectionNodes root kind).length = (root.children.map (·.tag)).count kind.tag := by
  unfold sectionNodes
  rw [← List.countP_eq_length_filter, List.count, List.countP_map]
  rfl

namespace RegistryEdit

theorem knownSections (h : RegistryEdit root other) (hknown : KnownSections root) :
    KnownSections other := by
  cases h with
  | arrange h =>
    intro child hchild
    by_cases hignored : child.tag ∈ ignoredSections
    · exact .inl hignored
    · have hmem : child ∈ other.children.filter (·.tag == child.tag) :=
        List.mem_filter.2 ⟨hchild, beq_self_eq_true _⟩
      rw [h child.tag hignored] at hmem
      exact hknown child (List.mem_filter.1 hmem).1
  | inside h =>
    rw [knownSections_iff] at hknown ⊢
    rwa [h.tags_eq]

theorem length_sectionNodes_eq (h : RegistryEdit root other) (kind : Section) :
    (sectionNodes other kind).length = (sectionNodes root kind).length := by
  cases h with
  | arrange h =>
    unfold sectionNodes
    rw [h kind.tag (by cases kind <;> decide)]
  | inside h =>
    rw [length_sectionNodes, length_sectionNodes, h.tags_eq]

theorem persists_readKind (h : RegistryEdit root other) (spec : Spec) (kind : Section) :
    Persists (readKind root spec kind) (readKind other spec kind) := by
  cases h with
  | arrange h =>
    have hnodes : sectionNodes other kind = sectionNodes root kind :=
      h kind.tag (by cases kind <;> decide)
    unfold readKind
    rw [hnodes]
    exact .refl _
  | inside h => exact persists_sections h spec kind

theorem persists_ofRegistry (h : RegistryEdit root other) :
    Persists (Spec.ofRegistry root) (Spec.ofRegistry other) := by
  intro spec hspec
  rw [ofRegistry_eq_ok_iff] at hspec ⊢
  obtain ⟨hknown, hsingle, hread⟩ := hspec
  refine ⟨h.knownSections hknown, ?_, ?_⟩
  · rw [h.length_sectionNodes_eq]
    exact hsingle
  · exact foldlM_of_steps hread fun state kind next _ => h.persists_readKind state kind next

end RegistryEdit

/-- However often a registry is edited, it says the same as before: documentation and layout
are of no concern to the bindings. -/
theorem layout_irrelevant (hedits : Relation.ReflTransGen RegistryEdit root other)
    (hread : Spec.ofRegistry root = .ok spec) : Spec.ofRegistry other = .ok spec := by
  induction hedits with
  | refl => exact hread
  | tail _ hedit ih => exact hedit.persists_ofRegistry spec ih

/-! ## A sample -/

/-- A note on the member of a struct. -/
def sampleNote : Content :=
  .element "comment" [] [.text "in pixels"]

/-- An extension that is not part of the interface. -/
def sampleDraft : Content :=
  .element "extension" [("name", "VK_EXT_draft"), ("supported", "disabled")] []

/-- A section with a struct, and with notes inside the declaration of its member. -/
def sampleTypes (notes : List Content) : Node :=
  ⟨"types", [],
   [.element "type" [("category", "struct"), ("name", "VkExtent")]
     [.element "member" []
       (.element "type" [] [.text "uint32_t"] :: notes ++ [.element "name" [] [.text "width"]])]]⟩

/-- A section with some extensions. -/
def sampleSupport (extensions : List Content) : Node :=
  ⟨"extensions", [], extensions⟩

/-- A registry with the given sections. -/
def sampleLayout (sections : List Node) : Node :=
  ⟨"registry", [], sections.map Node.toContent⟩

/-- The sections of the sample as they are found: out of order, and with one that is passed over. -/
def sampleSections : List Node :=
  [sampleSupport [sampleDraft], ⟨"feature", [], []⟩, sampleTypes [sampleNote]]

theorem sample_arranged : RegistryEdit (sampleLayout sampleSections)
    (sampleLayout [sampleTypes [sampleNote], sampleSupport [sampleDraft]]) := by
  refine .arrange fun tag htag => ?_
  have hfeature : tag ≠ "feature" := fun h => htag (by simp [ignoredSections, h])
  show List.filter _ [sampleTypes [sampleNote], sampleSupport [sampleDraft]] =
    List.filter _ sampleSections
  by_cases htypes : tag = "types"
  · subst htypes
    rfl
  · simp [sampleSections, sampleTypes, sampleSupport, List.filter_cons, Ne.symm hfeature,
      Ne.symm htypes]

theorem sample_bared : RegistryEdit
    (sampleLayout [sampleTypes [sampleNote], sampleSupport [sampleDraft]])
    (sampleLayout [sampleTypes [], sampleSupport [sampleDraft]]) := by
  refine .inside ⟨rfl, rfl, .replace ⟨_, _, rfl, rfl, .types, rfl, ?_⟩⟩
  refine ⟨rfl, rfl, .replace ⟨_, _, rfl, rfl, rfl, .inl rfl, ?_⟩⟩
  refine ⟨rfl, rfl, .replace ⟨_, _, rfl, rfl, rfl, ?_⟩⟩
  exact ⟨rfl, rfl, .later (.remove ⟨_, rfl, rfl⟩)⟩

theorem sample_supported : RegistryEdit
    (sampleLayout [sampleTypes [], sampleSupport [sampleDraft]])
    (sampleLayout [sampleTypes [], sampleSupport []]) := by
  refine .inside ⟨rfl, rfl, .later (.replace ⟨_, _, rfl, rfl, .extensions, rfl, ?_⟩)⟩
  exact ⟨rfl, rfl, .remove ⟨_, rfl, .inr ⟨rfl, rfl⟩⟩⟩

/-- The sections of the sample are put in order, and the note on its struct and the disabled
extension are taken out. -/
theorem sample_layout_irrelevant : ∃ spec, spec.structs.contains "Extent" = true ∧
    Spec.ofRegistry (sampleLayout sampleSections) = .ok spec ∧
    Spec.ofRegistry (sampleLayout [sampleTypes [], sampleSupport []]) = .ok spec := by
  have hsample : (Spec.ofRegistry (sampleLayout sampleSections)).toOption.any
      (·.structs.contains "Extent") = true := by
    decide +kernel
  obtain ⟨spec, hread, hstruct⟩ := exists_of_any hsample
  have hedits : Relation.ReflTransGen RegistryEdit (sampleLayout sampleSections)
      (sampleLayout [sampleTypes [], sampleSupport []]) :=
    ((Relation.ReflTransGen.single sample_arranged).tail sample_bared).tail sample_supported
  exact ⟨spec, hstruct, hread, layout_irrelevant hedits hread⟩

end VulkanBindings.Registry
