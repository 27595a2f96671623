import VulkanBindings.Proofs.Registry.Reading

/-!
# A registry is read in stages

The sections of a document are sorted by their kind before they are read.
`ofRegistry_eq_ok_iff` says what this comes to: all sections of one kind are read in the
order of the document, then all of the next kind, and nothing else of the document is
looked at.  `exists_stages` names the specs between the kinds, and says by which changes
each comes from the one before.
-/

namespace VulkanBindings.Registry

open Xml (Node)

variable {root : Node} {spec : Spec}

/-- The sections of a document of the given kind. -/
def sectionNodes (root : Node) (kind : Section) : List Node :=
  root.children.filter (·.tag == kind.tag)

/-- Every section is passed over, or of a kind that is read. -/
def KnownSections (root : Node) : Prop :=
  ∀ child ∈ root.children, child.tag ∈ ignoredSections ∨ ∃ kind : Section, child.tag = kind.tag

/-- Reads all sections of one kind. -/
def readKind (root : Node) (spec : Spec) (kind : Section) : Except Failure Spec :=
  (sectionNodes root kind).foldlM (fun spec node => kind.read node spec) spec

/-! ## Sections by kind -/

theorem ofTag?_eq_some_iff {tag : String} {kind : Section} :
    Section.ofTag? tag = some kind ↔ tag = kind.tag := by
  constructor
  · intro h
    have hfound : kind.tag = tag := by simpa using List.find?_some h
    exact hfound.symm
  · rintro rfl
    cases kind <;> decide

theorem KnownSections.mapM_meets (h : KnownSections root) :
    Meets (sectionsOf root) (fun _ => True) fun _ => False := by
  unfold sectionsOf
  refine .mapM_any fun child hchild => ?_
  obtain ⟨hmem, hread⟩ := List.mem_filter.1 hchild
  rcases h child hmem with hignored | ⟨kind, hkind⟩
  · simp [hignored] at hread
  · rw [ofTag?_eq_some_iff.2 hkind]
    trivial

theorem knownSections_of_sectionsOf {sections : List (Section × Node)}
    (h : sectionsOf root = .ok sections) : KnownSections root := by
  intro child hchild
  by_cases hignored : child.tag ∈ ignoredSections
  · exact .inl hignored
  · have hmem : child ∈ root.children.filter fun child => !ignoredSections.contains child.tag :=
      List.mem_filter.2 ⟨hchild, by simpa using hignored⟩
    obtain ⟨position, hposition, rfl⟩ := List.getElem_of_mem hmem
    obtain ⟨hlength, hentries⟩ := List.forall₂_iff_get.1 ((sectionsOf_meets root).of_ok h)
    have hentry := hentries position hposition (hlength ▸ hposition)
    exact .inr ⟨_, ofTag?_eq_some_iff.1 hentry.2⟩

/-- The entries of a kind are the sections of that kind, in the order of the document. -/
theorem sectionsOfKind_eq {sections : List (Section × Node)} (h : sectionsOf root = .ok sections)
    (kind : Section) : sectionsOfKind kind sections = (sectionNodes root kind).map (kind, ·) := by
  have hnodes := (nodes_of_sectionsOfKind ((sectionsOf_meets root).of_ok h) kind).trans
    (filter_not_ignored root.children kind)
  unfold sectionNodes
  rw [← hnodes, List.map_map]
  have hself : ∀ entry ∈ sectionsOfKind kind sections,
      ((kind, ·) ∘ Prod.snd : Section × Node → Section × Node) entry = id entry := by
    intro entry hentry
    rw [← kind_of_mem_sectionsOfKind hentry]
    rfl
  rw [List.map_congr_left hself, List.map_id]

theorem foldlM_sectionsOfKind {sections : List (Section × Node)}
    (h : sectionsOf root = .ok sections) (spec : Spec) (kind : Section) :
    (sectionsOfKind kind sections).foldlM (fun spec entry => entry.1.read entry.2 spec) spec =
      readKind root spec kind := by
  rw [sectionsOfKind_eq h, List.foldlM_map]
  rfl

theorem foldlM_readingOrder {sections : List (Section × Node)}
    (h : sectionsOf root = .ok sections) (spec : Spec) :
    (readingOrder sections).foldlM (fun spec entry => entry.1.read entry.2 spec) spec =
      Section.all.foldlM (readKind root) spec := by
  have hkinds : (fun (spec : Spec) (kind : Section) => (sectionsOfKind kind sections).foldlM
      (fun spec entry => entry.1.read entry.2 spec) spec) = readKind root := by
    funext spec kind
    exact foldlM_sectionsOfKind h spec kind
  rw [← hkinds]
  exact foldlM_flatMap _ (sectionsOfKind · sections) Section.all spec

/-- A registry can be read if all its sections are known, at most one is a comment, and the
sections can be read kind by kind. -/
theorem ofRegistry_eq_ok_iff : Spec.ofRegistry root = .ok spec ↔
    KnownSections root ∧ (sectionNodes root .comment).length ≤ 1 ∧
      Section.all.foldlM (readKind root) .initial = .ok spec := by
  have hcount : ∀ {sections}, sectionsOf root = .ok sections →
      (sections.filter (·.1 == .comment)).length = (sectionNodes root .comment).length := by
    intro sections hsections
    show (sectionsOfKind .comment sections).length = _
    rw [sectionsOfKind_eq hsections, List.length_map]
  unfold Spec.ofRegistry
  rw [bind_registry_eq_ok_iff]
  constructor
  · rintro ⟨sections, hsections, hread⟩
    dsimp only at hread
    rw [hcount hsections] at hread
    split at hread
    · cases hread
    · rename_i hsingle
      refine ⟨knownSections_of_sectionsOf hsections, by omega, ?_⟩
      rw [← foldlM_readingOrder hsections]
      exact hread
  · rintro ⟨hknown, hsingle, hread⟩
    cases hsections : sectionsOf root with
    | error fault => exact absurd (hknown.mapM_meets.of_error hsections) not_false
    | ok sections =>
      refine ⟨sections, rfl, ?_⟩
      dsimp only
      rw [hcount hsections, if_neg (by omega), foldlM_readingOrder hsections]
      exact hread

/-! ## Changes of each stage -/

/-- Reading the sections for commands reads all elements that declare one. -/
theorem readKind_commands {later : Spec} (h : readKind root spec .commands = .ok later) :
    (commandElements root).foldlM (fun spec element => readCommand element spec) spec =
      .ok later := by
  unfold commandElements
  rw [foldlM_flatMap]
  refine foldlM_of_steps h fun state node next _ hread => ?_
  -- Comments are passed over, and what is left of the children are commands.
  have hkept := foldlM_filter_of_skips (·.tag == "command") hread ?_
  · refine foldlM_of_steps hkept fun state child next hchild hstep => ?_
    have htag : child.tag = "command" := beq_iff_eq.1 (List.mem_filter.1 hchild).2
    simpa [htag] using hstep
  · intro state child next _ htag hstep
    simp only [htag] at hstep
    split at hstep
    · exact (Except.ok.inj hstep).symm
    · cases hstep

section Along

variable {α : Type} {change : α → Spec → Spec → Prop} {items : List α} {later : Spec}

/-- What makes changes for each item makes changes for all of them. -/
theorem changes_of_along (h : Along change spec items later) (hread : Changes .initial spec)
    (hchange : ∀ item state next, change item state next → Changes state next) :
    Changes .initial later :=
  h.invariant (Changes .initial) hread fun item state next hitem hstate =>
    hstate.trans (hchange item state next hitem)

/-- Whatever items have been read, the spec is consistent. -/
theorem consistent_of_along (h : Along change spec items later) (hread : Changes .initial spec)
    (hchange : ∀ item state next, change item state next → Changes state next) :
    later.Consistent :=
  Changes.consistent (changes_of_along h hread hchange) Spec.consistent_initial

end Along

/-- The specs between the stages of reading, and how each comes from the one before. -/
structure Stages (root : Node) (tagged typed grouped listed spec : Spec) : Prop where
  start : ∃ license tags, (∀ tag ∈ Spec.fixedTags, tag ∈ tags) ∧
    tagged = { Spec.initial with license, tags }
  types : TypeChanges tagged typed
  groups : Along GroupChange typed (sectionNodes root .enums) grouped
  commands : Along CommandChange grouped (commandElements root) listed
  extensions : readKind root listed .extensions = .ok spec

namespace Stages

variable {tagged typed grouped listed : Spec}

theorem changes_typed (h : Stages root tagged typed grouped listed spec) :
    Changes .initial typed := by
  obtain ⟨license, tags, htags, rfl⟩ := h.start
  have hstart : Changes .initial { Spec.initial with license, tags } :=
    .single (.notes htags license "" "")
  exact hstart.trans h.types.early.changes

theorem changes_grouped (h : Stages root tagged typed grouped listed spec) :
    Changes .initial grouped :=
  changes_of_along h.groups h.changes_typed fun _ _ _ hgroup => hgroup.early.changes

theorem changes_listed (h : Stages root tagged typed grouped listed spec) :
    Changes .initial listed :=
  changes_of_along h.commands h.changes_grouped fun _ _ _ hcommand => .single hcommand.change

end Stages

theorem exists_stages (h : Spec.ofRegistry root = .ok spec) :
    ∃ tagged typed grouped listed, Stages root tagged typed grouped listed spec := by
  obtain ⟨-, -, hread⟩ := ofRegistry_eq_ok_iff.1 h
  simp only [Section.all, List.foldlM_cons, List.foldlM_nil, bind_eq_ok_iff] at hread
  obtain ⟨licensed, hlicensed, tagged, htagged, typed, htyped, grouped, hgrouped, listed, hlisted,
    _, hamended, hspec⟩ := hread
  cases hspec
  refine ⟨tagged, typed, grouped, listed, ?_, ?_, ?_, ?_, hamended⟩
  · have hlicense : Meets (readKind root .initial .comment)
        (fun later => ∃ license, later = { Spec.initial with license }) fun _ => True := by
      refine .foldlM _ ⟨"", rfl⟩ fun state node _ hstate => ?_
      obtain ⟨license, rfl⟩ := hstate
      refine (meets_lift_reading readComment_meets).mono (fun later hlater => ?_) fun _ _ => trivial
      obtain ⟨license, rfl⟩ := hlater
      exact ⟨license, rfl⟩
    obtain ⟨license, rfl⟩ := hlicense.of_ok hlicensed
    have htags : Meets (readKind root { Spec.initial with license } .tags)
        (fun later => ∃ tags, (∀ tag ∈ Spec.fixedTags, tag ∈ tags) ∧
          later = { Spec.initial with license, tags }) fun _ => True := by
      refine .foldlM _ ⟨Spec.fixedTags, fun _ => id, rfl⟩ fun state node _ hstate => ?_
      obtain ⟨tags, hfixed, rfl⟩ := hstate
      refine (meets_lift_reading readTags_meets).mono (fun later hlater => ?_) fun _ _ => trivial
      obtain ⟨more, hmore, rfl⟩ := hlater
      exact ⟨more, fun tag htag => hmore tag (hfixed tag htag), rfl⟩
    obtain ⟨tags, hfixed, rfl⟩ := htags.of_ok htagged
    exact ⟨license, tags, hfixed, rfl⟩
  · have htypes : Meets (readKind root tagged .types) (TypeChanges tagged) fun _ => True := by
      refine .foldlM _ .refl fun state node _ hstate => ?_
      exact (meets_lift_reading readTypes_meets).mono (fun _ => hstate.trans) fun _ _ => trivial
    exact htypes.of_ok htyped
  · exact .of_foldlM hgrouped fun state node next _ hnext => readEnums_meets.of_ok hnext
  · exact .of_foldlM (readKind_commands hlisted) fun state element next _ hnext =>
      readCommand_meets.of_ok hnext

end VulkanBindings.Registry
