import VulkanBindings.Proofs.Registry.Enumerators
import VulkanBindings.Proofs.Registry.Stages

/-!
# What extensions require

The extensions of a document are nested four deep: sections, extensions, blocks and items.
Only the items change a spec, so that reading the extensions is reading one item after the
other (`along_requirements`), where `requirements` lists the items of all enabled extensions
in the order of the document.

The items of extensions change guards and the members of enums, and nothing else.
-/

namespace VulkanBindings.Registry

open Naming (extensionTag)
open Xml (Node)

/-- An item, in a block of an extension. -/
structure Requirement where
  extension : Node
  block : Node
  item : Node

namespace Requirement

/-- The guard that the extension puts on what it requires. -/
def guard (requirement : Requirement) : String :=
  (requirement.extension.attribute? "protect").getD ""

/-- The vendor's tag in the name of the extension. -/
def tag (requirement : Requirement) : String :=
  match requirement.extension.attribute? "name" with
  | some name => (extensionTag name).toOption.getD ""
  | none => ""

/-- Reads the item. -/
def read (requirement : Requirement) (spec : Spec) : Except Failure Spec :=
  readItem requirement.block requirement.guard requirement.tag spec requirement.item

/-- What the item changes. -/
def Change (requirement : Requirement) (spec later : Spec) : Prop :=
  ItemChange requirement.item requirement.guard requirement.tag spec later

end Requirement

/-- An element of an extensions section that counts: an extension that is not disabled. -/
def isEnabled (node : Node) : Bool :=
  node.tag == "extension" && node.attribute? "supported" != some disabledSupport

/-- The items of an extension. -/
def requirementsIn (extension : Node) : List Requirement :=
  (extension.children.filter (·.tag == "require")).flatMap fun block =>
    block.children.map fun item => ⟨extension, block, item⟩

/-- The items of all enabled extensions of a document. -/
def requirements (root : Node) : List Requirement :=
  (sectionNodes root .extensions).flatMap fun node =>
    (node.children.filter isEnabled).flatMap requirementsIn

variable {root node : Node} {spec later : Spec}

/-! ## Reading item by item -/

theorem foldlM_requirementsIn (h : readExtension node spec = .ok later)
    (hsupported : node.attribute? "supported" ≠ some disabledSupport) :
    (requirementsIn node).foldlM (fun spec requirement => requirement.read spec) spec =
      .ok later := by
  obtain ⟨name, tag, hname, htag, -, hread⟩ := readExtension_eq_ok h
  rw [if_neg hsupported] at hread
  have htagOf : ∀ block item, Requirement.tag ⟨node, block, item⟩ = tag := by
    intro block item
    unfold Requirement.tag
    dsimp only
    rw [hname]
    show (extensionTag name).toOption.getD "" = tag
    rw [htag]
    rfl
  unfold requirementsIn
  rw [foldlM_flatMap]
  have hkept := foldlM_filter_of_skips (·.tag == "require") hread ?_
  · refine foldlM_of_steps hkept fun state block next hblock hstep => ?_
    have hrequire : block.tag == "require" := (List.mem_filter.1 hblock).2
    unfold readRequirement at hstep
    rw [if_pos hrequire] at hstep
    rw [List.foldlM_map]
    refine foldlM_of_steps hstep fun state item next _ hitem => ?_
    unfold Requirement.read
    rw [htagOf]
    exact hitem
  · intro state block next _ hother hstep
    unfold readRequirement at hstep
    rw [if_neg (by simp [hother])] at hstep
    cases hstep

theorem foldlM_requirements (h : readKind root spec .extensions = .ok later) :
    (requirements root).foldlM (fun spec requirement => requirement.read spec) spec =
      .ok later := by
  unfold requirements
  rw [foldlM_flatMap]
  refine foldlM_of_steps h fun state node next _ hread => ?_
  replace hread : readExtensions node state = .ok next := hread
  unfold readExtensions at hread
  rw [foldlM_flatMap]
  have hkept := foldlM_filter_of_skips isEnabled hread ?_
  · refine foldlM_of_steps hkept fun state child next hchild hstep => ?_
    obtain ⟨htag, hsupported⟩ := Bool.and_eq_true_iff.1 (List.mem_filter.1 hchild).2
    have hextension : readExtension child state = .ok next := by
      unfold readExtensionsChild at hstep
      simpa [beq_iff_eq.1 htag] using hstep
    exact foldlM_requirementsIn hextension (by simpa using hsupported)
  · -- Comments and disabled extensions are passed over.
    intro state child next _ hdisabled hstep
    unfold readExtensionsChild at hstep
    split at hstep
    · exact (Except.ok.inj hstep).symm
    split at hstep
    · rename_i htag
      obtain ⟨_, _, _, _, _, hskipped⟩ := readExtension_eq_ok hstep
      have hsupported : child.attribute? "supported" = some disabledSupport := by
        simpa [isEnabled, htag] using hdisabled
      rwa [if_pos hsupported] at hskipped
    · cases hstep

/-- Reading the extensions makes the changes of their items, one after the other. -/
theorem along_requirements (h : readKind root spec .extensions = .ok later)
    (hspec : Changes .initial spec) : Along Requirement.Change spec (requirements root) later := by
  have hloop : Meets
      ((requirements root).foldlM (fun spec requirement => requirement.read spec) spec)
      (fun final => Along Requirement.Change spec (requirements root) final ∧
        Amendments spec final) fun _ => True := by
    refine .foldlM_along (fun done (state : Spec) =>
      Along Requirement.Change spec done state ∧ Amendments spec state) ⟨.nil, .refl⟩ ?_
    intro done state requirement _ hstate
    obtain ⟨hdone, hamended⟩ := hstate
    have hconsistent : state.Consistent :=
      Changes.consistent (hspec.trans hamended.changes) Spec.consistent_initial
    refine (readItem_meets hconsistent _ _ _).mono (fun next hnext => ?_) fun _ _ => trivial
    exact ⟨hdone.snoc hnext, hamended.trans hnext.amendments⟩
  exact (hloop.of_ok (foldlM_requirements h)).1

/-! ## A sample -/

/-- A registry with a command, a type of flags without an enum of its own, and the result
codes.  Two extensions add enumerators and guards to these; a third one is disabled. -/
def sampleExtensions : Node :=
  ⟨"registry", [],
   [.element "types" []
     [.element "type" [("category", "define")]
        [.text "#define ", .element "name" [] [.text "VK_HEADER_VERSION"], .text " 8"],
      .element "type" [("category", "define"), ("name", "VK_DEFINE_NON_DISPATCHABLE_HANDLE")]
        [.text "#if defined(__LP64__)"],
      .element "type" [("category", "bitmask")]
        [.element "type" [] [.text "VkFlags"], .element "name" [] [.text "VkUsageFlags"]]],
    .element "enums" [("name", "VkResult"), ("type", "enum")]
      [.element "enum" [("value", "0"), ("name", "VK_SUCCESS")] [],
       .element "unused" [("start", "2")] [],
       .element "enum" [("value", "1"), ("name", "VK_NOT_READY")] []],
    .element "commands" []
     [.element "command" [("successcodes", "VK_SUCCESS,VK_SUBOPTIMAL_KHR")]
       [.element "proto" []
         [.element "type" [] [.text "VkResult"], .element "name" [] [.text "vkLoad"]],
        .element "param" []
         [.element "type" [] [.text "VkUsageFlags"], .element "name" [] [.text "usage"]]]],
    .element "extensions" []
     [.element "extension" [("name", "VK_KHR_surface"), ("protect", "VK_USE_SURFACE")]
       [.element "require" []
         [.element "enum" [("value", "1"), ("name", "VK_KHR_SURFACE_SPEC_VERSION")] [],
          .element "enum" [("extends", "VkResult"), ("offset", "0"),
            ("name", "VK_SUBOPTIMAL_KHR")] [],
          .element "type" [("name", "VkUsageFlags")] [],
          .element "command" [("name", "vkLoad")] []]],
      .element "extension" [("name", "VK_EXT_usage"), ("protect", "VK_USE_LATE")]
       [.element "require" []
         [.element "enum" [("extends", "VkUsageFlagBits"), ("bitpos", "0"),
            ("name", "VK_USAGE_LATE_BIT_EXT")] [],
          .element "type" [("name", "VkUsageFlags")] []]],
      .element "extension" [("name", "VK_EXT_draft"), ("supported", "disabled")]
       [.element "require" []
         [.element "enum" [("extends", "VkResult"), ("offset", "1"),
            ("name", "VK_ERROR_DRAFT_EXT")] []]]]]⟩

end VulkanBindings.Registry
