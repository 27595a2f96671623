import VulkanBindings.Proofs.Outcome
import VulkanBindings.Registry.Member

/-!
# Revised elements

A document is edited piece by piece.  `Revised` says of two lists that one item of the first is
missing from the second, or stands there in another form; `Revision` says the same of the
content of two elements.  A loop over the items does not notice the revision as long as it
passes over what may be taken out, and treats an item like its other form
(`Revised.persists_foldlM`).
-/

namespace VulkanBindings.Registry

open Xml (Node)

/-! ## Revised lists -/

/-- One item of a list is taken out, or replaced by another. -/
inductive Revised {α : Type} (removable : α → Prop) (edit : α → α → Prop) :
    List α → List α → Prop where
  | remove {item : α} {rest : List α} (h : removable item) :
    Revised removable edit (item :: rest) rest
  | replace {item edited : α} {rest : List α} (h : edit item edited) :
    Revised removable edit (item :: rest) (edited :: rest)
  | later {item : α} {rest others : List α} (h : Revised removable edit rest others) :
    Revised removable edit (item :: rest) (item :: others)

namespace Revised

variable {α β ε : Type} {removable : α → Prop} {edit : α → α → Prop} {items others : List α}

/-- A loop comes to the same if it passes over what may be taken out, and treats an item like
its replacement. -/
theorem persists_foldlM (h : Revised removable edit items others) {step : β → α → Except ε β}
    (hremove : ∀ item, removable item → ∀ state, Persists (step state item) (.ok state))
    (hreplace : ∀ item edited, edit item edited → ∀ state,
      Persists (step state item) (step state edited)) (start : β) :
    Persists (items.foldlM step start) (others.foldlM step start) := by
  induction h generalizing start with
  | remove hitem =>
    rw [List.foldlM_cons]
    exact (hremove _ hitem start).bind fun _ => .refl _
  | replace hitem =>
    rw [List.foldlM_cons, List.foldlM_cons]
    exact (hreplace _ _ hitem start).bind fun _ => .refl _
  | later _ ih =>
    rw [List.foldlM_cons, List.foldlM_cons]
    exact Persists.bind (.refl _) ih

/-- Nothing is seen of the revision where all that it concerns is left out. -/
theorem filter_eq (h : Revised removable edit items others) {keep : α → Bool}
    (hremove : ∀ item, removable item → keep item = false)
    (hreplace : ∀ item edited, ¬edit item edited) : others.filter keep = items.filter keep := by
  induction h with
  | remove hitem => rw [List.filter_cons_of_neg (by simp [hremove _ hitem])]
  | replace hitem => exact absurd hitem (hreplace _ _)
  | later _ ih => rw [List.filter_cons, List.filter_cons, ih]

/-- What the revision does not concern stays in front. -/
theorem cons_left {first : α} {rest : List α}
    (h : Revised removable edit (first :: rest) others) (hremove : ¬removable first)
    (hreplace : ∀ edited, ¬edit first edited) :
    ∃ revised, others = first :: revised ∧ Revised removable edit rest revised := by
  cases h with
  | remove hitem => exact absurd hitem hremove
  | replace hitem => exact absurd hitem (hreplace _)
  | later hrest => exact ⟨_, rfl, hrest⟩

/-- Nothing is seen of the revision in what each item has in common with its replacement. -/
theorem map_eq (h : Revised removable edit items others) {view : α → β}
    (hremove : ∀ item, ¬removable item)
    (hreplace : ∀ item edited, edit item edited → view edited = view item) :
    others.map view = items.map view := by
  induction h with
  | remove hitem => exact absurd hitem (hremove _)
  | replace hitem => rw [List.map_cons, List.map_cons, hreplace _ _ hitem]
  | later _ ih => rw [List.map_cons, List.map_cons, ih]

end Revised

/-! ## Revised elements -/

/-- The content of an element is revised: one of its children is taken out or edited. -/
structure Revision (removable : Node → Prop) (edit : Node → Node → Prop) (node other : Node) :
    Prop where
  tag : other.tag = node.tag
  attributes : other.attributes = node.attributes
  content : Revised (fun piece => ∃ child, piece.node? = some child ∧ removable child)
    (fun piece revised => ∃ child edited, piece.node? = some child ∧
      revised.node? = some edited ∧ edit child edited) node.content other.content

namespace Revision

variable {removable : Node → Prop} {edit : Node → Node → Prop} {node other : Node}

theorem children (h : Revision removable edit node other) :
    Revised removable edit node.children other.children := by
  have hcontent := h.content
  unfold Node.children
  generalize node.content = content, other.content = revised at hcontent
  induction hcontent with
  | remove hpiece =>
    obtain ⟨child, hchild, hremovable⟩ := hpiece
    rw [List.filterMap_cons_some hchild]
    exact .remove hremovable
  | replace hpiece =>
    obtain ⟨child, edited, hchild, hedited, hedit⟩ := hpiece
    rw [List.filterMap_cons_some hchild, List.filterMap_cons_some hedited]
    exact .replace hedit
  | @later piece rest others _ ih =>
    cases hpiece : piece.node? with
    | none => rwa [List.filterMap_cons_none hpiece, List.filterMap_cons_none hpiece]
    | some child =>
      rw [List.filterMap_cons_some hpiece, List.filterMap_cons_some hpiece]
      exact .later ih

theorem attribute?_eq (h : Revision removable edit node other) :
    other.attribute? = node.attribute? := by
  unfold Node.attribute?
  rw [h.attributes]

theorem requireAttribute_eq (h : Revision removable edit node other) :
    requireAttribute other = requireAttribute node := by
  funext label
  unfold requireAttribute entityOf
  rw [h.attribute?_eq, h.tag]

theorem unexpectedChild_eq (h : Revision removable edit node other) :
    unexpectedChild other = unexpectedChild node := by
  funext child
  unfold unexpectedChild entityOf
  rw [h.attribute?_eq, h.tag]

end Revision

end VulkanBindings.Registry
