import VulkanBindings.Proofs.Order.Optimal
import VulkanBindings.Proofs.Registry.Reading
import VulkanBindings.Wrapper.Context

/-!
# Prepared registries

Preparing a registry reads it, checks it, orders its entities and analyzes its
commands.  `prepare_eq_ok_iff` takes these stages apart.  From there on it is
known of a prepared registry that its spec is consistent (`Prepared.consistent`)
and that its entities are those of the spec, each after all that it needs
(`Prepared.needs_earlier`).
-/

namespace VulkanBindings.Wrapper

open Registry (Entity Spec)

variable {root : Xml.Node} {context : Context} {spec : Spec}

/-! ## Ordered entities -/

/-- The items of entities that are picked by position are the picked items. -/
theorem toItem_filterMap (entities : List Entity) (order : List Nat) :
    (order.filterMap (entities[·]?)).map Entity.toItem =
      order.filterMap ((entities.map Entity.toItem)[·]?) := by
  rw [List.map_filterMap]
  simp only [List.getElem?_map]

/-- Ordered entities are entities of the spec, in an order that suits their needs. -/
theorem ordered_eq_ok {entities : List Entity} (h : spec.ordered = .ok entities) :
    (∀ entity ∈ entities, entity ∈ spec.entities) ∧
      Order.InOrder Spec.builtinNames (entities.map Entity.toItem) := by
  unfold Spec.ordered at h
  cases hpositions : Order.positions Spec.builtinNames (spec.entities.map Entity.toItem) with
  | error deadlock =>
    rw [hpositions] at h
    cases h
  | ok order =>
    rw [hpositions] at h
    obtain rfl := Except.ok.inj h
    refine ⟨fun entity hmem => ?_, ?_⟩
    · obtain ⟨position, -, hposition⟩ := List.mem_filterMap.1 hmem
      exact List.mem_of_getElem? hposition
    · rw [toItem_filterMap]
      exact Order.inOrder_of_positions hpositions

/-- Ordered entities are all entities of the spec. -/
theorem perm_of_ordered {entities : List Entity} (h : spec.ordered = .ok entities) :
    entities.Perm spec.entities := by
  unfold Spec.ordered at h
  cases hpositions : Order.positions Spec.builtinNames (spec.entities.map Entity.toItem) with
  | error deadlock =>
    rw [hpositions] at h
    cases h
  | ok order =>
    rw [hpositions] at h
    obtain rfl := Except.ok.inj h
    have hperm : order.Perm (List.range spec.entities.length) := by
      rw [← List.length_map Entity.toItem]
      exact (Order.valid_of_positions hpositions).perm
    have hpick : (List.range spec.entities.length).filterMap (spec.entities[·]?) = spec.entities :=
      Order.filterMap_range _
    have hall := hperm.filterMap (spec.entities[·]?)
    rwa [hpick] at hall

/-- Entities that are in order stay as they are. -/
theorem ordered_of_inOrder
    (h : Order.InOrder Spec.builtinNames (spec.entities.map Entity.toItem)) :
    spec.ordered = .ok spec.entities := by
  have hpick : (List.range spec.entities.length).filterMap (spec.entities[·]?) = spec.entities :=
    Order.filterMap_range _
  unfold Spec.ordered
  rw [Order.positions_of_inOrder h, List.length_map]
  exact congrArg Except.ok hpick

/-- The stages that a context comes from. -/
structure Prepared (root : Xml.Node) (context : Context) : Prop where
  read : Spec.ofRegistry root = .ok context.spec
  valid : context.spec.validate = .ok ()
  ordered : context.spec.ordered = .ok context.entities
  analyzed : Analysis.analyzeAll context.spec = .ok context.analyzed
  defaults : defaultsOf context.spec context.entities = .ok context.defaults

theorem prepare_eq_ok_iff : prepare root = .ok context ↔ Prepared root context := by
  unfold prepare readChecked contextOf
  simp only [bind_eq_ok_iff]
  constructor
  · rintro ⟨spec, ⟨spec', hread, _, hvalid, hspec⟩, entities, hordered, analyzed, hanalyzed,
      defaults, hdefaults, hcontext⟩
    cases hspec
    cases hcontext
    exact ⟨hread, mapError_eq_ok_iff.1 hvalid, mapError_eq_ok_iff.1 hordered,
      mapError_eq_ok_iff.1 hanalyzed, hdefaults⟩
  · rintro ⟨hread, hvalid, hordered, hanalyzed, hdefaults⟩
    exact ⟨context.spec, ⟨context.spec, hread, (), mapError_eq_ok_iff.2 hvalid, rfl⟩,
      context.entities, mapError_eq_ok_iff.2 hordered, context.analyzed,
      mapError_eq_ok_iff.2 hanalyzed, context.defaults, hdefaults, rfl⟩

namespace Prepared

theorem consistent (h : Prepared root context) : context.spec.Consistent :=
  Registry.consistent_of_ofRegistry h.read

theorem mem_spec (h : Prepared root context) {entity : Entity} (hmem : entity ∈ context.entities) :
    entity ∈ context.spec.entities :=
  (ordered_eq_ok h.ordered).1 entity hmem

theorem described (h : Prepared root context) {entity : Entity}
    (hmem : entity ∈ context.entities) : context.spec.Describes entity :=
  h.consistent.described entity (h.mem_spec hmem)

/-- What an entity needs is the storage type of all flags, or comes earlier. -/
theorem needs_earlier (h : Prepared root context) {before after : List Entity} {entity : Entity}
    (hentities : context.entities = before ++ entity :: after) {name : String}
    (hname : name ∈ entity.needs) :
    name = Registry.flagsStorage ∨ name ∈ before.map (·.name) := by
  have hinOrder := (ordered_eq_ok h.ordered).2
  rw [hentities, List.map_append, List.map_cons] at hinOrder
  rcases hinOrder.needs_earlier hname with hbuiltin | hbefore
  · left
    simpa [Spec.builtinNames] using hbuiltin
  · right
    rwa [List.map_map] at hbefore

end Prepared

/-! ## Registries that are in order -/

/-- A registry whose entities are in order is prepared with its entities as they
stand. -/
theorem prepare_of_inOrder (hread : readChecked root = .ok spec)
    (horder : Order.InOrder Spec.builtinNames (spec.entities.map Entity.toItem)) :
    prepare root = contextOf spec spec.entities := by
  unfold prepare
  rw [hread]
  show ((liftM spec.ordered : Except Failure (List Entity)) >>= contextOf spec) = _
  rw [ordered_of_inOrder horder]
  rfl

/-- What a registry is prepared to can be computed if its entities are in order. -/
theorem exists_prepare_of_inOrder (property : Context → Bool)
    (h : (readChecked root).toOption.any (fun spec =>
      decide (Order.InOrder Spec.builtinNames (spec.entities.map Entity.toItem)) &&
        (contextOf spec spec.entities).toOption.any property) = true) :
    ∃ context, prepare root = .ok context ∧ property context = true := by
  obtain ⟨spec, hread, h⟩ := exists_of_any h
  obtain ⟨horder, hcontext⟩ := Bool.and_eq_true_iff.1 h
  rw [prepare_of_inOrder hread (of_decide_eq_true horder)]
  exact exists_of_any hcontext

section Sample

open Xml (Content Node)

private def element (tag : String) (attributes : List (String × String)) (content : List Content) :
    Content :=
  .element tag attributes content

private def named (tag text : String) : Content :=
  element tag [] [.text text]

/-- A small registry with an entity of every kind, in order.  The size of the one
array in it is left open. -/
def sampleRegistry (arraySize : String) : Node :=
  ⟨"registry", [],
   [element "types" []
     [element "type" [("requires", "vk_platform"), ("name", "void")] [],
      element "type" [("requires", "vk_platform"), ("name", "uint32_t")] [],
      element "type" [("category", "define")]
        [.text "#define ", named "name" "VK_HEADER_VERSION", .text " 8"],
      element "type" [("category", "define"), ("name", "VK_DEFINE_NON_DISPATCHABLE_HANDLE")]
        [.text "#if defined(__LP64__)"],
      element "type" [("category", "basetype")]
        [.text "typedef ", named "type" "uint32_t", named "name" "VkSize", .text ";"],
      element "type" [("category", "bitmask")]
        [.text "typedef ", named "type" "VkFlags", named "name" "VkUsageFlags", .text ";"],
      element "type" [("category", "funcpointer")] [named "name" "PFN_vkCallback"],
      element "type" [("category", "struct"), ("name", "VkRange")]
        [element "member" [] [named "type" "VkUsageFlags", named "name" "usage"],
         element "member" []
           [named "type" "VkSize", named "name" "sizes", .text ("[" ++ arraySize ++ "]")]],
      element "type" [("category", "union"), ("name", "VkValue")]
        [element "member" [] [named "type" "VkRange", named "name" "range"]],
      element "type" [("category", "handle")]
        [named "type" "VK_DEFINE_HANDLE", .text "(", named "name" "VkDevice", .text ")"]],
    element "enums" [("name", "VkResult"), ("type", "enum")]
      [element "enum" [("value", "0"), ("name", "VK_SUCCESS")] []],
    element "commands" []
     [element "command" []
       [element "proto" [] [named "type" "void", named "name" "vkResetDevice"],
        element "param" [] [named "type" "VkDevice", named "name" "device"],
        element "param" []
          [.text "const ", named "type" "VkRange", .text "*", named "name" "pRange"]],
      element "command" [("successcodes", "VK_SUCCESS")]
       [element "proto" [] [named "type" "VkResult", named "name" "vkLoad"],
        element "param" [] [named "type" "VkUsageFlags", named "name" "usage"]]]]⟩

end Sample

end VulkanBindings.Wrapper
