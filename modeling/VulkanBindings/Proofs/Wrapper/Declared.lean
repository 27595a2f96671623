import VulkanBindings.Proofs.Wrapper.Prepared

/-!
# Everything is declared before it is used

The bindings write the entities of a prepared registry in their order, and a
compiler reads them from the top.  `DeclaredAfter` says that this works for one
entity: each type that it is written with is the entity itself, the storage type
of all flags, or an entity at an earlier position.  Three things play together
here: what each reader notes as needed, what a handle takes over from its
methods, and the order of the worklist.
-/

namespace VulkanBindings.Wrapper

open Registry (Entity Spec flagsStorage)

/-- A type that can be named once the given entities are written. -/
def Available (before : List Entity) (type : String) : Prop :=
  type = flagsStorage ∨ type ∈ before.map (·.name)

/-- All types that an entity is written with are available, as far as they are not
the entity itself.  A handle is written together with its methods. -/
def DeclaredAfter (spec : Spec) (before : List Entity) (entity : Entity) : Prop :=
  match entity.kind with
  | .struct | .union => ∃ aggregate, spec.structs.get? entity.name = some aggregate ∧
      ∀ member ∈ aggregate.members,
        member.baseType = entity.name ∨ Available before member.baseType
  | .handle => ∃ handle, spec.handles.get? entity.name = some handle ∧
      ∀ name ∈ handle.commands, ∃ command, spec.commands.get? name = some command ∧
        (command.returnType = entity.name ∨ Available before command.returnType) ∧
        ∀ argument ∈ command.arguments,
          argument.baseType = entity.name ∨ Available before argument.baseType
  | .command => ∃ command, spec.commands.get? entity.name = some command ∧
      Available before command.returnType ∧
      ∀ argument ∈ command.arguments, Available before argument.baseType
  | .flags => ∃ bits, entity.backing = .ok bits ∧ Available before bits
  | .scalar => ∃ underlying, entity.backing = .ok underlying ∧ Available before underlying
  | .enum | .callback | .required => True

variable {root : Xml.Node} {context : Context}

/-- What an entity covers comes before it, or is the entity itself. -/
theorem Prepared.covered_earlier (h : Prepared root context) {before after : List Entity}
    {entity : Entity} (hentities : context.entities = before ++ entity :: after) {type : String}
    (hcovers : entity.Covers type) : type = entity.name ∨ Available before type :=
  hcovers.imp id (h.needs_earlier hentities)

/-- An entity is written with types that are covered by what it needs, and all
that it needs comes before it. -/
theorem Prepared.declaredAfter (h : Prepared root context) {before after : List Entity}
    {entity : Entity} (hentities : context.entities = before ++ entity :: after) :
    DeclaredAfter context.spec before entity := by
  have hmem : entity ∈ context.entities := by
    rw [hentities]
    exact List.mem_append_right _ List.mem_cons_self
  have hdescribed := h.described hmem
  have hbacking := hdescribed.backing
  unfold Spec.Describes at hdescribed
  unfold DeclaredAfter
  cases hkind : entity.kind with
  | command =>
    simp only [hkind] at hdescribed ⊢
    obtain ⟨command, hcommand, -, htypes⟩ := hdescribed
    refine ⟨command, hcommand, ?_, fun argument hargument => ?_⟩
    · exact h.needs_earlier hentities (htypes _ List.mem_cons_self)
    · refine h.needs_earlier hentities (htypes _ (List.mem_cons_of_mem _ ?_))
      exact List.mem_map_of_mem hargument
  | handle =>
    simp only [hkind] at hdescribed ⊢
    obtain ⟨handle, hhandle, hmethods⟩ := hdescribed
    refine ⟨handle, hhandle, fun name hname => ?_⟩
    obtain ⟨command, hcommand, -, htypes⟩ := hmethods name hname
    refine ⟨command, hcommand, ?_, fun argument hargument => ?_⟩
    · exact h.covered_earlier hentities (htypes _ List.mem_cons_self)
    · refine h.covered_earlier hentities (htypes _ (List.mem_cons_of_mem _ ?_))
      exact List.mem_map_of_mem hargument
  | struct | union =>
    simp only [hkind] at hdescribed ⊢
    obtain ⟨aggregate, haggregate, hmembers⟩ := hdescribed
    refine ⟨aggregate, haggregate, fun member hmember => ?_⟩
    exact h.covered_earlier hentities (hmembers member hmember)
  | flags =>
    obtain ⟨bits, hneeds, hbits⟩ := hbacking (.inl hkind)
    refine ⟨bits, hbits, h.needs_earlier hentities ?_⟩
    rw [NameSet.mem_iff, hneeds]
    exact List.mem_singleton_self bits
  | scalar =>
    obtain ⟨underlying, hneeds, hunderlying⟩ := hbacking (.inr hkind)
    refine ⟨underlying, hunderlying, h.needs_earlier hentities ?_⟩
    rw [NameSet.mem_iff, hneeds]
    exact List.mem_singleton_self underlying
  | enum | callback | required => trivial

/-- In a prepared registry, every entity is declared after all types that it is
written with. -/
theorem declared_before_use (hprepare : prepare root = .ok context) (position : Nat)
    (hposition : position < context.entities.length) :
    DeclaredAfter context.spec (context.entities.take position) context.entities[position] := by
  have hsplit : context.entities = context.entities.take position ++
      context.entities[position] :: context.entities.drop (position + 1) := by
    rw [← List.drop_eq_getElem_cons hposition, List.take_append_drop]
  exact (prepare_eq_ok_iff.1 hprepare).declaredAfter hsplit

/-- The handle of the small registry comes after the struct that its method takes. -/
theorem device_declared_before_use : ∃ context, prepare (sampleRegistry "4") = .ok context ∧
    ∃ hposition : 8 < context.entities.length, context.entities[8].name = "Device" ∧
      DeclaredAfter context.spec (context.entities.take 8) context.entities[8] := by
  have hsample : ∃ context, prepare (sampleRegistry "4") = .ok context ∧
      (context.entities[8]?.map (·.name) == some "Device") = true :=
    exists_prepare_of_inOrder (fun context => context.entities[8]?.map (·.name) == some "Device")
      (by decide +kernel)
  obtain ⟨context, hprepare, hdevice⟩ := hsample
  obtain ⟨entity, hentity, hname⟩ := Option.map_eq_some_iff.1 (beq_iff_eq.1 hdevice)
  obtain ⟨hposition, rfl⟩ := List.getElem?_eq_some_iff.1 hentity
  exact ⟨context, hprepare, hposition, hname, declared_before_use hprepare 8 hposition⟩

end VulkanBindings.Wrapper
