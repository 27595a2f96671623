import VulkanBindings.Proofs.Registry.Reading

/-!
# Methods of handles

That a command is a method is noted twice while a registry is read: the command
knows its handle, and the handle has a list of its methods.  `ListsMethods` says
that the two agree: the list of a handle holds the commands whose handle it is,
each once and in the order of the commands.  No change breaks this
(`Change.listsMethods`), because a command and its place in the list come
together, and a new handle has a name that no command can have named before.

Together with the order in which commands are entered, `methods_of_ofRegistry`
says which list every command of a registry is in.
-/

namespace VulkanBindings.Registry

open Xml (Node)

namespace Spec

variable {spec later : Spec} {name handle : String}

/-- The commands that are methods of a handle, in the order of the commands. -/
def ownedBy (spec : Spec) (handle : String) : List String :=
  (spec.commands.rows.filter fun row => row.2.owner == some handle).map (·.1)

/-- The lists of the handles and the owners of the commands agree. -/
structure ListsMethods (spec : Spec) : Prop where
  distinct : spec.commands.keys.Nodup
  known : ∀ row ∈ spec.commands.rows, ∀ handle, row.2.owner = some handle →
    spec.handles.contains handle = true
  listed : ∀ handle entry, spec.handles.get? handle = some entry →
    entry.commands = spec.ownedBy handle

theorem listsMethods_initial : initial.ListsMethods where
  distinct := List.nodup_nil
  known := by
    intro row hrow
    cases hrow
  listed := by
    intro handle entry hentry
    cases hentry

/-- A command is a method of the handle that it names. -/
theorem mem_ownedBy (hdistinct : spec.commands.keys.Nodup) {command : Command}
    (hcommand : spec.commands.get? name = some command) :
    name ∈ spec.ownedBy handle ↔ command.owner = some handle := by
  unfold ownedBy
  rw [List.mem_map]
  constructor
  · rintro ⟨⟨key, other⟩, hmem, rfl⟩
    obtain ⟨hrow, howner⟩ := List.mem_filter.1 hmem
    rw [Table.get?_of_mem_rows hdistinct hrow] at hcommand
    obtain rfl := Option.some.inj hcommand
    exact beq_iff_eq.1 howner
  · intro howner
    refine ⟨(name, command), List.mem_filter.2 ⟨Table.mem_rows_of_get? hcommand, ?_⟩, rfl⟩
    exact beq_iff_eq.2 howner

/-- Methods are listed in the order of the commands, each of them once. -/
theorem ownedBy_sublist (spec : Spec) (handle : String) :
    (spec.ownedBy handle).Sublist spec.commands.keys :=
  List.Sublist.map Prod.fst List.filter_sublist

/-! ## Entering a command -/

theorem handles_withCommand (command : Command) :
    (spec.withCommand name command).handles =
      match command.owner with
      | some handle => spec.handles.modify handle fun entry =>
          { entry with commands := entry.commands ++ [name] }
      | none => spec.handles := by
  unfold withCommand
  cases command.owner <;> rfl

theorem ownedBy_withCommand (hnew : spec.commands.contains name = false) (command : Command) :
    (spec.withCommand name command).ownedBy handle =
      spec.ownedBy handle ++ if command.owner = some handle then [name] else [] := by
  unfold ownedBy
  rw [commands_withCommand, Table.rows_set_new hnew, List.filter_append, List.map_append,
    List.filter_singleton]
  congr 1
  by_cases howner : command.owner = some handle
  · rw [beq_iff_eq.2 howner, if_pos howner]
    rfl
  · rw [beq_eq_false_iff_ne.2 howner, if_neg howner]
    rfl

theorem ListsMethods.withCommand (h : spec.ListsMethods)
    (hnew : spec.commands.contains name = false) (command : Command)
    (howner : ∀ handle, command.owner = some handle → spec.handles.contains handle = true) :
    (spec.withCommand name command).ListsMethods where
  distinct := by
    rw [commands_withCommand, Table.keys_set_new hnew]
    refine List.nodup_append.2
      ⟨h.distinct, List.nodup_singleton name, fun old hold other hother => ?_⟩
    rw [List.mem_singleton.1 hother]
    rintro rfl
    exact Table.not_contains_iff_not_mem_keys.1 hnew hold
  known := by
    intro row hrow handle hhandle
    rw [contains_handles_withCommand]
    rw [commands_withCommand, Table.rows_set_new hnew] at hrow
    rcases List.mem_append.1 hrow with hold | hrow
    · exact h.known row hold handle hhandle
    · rw [List.mem_singleton.1 hrow] at hhandle
      exact howner handle hhandle
  listed := by
    intro handle entry hentry
    rw [ownedBy_withCommand hnew]
    rw [handles_withCommand] at hentry
    cases hcommand : command.owner with
    | none =>
      rw [hcommand] at hentry
      rw [if_neg (by simp), List.append_nil]
      exact h.listed handle entry hentry
    | some owner =>
      simp only [hcommand, Table.get?_modify] at hentry
      split at hentry
      · rename_i heq
        obtain ⟨old, hold, rfl⟩ := Option.map_eq_some_iff.1 hentry
        rw [if_pos (by rw [heq]), h.listed handle old hold]
      · rename_i hne
        rw [if_neg fun heq => hne (Option.some.inj heq).symm, List.append_nil]
        exact h.listed handle entry hentry

/-! ## Other changes -/

/-- Handles and commands that are left alone still agree. -/
theorem ListsMethods.of_eq (h : spec.ListsMethods) (hcommands : later.commands = spec.commands)
    (hhandles : later.handles = spec.handles) : later.ListsMethods := by
  obtain ⟨hdistinct, hknown, hlisted⟩ := h
  unfold ownedBy at hlisted
  refine ⟨?_, ?_, ?_⟩
  · rwa [hcommands]
  · rwa [hcommands, hhandles]
  · unfold ownedBy
    rwa [hcommands, hhandles]

/-- A guard on a command is no concern of its handle. -/
theorem ownedBy_guardCommand (guard : String) :
    ownedBy { spec with
      commands := spec.commands.modify name fun entry => { entry with guard } } handle =
      spec.ownedBy handle := by
  unfold ownedBy Table.modify
  dsimp only
  rw [List.filter_map, List.map_map]
  have hkeep : ((fun row : String × Command => row.2.owner == some handle) ∘
      fun (row : String × Command) =>
        (row.1, if row.1 = name then { row.2 with guard } else row.2)) =
      fun row => row.2.owner == some handle := by
    funext row
    show ((if row.1 = name then { row.2 with guard } else row.2 : Command).owner == _) = _
    split <;> rfl
  rw [hkeep]
  rfl

end Spec

open Spec

theorem Change.listsMethods {spec later : Spec} (hchange : Change spec later)
    (hspec : spec.Consistent) (h : spec.ListsMethods) : later.ListsMethods := by
  cases hchange with
  | @handle name hnew =>
    -- A method of the new handle would have named it before it was there.
    have hnone : spec.ownedBy name = [] := by
      unfold ownedBy
      rw [List.map_eq_nil_iff, List.filter_eq_nil_iff]
      intro row hrow howner
      have hknown := h.known row hrow name (beq_iff_eq.1 howner)
      rw [not_contains_of_new (hspec.handles name) hnew] at hknown
      cases hknown
    refine ⟨h.distinct, fun row hrow handle howner => ?_, fun handle entry hentry => ?_⟩
    · exact Table.contains_set.2 (.inr (h.known row hrow handle howner))
    · rw [wrap, Table.get?_set] at hentry
      split at hentry
      · rename_i heq
        obtain rfl := Option.some.inj hentry
        rw [heq]
        exact hnone.symm
      · exact h.listed handle entry hentry
  | @command name command hnew _ howner =>
    refine h.withCommand (not_contains_of_new (hspec.commands name) hnew) command ?_
    intro handle hhandle
    exact (ownerOf?_eq_some (howner.symm.trans hhandle)).1
  | guardHandle name guard =>
    refine ⟨h.distinct, fun row hrow handle howner => ?_, fun handle entry hentry => ?_⟩
    · exact Table.contains_modify.trans (h.known row hrow handle howner)
    · rw [Table.get?_modify] at hentry
      split at hentry
      · obtain ⟨old, hold, rfl⟩ := Option.map_eq_some_iff.1 hentry
        exact h.listed handle old hold
      · exact h.listed handle entry hentry
  | guardCommand name guard =>
    refine ⟨?_, fun row hrow handle howner => ?_, fun handle entry hentry => ?_⟩
    · rw [Table.keys_modify]
      exact h.distinct
    · obtain ⟨old, hold, rfl⟩ := List.mem_map.1 hrow
      refine h.known old hold handle ?_
      dsimp only at howner
      split at howner <;> exact howner
    · rw [ownedBy_guardCommand]
      exact h.listed handle entry hentry
  | notes | outside | scalar | enum | flags | aggregate | guardEnum | guardFlags | guardScalar
  | guardAggregate | guardBits | contribute => exact h.of_eq rfl rfl

theorem Changes.listsMethods {spec : Spec} (h : Changes .initial spec) : spec.ListsMethods := by
  induction h with
  | refl => exact listsMethods_initial
  | tail hchanges hchange ih =>
    exact hchange.listsMethods (Changes.consistent hchanges consistent_initial) ih

/-! ## Methods of a registry -/

namespace Spec

variable {spec : Spec} {name : String}

/-- The command is a method if its first parameter is a handle, and is then in the list
of this handle: once there, and in no other list. -/
def MethodOnce (spec : Spec) (name : String) (command : Command) : Prop :=
  ∃ first rest, command.arguments = first :: rest ∧
    (command.isMethod = true ↔ spec.handles.contains first.baseType = true) ∧
    (∀ handle, command.owner = some handle → handle = first.baseType) ∧
    ∀ handle entry, spec.handles.get? handle = some entry →
      entry.commands.count name = if command.isMethod = true ∧ handle = first.baseType then 1 else 0

/-- The commands come in the order of the elements that declare them, all of different
names, and every handle lists its methods in this order. -/
def InDocumentOrder (spec : Spec) (root : Node) : Prop :=
  spec.commands.keys.Nodup ∧
    (commandElements root).map declaredName? = spec.commands.keys.map some ∧
    ∀ handle entry, spec.handles.get? handle = some entry →
      entry.commands.Sublist spec.commands.keys

/-- A command that is a method is a method of the type of its first parameter. -/
theorem owner_eq_of_first {command : Command} {first : Member} {rest : List Member}
    (howner : command.owner = ownerOf? spec command.arguments)
    (harguments : command.arguments = first :: rest) :
    command.owner = if spec.handles.contains first.baseType then some first.baseType else none := by
  rw [howner, harguments]
  rfl

theorem ListsMethods.methodOnce (h : spec.ListsMethods) (howners : spec.OwnersKnown)
    (hspec : spec.Consistent) {command : Command}
    (hcommand : spec.commands.get? name = some command) : spec.MethodOnce name command := by
  obtain ⟨first, rest, harguments, hfirst⟩ := hspec.wellOwned hcommand
  have howner := owner_eq_of_first (howners name command hcommand) harguments
  refine ⟨first, rest, harguments, ?_, hfirst, fun handle entry hentry => ?_⟩
  · unfold Command.isMethod
    rw [howner]
    split <;> simp_all
  · -- No list has a command twice, so all depends on whether it has it at all.
    have hdistinct : (spec.ownedBy handle).Nodup := (ownedBy_sublist spec handle).nodup h.distinct
    rw [h.listed handle entry hentry, hdistinct.count]
    refine if_congr ?_ rfl rfl
    rw [mem_ownedBy h.distinct hcommand, howner]
    unfold Command.isMethod
    rw [howner]
    split
    · simp [eq_comm]
    · simp

theorem ListsMethods.inDocumentOrder (h : spec.ListsMethods) {root : Node}
    (hcommands : spec.CommandsFrom (commandElements root)) : spec.InDocumentOrder root := by
  refine ⟨h.distinct, hcommands.names.symm, fun handle entry hentry => ?_⟩
  rw [h.listed handle entry hentry]
  exact ownedBy_sublist spec handle

end Spec

/-- What is known of commands and handles once a registry is read. -/
theorem methods_of_ofRegistry {root : Node} {spec : Spec} (h : Spec.ofRegistry root = .ok spec) :
    spec.ListsMethods ∧ spec.CommandsFrom (commandElements root) := by
  obtain ⟨hchanges, hcommands⟩ := (ofRegistry_reads root).of_ok h
  exact ⟨Changes.listsMethods hchanges, hcommands⟩

end VulkanBindings.Registry
