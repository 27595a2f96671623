import VulkanBindings.Proofs.Registry.Consistent

/-!
# Commands in the order of the document

A registry declares its commands by elements of its own.  The table of commands
follows these elements one by one, and every entry says which handle the command
is a method of: the type of its first parameter, if that is a handle.

Both are stated by `Spec.CommandsFrom`, for the elements that have been read so
far.  The second holds at the end as well as when a command is entered, because
all handles are known before the first command is read, and none is added later.
-/

namespace VulkanBindings.Registry

open Xml (Node)

/-- The name of the command that an element declares. -/
def declaredName? (node : Node) : Option String := do
  let prototype ← node.children.head?
  let child ← prototype.find? "name"
  pure (Naming.commandName child.text)

/-- The elements of a section that declare a command. -/
def declarationsIn (node : Node) : List Node :=
  node.children.filter (·.tag == "command")

/-- The elements of a registry that declare a command, in the order of the document. -/
def commandElements (root : Node) : List Node :=
  (root.children.filter (·.tag == "commands")).flatMap declarationsIn

/-- The entry of the command has no known defect. -/
def Command.Faultless (name : String) : Prop :=
  ∀ command, Command.mended name command = command

/-- The change that an element makes which declares a command.  The command has no guard yet,
and the result codes that the element lists. -/
inductive CommandChange (node : Node) (spec : Spec) : Spec → Prop where
  | declare {name : String} (command : Command) (hname : declaredName? node = some name)
    (hnew : spec.hasEntity name = false) (harguments : command.arguments ≠ [])
    (howner : command.owner = ownerOf? spec command.arguments) (hguard : command.guard = "")
    (hcodes : Command.Faultless name → successCodesOf node spec.tags = .ok command.successCodes) :
    CommandChange node spec (spec.withCommand name command)

theorem CommandChange.change {node : Node} {spec later : Spec}
    (h : CommandChange node spec later) : Change spec later := by
  cases h with
  | declare command _ hnew harguments howner _ _ => exact .command command hnew harguments howner

namespace Spec

variable {spec later : Spec} {name : String}

theorem commands_withCommand (command : Command) :
    (spec.withCommand name command).commands = spec.commands.set name command := by
  unfold withCommand
  split <;> rfl

/-- A command brings no handle along. -/
theorem contains_handles_withCommand (command : Command) (handle : String) :
    (spec.withCommand name command).handles.contains handle = spec.handles.contains handle := by
  unfold withCommand
  split
  · exact Table.contains_modify
  · rfl

/-- The owner of a command depends on the names of the handles alone. -/
theorem ownerOf?_congr (h : ∀ name, later.handles.contains name = spec.handles.contains name)
    (arguments : List Member) : ownerOf? later arguments = ownerOf? spec arguments := by
  cases arguments with
  | nil => rfl
  | cons first rest =>
    show (if later.handles.contains first.baseType then some first.baseType else none) = _
    rw [h]
    rfl

/-- Every command is a method of the handle that its first parameter is, if it is one. -/
def OwnersKnown (spec : Spec) : Prop :=
  ∀ name command, spec.commands.get? name = some command →
    command.owner = ownerOf? spec command.arguments

/-- A change that adds no handle leaves every owner as it is. -/
theorem OwnersKnown.change (h : spec.OwnersKnown) (hchange : Change spec later)
    (hhandles : ∀ name, later.handles.contains name = spec.handles.contains name) :
    later.OwnersKnown := by
  intro other entry hget
  rw [ownerOf?_congr hhandles]
  cases hchange with
  | @command name command hnew harguments howner =>
    rw [commands_withCommand, Table.get?_set] at hget
    split at hget
    · obtain rfl := Option.some.inj hget
      exact howner
    · exact h other entry hget
  | guardCommand name guard =>
    rw [Table.get?_modify] at hget
    split at hget
    · obtain ⟨old, hold, rfl⟩ := Option.map_eq_some_iff.1 hget
      exact h other old hold
    · exact h other entry hget
  | notes | outside | scalar | enum | flags | handle | aggregate | guardEnum | guardFlags
  | guardScalar | guardAggregate | guardHandle | guardBits | contribute => exact h other entry hget

/-- The commands of the spec are those that the elements declare, in their order. -/
structure CommandsFrom (spec : Spec) (elements : List Node) : Prop where
  names : spec.commands.keys.map some = elements.map declaredName?
  owners : spec.OwnersKnown

/-- Before the first command is read, no element has been. -/
theorem CommandsFrom.of_early (h : EarlyChanges .initial spec) : spec.CommandsFrom [] where
  names := by
    rw [h.commands_eq]
    rfl
  owners := by
    intro name command hget
    rw [h.commands_eq] at hget
    cases hget

/-- Reading one more element. -/
theorem CommandsFrom.declare {elements : List Node} {node : Node} (h : spec.CommandsFrom elements)
    (hspec : spec.Consistent) (hchange : CommandChange node spec later) :
    later.CommandsFrom (elements ++ [node]) := by
  have hchange' := hchange.change
  cases hchange with
  | @declare name command hname hnew harguments howner _ _ =>
    refine ⟨?_, h.owners.change hchange' (contains_handles_withCommand command)⟩
    rw [commands_withCommand,
      Table.keys_set_new (not_contains_of_new (hspec.commands name) hnew), List.map_append,
      List.map_append, h.names, List.map_singleton, List.map_singleton, hname]

/-- After the last command is read, no other element is. -/
theorem CommandsFrom.amend {elements : List Node} (h : spec.CommandsFrom elements)
    (hamendment : Amendment spec later) : later.CommandsFrom elements where
  names := by
    rw [hamendment.commands]
    exact h.names
  owners := h.owners.change hamendment.change hamendment.handles

theorem CommandsFrom.amends {elements : List Node} (h : spec.CommandsFrom elements)
    (hamendments : Amendments spec later) : later.CommandsFrom elements := by
  induction hamendments with
  | refl => exact h
  | tail _ hamendment ih => exact ih.amend hamendment

end Spec

end VulkanBindings.Registry
