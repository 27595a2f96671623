import VulkanBindings.Registry.Spec

/-!
# The commands section

A command whose first parameter is a handle becomes a method of that handle,
and the handle then needs whatever the command needs, itself left out.
-/

namespace VulkanBindings.Registry

open Naming (commandName typeName)
open Xml (Node)

/-- How the attribute of a parameter marks a count that is asked for first. -/
def twoStepOptional : String := "false,true"

/-- The enumerators of the result codes that a command lists. -/
def successCodesOf (node : Node) (tags : NameSet) : Except Text.Fault (List String) :=
  match node.attribute? "successcodes" with
  | none | some "" => .ok []
  | some codes => (Text.fields ',' codes).mapM (Naming.successCode tags)

/-- The parameters read so far, the names that they need, and whether one of
them is a count that is asked for first. -/
structure Parameters where
  arguments : List Member
  needs : NameSet
  twoStep : Bool

/-- Reads the parameters of a command from the elements after its prototype. -/
def readParameters (node : Node) (children : List Node) (needs : NameSet) :
    Except Fault Parameters :=
  children.foldlM
    (fun read child => do
      if child.tag == "param" then
        let (member, needs) ← Member.read child read.needs
        let twoStep := child.attribute? "optional" == some twoStepOptional
        pure ⟨read.arguments ++ [member], needs, read.twoStep || twoStep⟩
      else if child.tag == "implicitexternsyncparams" || child.tag == "validity" then
        pure read
      else
        throw (unexpectedChild node child))
    ⟨[], needs, false⟩

/-- The handle that a command with these parameters is a method of. -/
def ownerOf? (spec : Spec) (arguments : List Member) : Option String :=
  match arguments with
  | first :: _ => if spec.handles.contains first.baseType then some first.baseType else none
  | [] => none

/-- The spec in which a handle has one more method, with all that it needs. -/
def giveMethod (spec : Spec) (handle name : String) (needs : NameSet) : Spec :=
  let handles := spec.handles.modify handle fun entry =>
    { entry with commands := entry.commands ++ [name] }
  { spec with handles := handles }.addNeeds handle (needs.erase handle)

/-- Reads a command. -/
def readCommand (node : Node) (spec : Spec) : Except Failure Spec := do
  let (prototype, children) ←
    match node.children with
    | first :: rest =>
      if first.tag == "proto" then pure (first, rest)
      else throw (.registry .commandWithoutPrototype)
    | [] => throw (.registry .commandWithoutPrototype)
  let returnType := typeName (← requireChild prototype "type").text
  let name := commandName (← requireChild prototype "name").text
  spec.requireNew name
  let successCodes ← successCodesOf node spec.tags
  let parameters ← readParameters node children (NameSet.ofList [returnType])
  if parameters.arguments.isEmpty then
    throw (.registry (.commandWithoutParameters name))
  let owner := ownerOf? spec parameters.arguments
  let command := Command.mended name
    { returnType, successCodes, owner
      arguments := parameters.arguments
      guard := ""
      twoStep := parameters.twoStep }
  let spec := spec.withEntity .command name parameters.needs
  let spec := { spec with commands := spec.commands.set name command }
  match owner with
  | some handle => pure (giveMethod spec handle name parameters.needs)
  | none => pure spec

/-- Reads the commands section. -/
def readCommands (node : Node) (spec : Spec) : Except Failure Spec :=
  node.children.foldlM
    (fun spec child =>
      if child.tag == "comment" then .ok spec
      else if child.tag == "command" then readCommand child spec
      else .error (.registry (unexpectedChild node child)))
    spec

end VulkanBindings.Registry
