import VulkanBindings.Registry.Member

/-!
# Commands

A command of the native interface, and the known defects of its entry in the
registry.
-/

namespace VulkanBindings.Registry

open Naming (lowerFirst)

/-- A command. -/
structure Command where
  returnType : String
  arguments : List Member
  /-- The enumerators of the results that count as success. -/
  successCodes : List String
  /-- The macro under which the command exists, or nothing. -/
  guard : String
  /-- The handle that the command is a method of, if it is one. -/
  owner : Option String
  /-- Whether the command is called once for a count and once for the data. -/
  twoStep : Bool
  deriving DecidableEq

/-- The enumerator of plain success. -/
def success : String := "eSuccess"

/-- The enumerator of a result that did not fit. -/
def incomplete : String := "eIncomplete"

/-- The enum of result codes. -/
def resultEnum : String := "Result"

/-- The type without values. -/
def voidType : String := "void"

namespace Command

/-- Whether the command returns a result code. -/
def returnsResult (command : Command) : Bool :=
  command.returnType == resultEnum

/-- Whether the command returns nothing. -/
def returnsVoid (command : Command) : Bool :=
  command.returnType == voidType

/-- Whether the command is a method of a handle. -/
def isMethod (command : Command) : Bool :=
  command.owner.isSome

/-- The command with the defects of its entry mended: the entry of one command
lists no result codes, that of another does not mark its count. -/
def mended (name : String) (command : Command) : Command :=
  if name == "createDebugReportCallbackEXT" then { command with successCodes := [success] }
  else if name == "getImageSparseMemoryRequirements" then { command with twoStep := true }
  else command

/-- The name of a command's wrapper.  A method drops the name of its handle, and
a method of a command buffer the word for recording. -/
def wrapperName (name : String) (command : Command) : String :=
  match command.owner with
  | none => name
  | some handle =>
    match (Text.cut? handle name).or (cutLowered? handle) with
    | some (before, rest) => if before.isEmpty then lowerFirst rest else before ++ rest
    | none =>
      match Text.Chars.after? "cmd".toList name.toList with
      | some rest =>
        if handle == "CommandBuffer" then lowerFirst (String.ofList rest) else name
      | none => name
where
  /-- The parts of the name around the handle in lower case; as many characters
  as the handle has are left out. -/
  cutLowered? (handle : String) : Option (String × String) :=
    (Text.cut? (lowerFirst handle) name).map fun (before, _) =>
      (before, String.ofList (name.toList.drop (before.length + handle.length)))

end Command

end VulkanBindings.Registry
