import VulkanBindings.Analysis.Roles

/-!
# What a wrapper returns

The enhanced overload of a command returns its output where it has one and the
result code leaves nothing else to tell.  An output that is an array becomes a
vector.
-/

namespace VulkanBindings.Wrapper

open Analysis (Analyzed argument isArray)
open Registry (Command incomplete voidType)

/-- Whether a command's result codes say nothing once failures are exceptions:
there is one code of success, or the other one only asks for another call. -/
def collapses (command : Command) : Bool :=
  command.returnsVoid ||
    (command.returnsResult &&
      match command.successCodes with
      | [_] => true
      | [_, second] => second == incomplete && command.twoStep
      | _ => false)

/-- The type of a vector that is returned. -/
def vectorOf (element : String) : String :=
  s!"std::vector<{element},Allocator>"

/-- The element of a vector over a type; data without a type is bytes. -/
def elementOf (baseType : String) : String :=
  if baseType == voidType then "uint8_t" else baseType

/-- The type without one asterisk at its end. -/
def pointedTo (type : String) : String :=
  if Text.endsWith "*" type then String.ofList type.toList.dropLast else type

/-- The type of the value that the enhanced overload yields when it succeeds. -/
def returnType (analyzed : Analyzed) : String :=
  let command := analyzed.command
  match analyzed.roles.output with
  | some output =>
    if collapses command then
      let member := argument output
      if isArray analyzed.roles.arrays output then vectorOf (elementOf member.baseType)
      else pointedTo member.type
    else
      plain command
  | none => plain command
where
  /-- The type when no output is returned. -/
  plain (command : Command) : String :=
    if command.returnsResult && command.successCodes.length == 1 then voidType
    else command.returnType

/-- Whether the enhanced overload has the element type of its buffer as a type
parameter. -/
def declaresElement (analyzed : Analyzed) : Bool :=
  match analyzed.roles.buffer with
  | some buffer =>
    analyzed.roles.output != some buffer || returnType analyzed == Registry.resultEnum
  | none => false

/-- Whether what the enhanced overload yields differs from what the command
itself returns. -/
def returnsOutput (analyzed : Analyzed) : Bool :=
  returnType analyzed != analyzed.command.returnType

end VulkanBindings.Wrapper
