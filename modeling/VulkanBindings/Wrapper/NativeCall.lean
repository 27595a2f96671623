import VulkanBindings.Wrapper.Lines
import VulkanBindings.Wrapper.ReturnType

/-!
# Calls of native commands

A wrapper passes one value for each parameter of the native command.  A value
says what is passed; `PassedValue.text` is how that is written.  The standard
overload passes its own parameters on, the enhanced one has changed their types
and hands out their addresses, sizes and data.
-/

namespace VulkanBindings.Wrapper

open Analysis (Analyzed Position allPositions argument)
open Naming (nativeCommand reduced)
open Registry (Command Member)

/-- A value that is passed to a native command. -/
inductive PassedValue where
  /-- The native handle of the object whose method makes the call. -/
  | ownHandle (handle : String)
  /-- A parameter or a local as it is. -/
  | verbatim (name : String)
  | address (name : String)
  | null
  /-- The number of elements of an array, or of bytes when they are scaled. -/
  | size (array : String) (scaled : Bool)
  | data (array : String)
  /-- The data of an array of another element type. -/
  | dataAs (isConst : Bool) (element array : String)
  /-- The characters of a text. -/
  | characters (text : String)
  /-- The characters of a text that may be absent. -/
  | optionalCharacters (text : String)
  /-- A wrapped value as a native one. -/
  | native (type name : String)
  /-- A pointer to wrapped values as one to native values. -/
  | nativePointer (isConst : Bool) (type name : String)
  /-- The address of a wrapped value as that of a native one. -/
  | nativeAddress (isConst : Bool) (type name : String)
  /-- A wrapped value that may be absent, as a pointer to a native one. -/
  | nativeOptional (isConst : Bool) (type name : String)
  deriving DecidableEq

namespace PassedValue

/-- The qualifier of a pointer's target. -/
def constText (isConst : Bool) : String :=
  if isConst then "const " else ""

/-- How a value is written. -/
def text : PassedValue → String
  | ownHandle handle => handleField handle
  | verbatim name => name
  | address name => s!"&{name}"
  | null => "nullptr"
  | size array scaled => s!"{array}.size()" ++ if scaled then " * sizeof( T )" else ""
  | data array => s!"{array}.data()"
  | dataAs isConst element array =>
    s!"reinterpret_cast<{constText isConst}{element}*>( {array}.data() )"
  | characters name => s!"{name}.c_str()"
  | optionalCharacters name => s!"{name} ? {name}->c_str() : nullptr"
  | native type name => s!"static_cast<Vk{type}>( {name} )"
  | nativePointer isConst type name =>
    s!"reinterpret_cast<{constText isConst}Vk{type}*>( {name} )"
  | nativeAddress isConst type name =>
    s!"reinterpret_cast<{constText isConst}Vk{type}*>( &{name} )"
  | nativeOptional isConst type name =>
    s!"reinterpret_cast<{constText isConst}Vk{type}*>( " ++
      s!"static_cast<{constText isConst}{type}*>( {name} ) )"

end PassedValue

/-- A call of a native command. -/
structure NativeCall where
  function : String
  values : List PassedValue
  deriving DecidableEq

namespace NativeCall

/-- How a call is written. -/
def text (call : NativeCall) : String :=
  call.function ++ parenthesized (call.values.map PassedValue.text)

end NativeCall

/-! ## The call of the standard overload -/

/-- What the standard overload passes for one of its own parameters. -/
def standardValue (wrapped : NameSet) (member : Member) : PassedValue :=
  if member.baseType ∉ wrapped then .verbatim member.name
  else if member.isPointer then .nativePointer member.startsConst member.baseType member.name
  else .native member.baseType member.name

/-- The parameters of a command that its wrapper has too: a method has its
handle at hand. -/
def ownArguments (command : Command) : List Member :=
  if command.isMethod then command.arguments.drop 1 else command.arguments

/-- The value that a method passes for its handle. -/
def ownHandleValue (command : Command) : List PassedValue :=
  command.owner.toList.map .ownHandle

/-- The call that the standard overload makes. -/
def standardCall (wrapped : NameSet) (name : String) (command : Command) : NativeCall :=
  ⟨nativeCommand name,
   ownHandleValue command ++ (ownArguments command).map (standardValue wrapped)⟩

/-! ## The calls of the enhanced overload -/

/-- The two calls of a command that is asked for a count first; every other
command is called once, as in the second. -/
inductive Step where
  | query
  | fill
  deriving DecidableEq

variable (wrapped : NameSet) (analyzed : Analyzed)

/-- What the enhanced overload passes for a count: the address of a local when
the call finds the count out, and else the size of the array that it counts. -/
def countValue (count array : Position analyzed.command) : PassedValue :=
  if analyzed.roles.output = some array && analyzed.command.twoStep then
    .address (reduced (argument count).name)
  else
    .size (reduced (argument array).name)
      (analyzed.roles.buffer = some array && declaresElement analyzed)

/-- What the enhanced overload passes for an array whose length is given by
`count`, or is symbolic. -/
def arrayValue (step : Step) (position : Position analyzed.command)
    (count : Option (Position analyzed.command)) : PassedValue :=
  let member := argument position
  let name := reduced member.name
  if analyzed.roles.output = some position && analyzed.command.twoStep && step = .query then
    .null
  else if member.baseType ∈ wrapped then
    .dataAs member.mentionsConst s!"Vk{member.baseType}" name
  else if analyzed.roles.buffer = some position then
    .dataAs member.mentionsConst member.baseType name
  else if member.isText then
    if member.optional && count.isNone then .optionalCharacters name else .characters name
  else
    .data name

/-- What the enhanced overload passes for a single value of a wrapped type. -/
def wrappedValue (member : Member) : PassedValue :=
  let name := reduced member.name
  if !member.isPointer then .native member.baseType name
  else if member.optional then .nativeOptional member.mentionsConst member.baseType name
  else .nativeAddress member.mentionsConst member.baseType name

/-- What the enhanced overload passes for a single value of any other type. -/
def plainValue (member : Member) : PassedValue :=
  let name := reduced member.name
  if !member.isPointer then .verbatim name
  else if member.isText && member.mentionsConst then
    if member.optional then .optionalCharacters name else .characters name
  else if member.optional then .verbatim name
  else .address name

/-- What the enhanced overload passes for the parameter at a position. -/
def enhancedValue (step : Step) (position : Position analyzed.command) : PassedValue :=
  match analyzed.roles.counts.lookup position, analyzed.roles.arrays.lookup position with
  | some array, _ => countValue analyzed position array
  | none, some count => arrayValue wrapped analyzed step position count
  | none, none =>
    let member := argument position
    if member.baseType ∈ wrapped then wrappedValue member else plainValue member

/-- The positions of the parameters that the wrapper has too. -/
def ownPositions (command : Command) : List (Position command) :=
  if command.isMethod then (allPositions command).drop 1 else allPositions command

/-- A call that the enhanced overload makes. -/
def enhancedCall (step : Step) : NativeCall :=
  ⟨nativeCommand analyzed.name,
   ownHandleValue analyzed.command ++
     (ownPositions analyzed.command).map (enhancedValue wrapped analyzed step)⟩

end VulkanBindings.Wrapper
