import VulkanBindings.Registry.Sections

/-!
# Roles of parameters

What each parameter of a command is for: arrays and the counts that give their
lengths, the output that becomes the returned value, and the buffer whose
element type is left to the caller.  Positions are positions of the command's
own parameters, so that none of them is out of range.
-/

namespace VulkanBindings.Analysis

open Registry (Command Fault Member Spec)

/-- A position among the parameters of a command. -/
abbrev Position (command : Command) := Fin command.arguments.length

/-- The arrays of a command, in order, each with the position of its count, or
with none if its length is no parameter. -/
abbrev Arrays (command : Command) := List (Position command × Option (Position command))

/-- The counts of a command, each with the first array that it counts. -/
abbrev Counts (command : Command) := List (Position command × Position command)

/-- The roles of a command's parameters. -/
structure Roles (command : Command) where
  arrays : Arrays command
  counts : Counts command
  /-- The output that the bindings return. -/
  output : Option (Position command)
  /-- The buffer whose elements may have any type. -/
  buffer : Option (Position command)
  /-- Whether some parameter is a pointer of one level. -/
  hasPointers : Bool

variable {command : Command}

/-- The parameter at a position. -/
def argument (position : Position command) : Member :=
  command.arguments[position]

/-- All positions, in order. -/
def allPositions (command : Command) : List (Position command) :=
  List.finRange command.arguments.length

/-! ## Arrays -/

/-- The lengths that give the size in bytes of data counted in words. -/
def halvedLengths : List String :=
  ["dataSize/4", "latexmath:[$dataSize \\over 4$]"]

/-- The lengths that are no parameter: a text ends with its terminator, two
counts are members of a struct, and some are counted in words. -/
def symbolicLengths : List String :=
  halvedLengths ++
    ["pAllocateInfo->descriptorSetCount", "pAllocateInfo->commandBufferCount", "null-terminated"]

/-- What the length of a parameter makes of it: no array, an array with a count,
or an array whose length is symbolic. -/
def arrayAt (name : String) (position : Position command) :
    Except Fault (Option (Option (Position command))) :=
  let length := (argument position).length
  if length.isEmpty then
    .ok none
  else
    match command.arguments.findFinIdx? (·.name == length) with
    | some count => .ok (some (some count))
    | none =>
      if symbolicLengths.contains length then .ok (some none)
      else .error (.unresolvedLength name length (argument position).name)

/-- The arrays of a command. -/
def arraysOf (name : String) (command : Command) : Except Fault (Arrays command) := do
  let found ← (allPositions command).mapM fun position => do
    pure ((← arrayAt name position).map (position, ·))
  pure (found.filterMap id)

/-- Whether a position is that of an array. -/
def isArray (arrays : Arrays command) (position : Position command) : Bool :=
  (arrays.lookup position).isSome

/-- The positions that arrays give as their count. -/
def countPositions (arrays : Arrays command) : List (Position command) :=
  arrays.filterMap (·.2)

/-! ## Counts -/

/-- The counts with one more, unless its position is already a count. -/
def noteCount (counts : Counts command) (count array : Position command) : Counts command :=
  if (counts.lookup count).isSome then counts else counts ++ [(count, array)]

/-- The position of the size of data that is counted in words. -/
def dataSizePosition : Nat := 3

/-- The name of that size. -/
def dataSizeName : String := "dataSize"

/-- The position of the size in bytes that goes with data counted in words. -/
def dataSize (name : String) (command : Command) : Except Fault (Position command) :=
  if h : dataSizePosition < command.arguments.length then
    if command.arguments[dataSizePosition].name == dataSizeName then
      .ok ⟨dataSizePosition, h⟩
    else
      .error (.noDataSize name)
  else
    .error (.noDataSize name)

/-- The counts that arrays name, each with the first array that names it. -/
def namedCounts (arrays : Arrays command) : Counts command :=
  arrays.foldl
    (fun counts (array, count) =>
      match count with
      | some count => noteCount counts count array
      | none => counts)
    []

/-- The counts of a command.  A size in bytes also counts the words of the only
array of a command. -/
def countsOf (name : String) (arrays : Arrays command) : Except Fault (Counts command) :=
  match arrays with
  | [(array, _)] =>
    if halvedLengths.contains (argument array).length then do
      pure (noteCount (namedCounts arrays) (← dataSize name command) array)
    else
      .ok (namedCounts arrays)
  | _ => .ok (namedCounts arrays)

/-! ## The output -/

/-- Whether a parameter can be written through. -/
def isWritable (member : Member) : Bool :=
  member.hasStar && !member.mentionsConst

/-- Whether the bindings can return what is written through a parameter: it is
no count, and if it is an array, its length is known before it is filled. -/
def isOutput (arrays : Arrays command) (position : Position command) : Bool :=
  isWritable (argument position) && !(countPositions arrays).contains position &&
    (!isArray arrays position || command.twoStep || command.successCodes.length == 1)

/-- The output of a command that has nothing else to return.  No parameter after
it can be written through. -/
def outputOf (name : String) (arrays : Arrays command) :
    Except Fault (Option (Position command)) :=
  if !(command.returnsResult || command.returnsVoid) then
    .ok none
  else
    match (allPositions command).find? (isOutput arrays) with
    | none => .ok none
    | some output =>
      let later := (allPositions command).find? fun position =>
        output < position && isWritable (argument position)
      match later with
      | some later => .error (.secondOutput name (argument later).name (argument output).name)
      | none => .ok (some output)

/-! ## The buffer -/

/-- The names of parameters that point to data of any type. -/
def bufferNames : List String := ["pData", "pValues"]

/-- The first buffer of a command, which has to be an array. -/
def bufferOf (name : String) (arrays : Arrays command) :
    Except Fault (Option (Position command)) :=
  match (allPositions command).find? fun position =>
      bufferNames.contains (argument position).name with
  | none => .ok none
  | some buffer =>
    if isArray arrays buffer then .ok (some buffer)
    else .error (.bufferWithoutLength name (argument buffer).name)

/-! ## All roles -/

/-- Whether some parameter is a pointer of one level. -/
def hasPointers (command : Command) : Bool :=
  command.arguments.any fun member => member.stars == 1

/-- The roles of a command's parameters. -/
def rolesOf (name : String) (command : Command) : Except Fault (Roles command) := do
  let arrays ← arraysOf name command
  pure
    { arrays
      counts := ← countsOf name arrays
      output := ← outputOf name arrays
      buffer := ← bufferOf name arrays
      hasPointers := hasPointers command }

/-- A command and the roles of its parameters. -/
structure Analyzed where
  name : String
  command : Command
  roles : Roles command

/-- A command, analyzed. -/
def analyze (name : String) (command : Command) : Except Fault Analyzed := do
  pure ⟨name, command, ← rolesOf name command⟩

/-- All commands of a registry, analyzed in the order of the document. -/
def analyzeAll (spec : Spec) : Except Fault (Table Analyzed) := do
  let rows ← spec.commands.rows.mapM fun (name, command) => do
    pure (name, ← analyze name command)
  pure ⟨rows⟩

end VulkanBindings.Analysis
