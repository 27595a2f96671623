import VulkanBindings.Wrapper.NativeCall

/-!
# The body of the enhanced overload

The body checks what the caller passed, declares what the native command fills,
calls it, and turns its result into the returned value.  A command that is
asked for a count first is called twice, and again as long as what it has to say
grows in between.

`bodyOf` is the body as a list of statements and `bodyLines` its text.
-/

namespace VulkanBindings.Wrapper

open Analysis (Analyzed Position argument)
open Naming (reduced)
open Registry (voidType)

/-- The length of a vector that is filled by the native command. -/
inductive LengthExpression where
  /-- As many as another array has. -/
  | sizeOf (array : String)
  /-- What a member of a struct says. -/
  | member (path : String)
  deriving DecidableEq

namespace LengthExpression

/-- How a length is written. -/
def text : LengthExpression → String
  | sizeOf array => s!"{array}.size()"
  | member path => path

end LengthExpression

/-- The call that ends a wrapper of a command with a result code: it throws or
returns, with the value where there is one, and with the codes that are no
failure where there are several. -/
structure Answer where
  value : Option String
  caller : String
  codes : Option (List String)
  deriving DecidableEq

namespace Answer

/-- How an answer is written. -/
def text (answer : Answer) : String :=
  let codes := answer.codes.map fun codes =>
    braced (", ".intercalate (codes.map fun code => s!"Result::{code}"))
  let values := ["result"] ++ answer.value.toList ++ ["\"" ++ answer.caller ++ "\""] ++ codes.toList
  "createResultValue( " ++ ", ".intercalate values ++ " )"

end Answer

/-- A statement of the body of an enhanced overload. -/
inductive Statement where
  /-- The size of the caller's elements has to be a multiple of that of a type. -/
  | checkElement (type : String)
  /-- Two arrays have to be of one length. -/
  | checkLengths (caller left right : String)
  | declare (type name : String) (length : Option LengthExpression)
  | declareStatus
  | call (made : NativeCall)
  | returnCall (made : NativeCall)
  /-- A call whose result code is kept, in a new variable or in the old one. -/
  | keepStatus (declares : Bool) (made : NativeCall)
  | resize (array count : String)
  /-- What is done after a success that announced some elements. -/
  | whenCounted (count : String) (body : List Statement)
  /-- What is repeated as long as the result is incomplete. -/
  | whileIncomplete (body : List Statement)
  | answer (given : Answer)
  | returnLocal (name : String)

namespace Statement

/-- The lines that check that two arrays are of one length. -/
def lengthCheckLines (indent caller left right : String) : List String :=
  [s!"#ifdef {Switch.noExceptions}",
   s!"{indent}assert( {left}.size() == {right}.size() );",
   "#else",
   s!"{indent}if ( {left}.size() != {right}.size() )",
   indent ++ openBrace,
   s!"{indent}  throw std::logic_error( \"{caller}: {left}.size() != {right}.size()\" );",
   indent ++ closeBrace,
   s!"#endif  // {Switch.noExceptions}"]

/-- The line of a declaration. -/
def declarationLine (indent type name : String) : Option LengthExpression → String
  | some length => s!"{indent}{type} {name}( {length.text} );"
  | none => s!"{indent}{type} {name};"

mutual

/-- The lines of a statement. -/
def lines (indent : String) : Statement → List String
  | checkElement type =>
    [s!"{indent}static_assert( sizeof( T ) % sizeof( {type} ) == 0, " ++
      "\"wrong size of template type T\" );"]
  | checkLengths caller left right => lengthCheckLines indent caller left right
  | declare type name length => [declarationLine indent type name length]
  | declareStatus => [s!"{indent}Result result;"]
  | call made => [s!"{indent}{made.text};"]
  | returnCall made => [s!"{indent}return {made.text};"]
  | keepStatus declares made =>
    [indent ++ (if declares then "Result " else "") ++
      s!"result = static_cast<Result>( {made.text} );"]
  | resize array count => [s!"{indent}{array}.resize( {count} );"]
  | whenCounted count body =>
    [s!"{indent}if ( ( result == Result::{Registry.success} ) && {count} )",
     indent ++ openBrace] ++ linesOfAll (indent ++ "  ") body ++ [indent ++ closeBrace]
  | whileIncomplete body =>
    [s!"{indent}do", indent ++ openBrace] ++ linesOfAll (indent ++ "  ") body ++
      [indent ++ closeBrace ++ s!" while ( result == Result::{Registry.incomplete} );"]
  | answer given => [s!"{indent}return {given.text};"]
  | returnLocal name => [s!"{indent}return {name};"]

/-- The lines of a list of statements. -/
def linesOfAll (indent : String) : List Statement → List String
  | [] => []
  | first :: rest => lines indent first ++ linesOfAll indent rest

end

end Statement

variable (wrapped : NameSet) (analyzed : Analyzed)

/-! ## Checks -/

/-- The check of the element type that the caller chose. -/
def elementChecks : List Statement :=
  match analyzed.roles.buffer with
  | some buffer =>
    let type := (argument buffer).baseType
    if declaresElement analyzed && type != voidType then [.checkElement type] else []
  | none => []

/-- The arrays that the caller passes, with their counts. -/
def countedInputs : List (Position analyzed.command × Position analyzed.command) :=
  analyzed.roles.arrays.filterMap fun (array, count) =>
    if analyzed.roles.output = some array then none else count.map (array, ·)

/-- The checks that each array is as long as every later one with its count. -/
def lengthChecks (caller : String) :
    List (Position analyzed.command × Position analyzed.command) → List Statement
  | [] => []
  | (array, count) :: later =>
    (later.filter (·.2 = count)).map (fun (other, _) =>
      .checkLengths caller (reduced (argument array).name) (reduced (argument other).name)) ++
    lengthChecks caller later

/-! ## Locals -/

/-- The length that a returned vector is made with: that of an array which the
caller passes with the same count, or the member of a struct that its length
names. -/
def vectorLength (output : Position analyzed.command)
    (count : Option (Position analyzed.command)) : Except Registry.Fault LengthExpression :=
  let member := argument output
  match count with
  | none =>
    match Text.cut? "->" (reduced member.length) with
    | some (before, after) => .ok (.member (before ++ "." ++ after))
    | none => .error (.unsizedOutput analyzed.name member.name member.length)
  | some count =>
    match analyzed.roles.arrays.find? fun (array, other) => array ≠ output ∧ other = some count with
    | some (array, _) => .ok (.sizeOf (reduced (argument array).name))
    | none => .error (.unsharedCount analyzed.name member.name)

/-- The declaration of the local that the native command fills, when there is
one. -/
def outputDeclaration : Except Registry.Fault (List Statement) :=
  match analyzed.roles.output with
  | none => .ok []
  | some output =>
    let member := argument output
    let name := reduced member.name
    if returnsOutput analyzed then
      match analyzed.roles.arrays.lookup output with
      | some count =>
        if analyzed.command.twoStep then .ok [.declare (returnType analyzed) name none]
        else do
          pure [.declare (returnType analyzed) name (some (← vectorLength analyzed output count))]
      | none => .ok [.declare (returnType analyzed) name none]
    else if analyzed.command.successCodes.length > 1 then
      .ok [.declare member.baseType name none]
    else
      .ok []

/-- The name of the local that the native command fills. -/
def outputName : String :=
  match analyzed.roles.output with
  | some output => reduced (argument output).name
  | none => ""

/-- The parameter that the first of two calls finds out. -/
def queriedCount : Except Registry.Fault (Position analyzed.command) :=
  let count := analyzed.roles.output.bind fun output =>
    (analyzed.roles.arrays.lookup output).bind id
  match count with
  | some count => .ok count
  | none => .error (.twoStepWithoutCount analyzed.name)

/-! ## Calls -/

/-- The statements that make the only call of a command. -/
def singleCall : List Statement :=
  let call := enhancedCall wrapped analyzed .query
  if analyzed.command.returnsResult then [.keepStatus true call]
  else if analyzed.command.returnsVoid then [.call call]
  else [.returnCall call]

/-- The statements that ask for a count and then for the data. -/
def twoCalls (count : String) : List Statement :=
  let query := enhancedCall wrapped analyzed .query
  let fill := enhancedCall wrapped analyzed .fill
  let output := outputName analyzed
  if analyzed.command.returnsResult then
    let rest := Statement.whenCounted count [.resize output count, .keepStatus false fill]
    if analyzed.command.successCodes.length > 1 then
      [.declareStatus, .whileIncomplete [.keepStatus false query, rest]]
    else
      [.keepStatus true query, rest]
  else
    let first := if analyzed.command.returnsVoid then Statement.call query else .returnCall query
    [first, .resize output count, .call fill]

/-! ## The returned value -/

/-- What the wrapper of a command with a result code answers. -/
def answerOf (caller : String) : Answer :=
  let command := analyzed.command
  { value := analyzed.roles.output.map fun output => reduced (argument output).name
    caller
    codes := if command.successCodes.length > 1 && !command.twoStep then some command.successCodes
      else none }

/-- The statements that return from the wrapper. -/
def returnStatements (caller : String) : List Statement :=
  if analyzed.command.returnsResult then [.answer (answerOf analyzed caller)]
  else if analyzed.roles.output.isSome && returnsOutput analyzed then
    [.returnLocal (outputName analyzed)]
  else []

/-- The body of the enhanced overload of a command.  `caller` is the name that
its messages give. -/
def bodyOf (caller : String) : Except Registry.Fault (List Statement) := do
  let checks := elementChecks analyzed ++ lengthChecks analyzed caller (countedInputs analyzed)
  let output ← outputDeclaration analyzed
  let calls ←
    if analyzed.command.twoStep then do
      let count := argument (← queriedCount analyzed)
      let name := reduced count.name
      pure (Statement.declare count.baseType name none :: twoCalls wrapped analyzed name)
    else
      pure (singleCall wrapped analyzed)
  pure (checks ++ output ++ calls ++ returnStatements analyzed caller)

/-- The name of a wrapper with its class, if it has one, and its namespace. -/
def qualifiedName (className functionName : String) : String :=
  "vk::" ++ (if className.isEmpty then "" else className ++ "::") ++ functionName

/-- The lines of the body of the enhanced overload of a command. -/
def bodyLines (className functionName indent : String) : Except Registry.Fault (List String) := do
  let body ← bodyOf wrapped analyzed (qualifiedName className functionName)
  pure ([indent ++ openBrace] ++ Statement.linesOfAll (indent ++ "  ") body ++
    [indent ++ closeBrace])

end VulkanBindings.Wrapper
