import VulkanBindings.Wrapper.Context
import VulkanBindings.Wrapper.NativeCall

/-!
# The signature of the enhanced overload

Counts and the returned output are no parameters of the enhanced overload.  Of
the other parameters, arrays become array proxies, texts become strings, and
pointers become references, optional ones if they may be null.  A parameter may
be left out by the caller when it and all that follow it have a default value.
-/

namespace VulkanBindings.Wrapper

open Analysis (Analyzed Position argument)
open Naming (reduced)
open Registry (Member Spec voidType)

/-! ## Parameters -/

/-- How the enhanced overload takes a parameter. -/
inductive ParameterForm where
  | text
  | optionalText
  | array (element : String)
  | value (type arraySize : String)
  | reference (target : String)
  | optionalReference (target : String)
  deriving DecidableEq

/-- A parameter of the enhanced overload, and the default value that it could
have. -/
structure Parameter where
  form : ParameterForm
  name : String
  default : Option String
  deriving DecidableEq

namespace Parameter

/-- The declaration of a parameter without a default value. -/
def declaration (parameter : Parameter) : String :=
  let name := parameter.name
  match parameter.form with
  | .text => s!"const std::string & {name}"
  | .optionalText => s!"Optional<const std::string> {name}"
  | .array element => s!"ArrayProxy<{element}> {name}"
  | .value type arraySize => s!"{type} {name}{brackets arraySize}"
  | .reference target => s!"{target} & {name}"
  | .optionalReference target => s!"Optional<{target}> {name}"

/-- The parameter as it is written. -/
def rendered (parameter : Parameter) : String :=
  match parameter.default with
  | some text => s!"{parameter.declaration} = {text}"
  | none => parameter.declaration

/-- The parameters with those defaults left that no parameter without one
follows. -/
def settleDefaults : List Parameter → List Parameter
  | [] => []
  | parameter :: rest =>
    let kept := if rest.all (·.default.isSome) then parameter.default else none
    { parameter with default := kept } :: settleDefaults rest

end Parameter

/-- What a type points to: its text before the first asterisk.  Of a type
without one, the last character is dropped. -/
def target (type : String) : String :=
  match Text.cut? "*" type with
  | some (before, _) => Text.trimEnd before
  | none => Text.trimEnd (String.ofList type.toList.dropLast)

/-- The form of an array parameter, with its default.  A text whose length is
symbolic may be absent. -/
def arrayParameter (member : Member) (isBuffer symbolic : Bool) : Parameter :=
  let name := reduced member.name
  if member.isText then
    if member.optional && symbolic then ⟨.optionalText, name, some "nullptr"⟩
    else ⟨.text, name, none⟩
  else if isBuffer then
    ⟨.array (if member.mentionsConst then "const T" else "T"), name, none⟩
  else
    ⟨.array (target member.type), name, none⟩

/-- The form of a parameter that is a pointer, with its default. -/
def pointerParameter (member : Member) : Parameter :=
  let name := reduced member.name
  if member.isText && member.mentionsConst then
    if member.optional then ⟨.optionalText, name, some "nullptr"⟩ else ⟨.text, name, none⟩
  else if member.optional then ⟨.optionalReference (target member.type), name, some "nullptr"⟩
  else ⟨.reference (target member.type), name, none⟩

/-- The default of a type of flags without any bit to set. -/
def emptyFlags? (spec : Spec) (type : String) : Except Failure (Option String) := do
  if spec.flags.contains type then
    match spec.enums.get? (← spec.backing type) with
    | some enumeration =>
      pure (if enumeration.members.isEmpty then some s!"{type}()" else none)
    | none => pure none
  else
    pure none

/-- The form of a parameter by value.  Only the last parameter of all has a
default: flags that have no bits. -/
def valueParameter (spec : Spec) (member : Member) (isLast : Bool) : Except Failure Parameter := do
  let default ← if isLast then emptyFlags? spec member.baseType else pure none
  pure ⟨.value member.type member.arraySize, reduced member.name, default⟩

variable (spec : Spec) (analyzed : Analyzed)

/-- The positions that are parameters of the enhanced overload. -/
def keptPositions : List (Position analyzed.command) :=
  (ownPositions analyzed.command).filter fun position =>
    (analyzed.roles.counts.lookup position).isNone && analyzed.roles.output != some position

/-- The parameter of the enhanced overload at a position. -/
def parameterAt (position : Position analyzed.command) : Except Failure Parameter :=
  let member := argument position
  match analyzed.roles.arrays.lookup position with
  | some count =>
    .ok (arrayParameter member (analyzed.roles.buffer = some position) count.isNone)
  | none =>
    if member.hasStar then .ok (pointerParameter member)
    else valueParameter spec member ((keptPositions analyzed).getLast? = some position)

/-! ## Whole signatures -/

/-- A type parameter of the enhanced overload. -/
inductive TemplateParameter where
  /-- The element type of a buffer. -/
  | element
  /-- The allocator of a returned vector. -/
  | allocator (element : String)
  deriving DecidableEq

namespace TemplateParameter

/-- The line that declares a type parameter. -/
def line : TemplateParameter → String
  | element => "template <typename T>"
  | allocator type => s!"template <typename Allocator = std::allocator<{type}>>"

end TemplateParameter

/-- The type that the enhanced overload is declared with. -/
inductive DeclaredType where
  /-- The value, or an exception in place of any failure. -/
  | unlessFailed (value : String)
  /-- The value and the result code. -/
  | withResult (value : String)
  | plain (type : String)
  deriving DecidableEq

namespace DeclaredType

/-- How a declared type is written. -/
def text : DeclaredType → String
  | unlessFailed value => s!"ResultValueType<{value}>::type"
  | withResult value => s!"ResultValue<{value}>"
  | plain type => type

end DeclaredType

/-- The signature of an enhanced overload. -/
structure Signature where
  template : Option TemplateParameter
  /-- The word in front of the type. -/
  specifier : String
  declared : DeclaredType
  name : String
  parameters : List Parameter
  isMethod : Bool

namespace Signature

/-- The lines of a signature: two when it has a type parameter. -/
def lines (signature : Signature) (indent : String) : List String :=
  let parameters := parenthesized (signature.parameters.map Parameter.rendered)
  let qualifier := if signature.isMethod then " const" else ""
  (signature.template.toList.map fun template => indent ++ template.line) ++
    [s!"{indent}{signature.specifier}{signature.declared.text} " ++
      s!"{signature.name}{parameters}{qualifier}"]

end Signature

/-- The characters of the return type that stand before the element of a
vector. -/
def vectorStart : String := "std::vector<"

/-- The element of the vector that a return type names.  The type has to have a
comma after it. -/
def allocatedElement (type : String) : Except Text.Fault String :=
  match Text.cut? "," type with
  | some (before, _) => .ok (String.ofList (before.toList.drop vectorStart.length))
  | none => .error .commaAbsent

/-- Whether the enhanced overload returns something other than the result code
in place of it. -/
def replacesResult : Bool :=
  returnsOutput analyzed && !analyzed.command.returnsVoid

/-- The type parameter of the enhanced overload. -/
def templateOf : Except Text.Fault (Option TemplateParameter) :=
  if declaresElement analyzed then
    .ok (some .element)
  else if Text.occurs "Allocator" (returnType analyzed) then
    (allocatedElement (returnType analyzed)).map fun element => some (.allocator element)
  else
    .ok none

/-- The word in front of the declared type: a type that depends on the allocator
is announced as a type, and a function without a template is inline. -/
def specifierOf (template : Option TemplateParameter) : String :=
  match template with
  | some .element => ""
  | some (.allocator _) => if replacesResult analyzed then "typename " else ""
  | none => if analyzed.command.isMethod then "" else "inline "

/-- The type that the enhanced overload is declared with. -/
def declaredOf : DeclaredType :=
  if replacesResult analyzed then
    .unlessFailed (returnType analyzed)
  else
    match analyzed.roles.output with
    | some output =>
      if analyzed.command.successCodes.length > 1 then .withResult (argument output).baseType
      else .plain (returnType analyzed)
    | none => .plain (returnType analyzed)

/-- The signature of the enhanced overload of a command. -/
def signatureOf (functionName : String) : Except Failure Signature := do
  let template ← templateOf analyzed
  let parameters ← (keptPositions analyzed).mapM (parameterAt spec analyzed)
  pure
    { template
      specifier := specifierOf analyzed template
      declared := declaredOf analyzed
      name := functionName
      parameters := Parameter.settleDefaults parameters
      isMethod := analyzed.command.isMethod }

end VulkanBindings.Wrapper
