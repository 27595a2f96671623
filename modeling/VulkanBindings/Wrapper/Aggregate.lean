import VulkanBindings.Registry.Spec
import VulkanBindings.Text.Number
import VulkanBindings.Wrapper.Lines

/-!
# Structs and unions

Wrappers with the layout of the native aggregate.  A struct that applications
fill in has a constructor with a default for every member, conversions from the
native struct and a setter for each member; its discriminant is set by itself
and kept private.  A union has a constructor for each of its members.
-/

namespace VulkanBindings.Wrapper

open Registry (Aggregate Fault Member)

/-! ## Default values -/

/-- The default value of the type that a member is made of. -/
def defaultFor (defaults : Table String) (member : Member) : Except Fault String :=
  match defaults.get? member.baseType with
  | some text => .ok text
  | none => .error (.noDefault member.baseType member.name)

/-- The most values that can be counted, which takes sixty-three bits. -/
def arrayLimit : Nat := 0x7FFFFFFFFFFFFFFF

/-- The default value of an array: as many values as its size says, or one if
its size is no number.  A size that cannot be counted to is refused. -/
def arrayDefault (value arraySize : String) : Except Failure String :=
  if Text.isDigits arraySize then do
    let count ← Text.number arraySize
    if count > arrayLimit then
      throw (.arrayTooLong count)
    pure (braced (", ".intercalate (List.replicate count value)))
  else
    pure (braced value)

/-! ## Members -/

/-- The enum of the discriminants of structs. -/
def structureType : String := "StructureType"

/-- Whether a member is the discriminant of its struct. -/
def isDiscriminant (member : Member) : Bool :=
  member.name == "sType" && member.type == structureType

/-- The line that declares a member, with `mark` in front of its type. -/
def memberLine (mark : String) (member : Member) : String :=
  s!"    {mark}{member.declaration};"

/-- The expression that copies an array into a member. -/
def copyArray (member : Member) : String :=
  s!"memcpy( &{member.name}, {member.name}_.data(), " ++
    s!"{member.arraySize} * sizeof( {member.type} ) )"

/-- The expression that sets a member to the parameter named after it. -/
def assignment (member : Member) : String :=
  if member.arraySize.isEmpty then s!"{member.name} = {member.name}_" else copyArray member

/-- The type of a standard array like the member. -/
def arrayType (member : Member) : String :=
  s!"std::array<{member.type},{member.arraySize}>"

/-- The setter of a member. -/
def setterLines (name : String) (member : Member) : List String :=
  let type := if member.arraySize.isEmpty then member.type else arrayType member
  [s!"    {name}& set{Naming.upperFirst member.name}( {type} {member.name}_ )",
   "    \x7b",
   s!"      {assignment member};",
   "      return *this;",
   "    \x7d",
   ""]

/-- The check that a wrapper has the size of what it wraps. -/
def sizeCheckLine (name word : String) : String :=
  s!"  static_assert( sizeof( {name} ) == sizeof( Vk{name} ), " ++
    s!"\"{word} and wrapper have different size!\" );"

/-! ## Structs -/

/-- Whether the constructor of a struct sets a member without being told. -/
def isImplicit (member : Member) : Bool :=
  member.name == "pNext" || member.name == "sType"

/-- The parameter of a struct's constructor for a member. -/
def constructorParameter (defaults : Table String) (member : Member) :
    Except Failure String := do
  let value ← if member.isPointer then pure "nullptr" else defaultFor defaults member
  if member.arraySize.isEmpty then
    pure s!"{member.type} {member.name}_ = {value}"
  else
    let values ← arrayDefault value member.arraySize
    pure s!"{arrayType member} const& {member.name}_ = {values}"

/-- What the constructor of a struct initializes a member with. -/
def initialValue (name : String) (member : Member) : String :=
  if member.name == "pNext" then "nullptr"
  else if isDiscriminant member then s!"{structureType}::{Naming.enumeratorMark}{name}"
  else s!"{member.name}_"

/-- The initializers of a struct's constructor, the first after a colon and each
other after a comma. -/
def initializerLines (name : String) (members : List Member) : List String :=
  (members.filter (·.arraySize.isEmpty)).mapIdx fun index member =>
    let mark := if index == 0 then ":" else ","
    s!"      {mark} {member.name}( {initialValue name member} )"

/-- The conversions of a native struct into its wrapper. -/
def conversionLines (name : String) : List String :=
  [s!"    {name}( Vk{name} const & rhs )",
   "    \x7b",
   s!"      memcpy( this, &rhs, sizeof({name}) );",
   "    \x7d",
   "",
   s!"    {name}& operator=( Vk{name} const & rhs )",
   "    \x7b",
   s!"      memcpy( this, &rhs, sizeof({name}) );",
   "      return *this;",
   "    \x7d",
   ""]

/-- The constructor of a struct and the conversions to it. -/
def constructorLines (defaults : Table String) (name : String) (members : List Member) :
    Except Failure (List String) := do
  let parameters ←
    (members.filter (!isImplicit ·)).mapM (constructorParameter defaults)
  let arrays := members.filter (!·.arraySize.isEmpty)
  pure ([s!"    {name}{parenthesized parameters}"] ++ initializerLines name members ++
    ["    \x7b"] ++ arrays.map (fun member => s!"      {copyArray member};") ++
    ["    \x7d", ""] ++ conversionLines name)

/-- The lines that declare a member of a struct. -/
def structMemberLines (member : Member) : List String :=
  if isDiscriminant member then
    ["  private:", s!"    {structureType} sType;", "", "  public:"]
  else
    [memberLine "" member]

/-- What lets an application fill a struct in: nothing if it only receives it. -/
def fillingLines (defaults : Table String) (name : String) (aggregate : Aggregate) :
    Except Failure (List String) :=
  if aggregate.returnedOnly then
    .ok []
  else do
    let constructor ← constructorLines defaults name aggregate.members
    pure (constructor ++ aggregate.members.flatMap (setterLines name))

/-- The wrapper of a struct. -/
def structLines (defaults : Table String) (name : String) (aggregate : Aggregate) :
    Except Failure (List String) := do
  let filling ← fillingLines defaults name aggregate
  pure (guarded aggregate.guard (
    [s!"  struct {name}", "  \x7b"] ++ filling ++
    [s!"    operator const Vk{name}&() const",
     "    \x7b",
     s!"      return *reinterpret_cast<const Vk{name}*>(this);",
     "    \x7d",
     ""] ++
    aggregate.members.flatMap structMemberLines ++
    ["  \x7d;", sizeCheckLine name "struct"]))

/-! ## Unions -/

/-- The parameter of a union's constructor for a member, without a default. -/
def unionParameter (member : Member) : String :=
  if member.arraySize.isEmpty then s!"{member.type} {member.name}_"
  else s!"const {arrayType member}& {member.name}_"

/-- The default of a union's constructor for its first member. -/
def unionDefault (defaults : Table String) (member : Member) : Except Failure String := do
  let value ← defaultFor defaults member
  if member.arraySize.isEmpty then pure value else arrayDefault value member.arraySize

/-- The constructor of a union for a member. -/
def unionConstructorLines (name parameter : String) (member : Member) : List String :=
  [s!"    {name}( {parameter} )",
   "    \x7b",
   s!"      {assignment member};",
   "    \x7d",
   ""]

/-- The constructors of a union; the first one can be called without a value. -/
def unionConstructors (defaults : Table String) (name : String) :
    List Member → Except Failure (List String)
  | [] => .ok []
  | first :: rest => do
    let value ← unionDefault defaults first
    pure (unionConstructorLines name s!"{unionParameter first} = {value}" first ++
      rest.flatMap fun member => unionConstructorLines name (unionParameter member) member)

/-- The members of a union.  Where unions may not have members with constructors,
wrapped types give way to native ones. -/
def unionMemberLines (wrapped : NameSet) (members : List Member) : List String :=
  let restricted := members.map fun member =>
    memberLine (if member.type ∈ wrapped then Naming.typeStart else "") member
  if members.any fun member => decide (member.type ∈ wrapped) then
    [s!"#ifdef {Switch.unrestrictedUnions}"] ++ members.map (memberLine "") ++ ["#else"] ++
      restricted ++ [s!"#endif  // {Switch.unrestrictedUnions}"]
  else
    restricted

/-- The wrapper of a union. -/
def unionLines (defaults : Table String) (wrapped : NameSet) (name : String)
    (aggregate : Aggregate) : Except Failure (List String) := do
  let constructors ← unionConstructors defaults name aggregate.members
  pure (guarded aggregate.guard (
    [s!"  union {name}", "  \x7b"] ++ constructors ++
    aggregate.members.flatMap (setterLines name) ++
    [s!"    operator Vk{name} const& () const",
     "    \x7b",
     s!"      return *reinterpret_cast<const Vk{name}*>(this);",
     "    \x7d",
     ""] ++
    unionMemberLines wrapped aggregate.members ++
    ["  \x7d;", sizeCheckLine name "union"]))

end VulkanBindings.Wrapper
