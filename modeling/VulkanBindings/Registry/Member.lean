import VulkanBindings.Naming.Native
import VulkanBindings.Text.Blank
import VulkanBindings.Text.Search
import VulkanBindings.Xml.Node

/-!
# Members and parameters

A member of an aggregate and a parameter of a command have the same content:

    [qualifier] <type> [pointers] <name> [array size]

`Member.ofNode` accepts exactly this grammar, comments left aside.  The type of
a member is kept as the text of its declaration, which the bindings print, next
to the bare name of the type that it is made of.

The file begins with what the readers of all elements have in common: attributes
and children that a registry cannot do without, and the faults for elements that
lack them or stand where they do not belong.
-/

namespace VulkanBindings.Registry

open Text (beginsWith endsWith occurs trim)
open Xml (Content Node)

/-! ## Parts that an element has to have -/

/-- The entity that an element is about, as far as its attributes say. -/
def entityOf (node : Node) : Option String :=
  node.attribute? "name"

/-- The value of an attribute that the element has to have. -/
def requireAttribute (node : Node) (label : String) : Except Fault String :=
  match node.attribute? label with
  | some value => .ok value
  | none => .error (.missingAttribute node.tag label (entityOf node))

/-- The first child of the given tag, which the element has to have. -/
def requireChild (node : Node) (tag : String) : Except Fault Node :=
  match node.find? tag with
  | some child => .ok child
  | none => .error (.missingChild node.tag tag (entityOf node))

/-- The fault of a child that does not belong into its parent. -/
def unexpectedChild (parent child : Node) : Fault :=
  .unknownElement child.tag parent.tag (entityOf parent)

/-! ## Members -/

/-- A member of an aggregate, or a parameter of a command. -/
structure Member where
  /-- The type as it is declared, such as `const Info*`. -/
  type : String
  name : String
  /-- The name of the type without qualifier and pointers. -/
  baseType : String
  /-- What stands between the brackets of an array, or nothing. -/
  arraySize : String
  /-- Which parameter or expression gives the length of an array. -/
  length : String
  optional : Bool
  deriving DecidableEq

/-! ## Types of members -/

/-- A word in front of a type. -/
inductive Qualifier where
  | const
  | struct
  deriving DecidableEq

namespace Qualifier

/-- The word for a qualifier. -/
def text : Qualifier → String
  | const => "const"
  | struct => "struct"

/-- The qualifier that a word stands for. -/
def ofText? (text : String) : Option Qualifier :=
  [const, struct].find? (·.text == text)

end Qualifier

/-- The pointers after a type. -/
inductive Pointers where
  | one
  | two
  | twoConst
  deriving DecidableEq

namespace Pointers

/-- How pointers are written. -/
def text : Pointers → String
  | one => "*"
  | two => "**"
  | twoConst => "* const*"

/-- The pointers that a text stands for. -/
def ofText? (text : String) : Option Pointers :=
  [one, two, twoConst].find? (·.text == text)

end Pointers

/-- The declared form of a type. -/
def declaredType (qualifier : Option Qualifier) (baseType : String)
    (pointers : Option Pointers) : String :=
  let qualified := match qualifier with
    | some qualifier => qualifier.text ++ " " ++ baseType
    | none => baseType
  match pointers with
  | some pointers => qualified ++ pointers.text
  | none => qualified

namespace Member

/-- How many asterisks the type has. -/
def stars (member : Member) : Nat :=
  member.type.toList.count '*'

/-- Whether the type has an asterisk anywhere. -/
def hasStar (member : Member) : Bool :=
  occurs "*" member.type

/-- Whether the type ends with an asterisk. -/
def isPointer (member : Member) : Bool :=
  endsWith "*" member.type

/-- Whether the type mentions `const`. -/
def mentionsConst (member : Member) : Bool :=
  occurs "const" member.type

/-- Whether the type begins with `const`. -/
def startsConst (member : Member) : Bool :=
  beginsWith "const" member.type

/-- Whether the member points to characters. -/
def isText (member : Member) : Bool :=
  member.baseType == "char" && member.stars == 1

/-- The name followed by the brackets of an array. -/
def declarator (member : Member) : String :=
  if member.arraySize.isEmpty then member.name else s!"{member.name}[{member.arraySize}]"

/-- The declaration of the member. -/
def declaration (member : Member) : String :=
  s!"{member.type} {member.declarator}"

/-! ## Reading -/

/-- The parts of an element's content that count: comments do not. -/
def tokens (node : Node) : List Content :=
  node.content.filter fun
    | .element tag _ _ => tag != "comment"
    | .text _ => true

/-- Takes a qualifier off the tokens; a run of text here has to be one. -/
def takeQualifier : List Content → Except MemberFault (Option Qualifier × List Content)
  | .text run :: rest =>
    match Qualifier.ofText? (trim run) with
    | some qualifier => .ok (some qualifier, rest)
    | none => .error (.unexpectedQualifier (trim run))
  | tokens => .ok (none, tokens)

/-- Takes pointers off the tokens; a run of text here has to be some. -/
def takePointers : List Content → Except MemberFault (Option Pointers × List Content)
  | .text run :: rest =>
    match Pointers.ofText? (trim run) with
    | some pointers => .ok (some pointers, rest)
    | none => .error (.unexpectedSuffix (trim run))
  | tokens => .ok (none, tokens)

/-- Takes an element of the given tag off the tokens, and yields its text, which
is not empty. -/
def takeElement (tag : String) : List Content → Except MemberFault (String × List Content)
  | [] => .error (.missing tag)
  | token :: rest =>
    match token.node? with
    | some node =>
      if node.tag == tag && !node.text.isEmpty then .ok (node.text, rest)
      else .error (.expected tag)
    | none => .error (.expected tag)

/-- The text without its first and last character. -/
def inner (text : String) : String :=
  String.ofList (text.toList.drop 1).dropLast

/-- The array size that the tokens after a name make up. -/
def arraySizeOf : List Content → Except MemberFault String
  | [] => .ok ""
  | .text run :: rest =>
    let run := trim run
    if run == "[" then
      match rest with
      | [size, .text close] =>
        match size.node? with
        | some size =>
          if size.tag == "enum" && trim close == "]" then .ok size.text
          else .error .unreadableArraySize
        | none => .error .unreadableArraySize
      | _ => .error .unreadableArraySize
    else if rest.isEmpty && beginsWith "[" run && endsWith "]" run then
      .ok (inner run)
    else
      .error .unreadableArraySize
  | _ => .error .unreadableArraySize

/-- The name and the array size that the text of a name and the tokens after it
make up.  A name that holds its brackets is followed by nothing. -/
def splitName (name : String) (rest : List Content) : Except MemberFault (String × String) :=
  match Text.cut? "[" name with
  | some (before, after) =>
    if endsWith "]" name then
      if rest.isEmpty then .ok (before, String.ofList after.toList.dropLast)
      else .error .contentAfterName
    else
      (arraySizeOf rest).map (name, ·)
  | none => (arraySizeOf rest).map (name, ·)

/-- The parts of a member that its content gives. -/
def ofTokens (tokens : List Content) : Except MemberFault Member := do
  let (qualifier, rest) ← takeQualifier tokens
  let (typeText, rest) ← takeElement "type" rest
  let (pointers, rest) ← takePointers rest
  let (nameText, rest) ← takeElement "name" rest
  let (name, arraySize) ← splitName nameText rest
  let baseType := Naming.typeName typeText
  pure
    { type := declaredType qualifier baseType pointers
      name, baseType, arraySize
      length := ""
      optional := false }

/-- The member that an element declares. -/
def ofNode (node : Node) : Except Fault Member :=
  match ofTokens (tokens node) with
  | .ok member =>
    .ok { member with
      length := (node.attribute? "len").getD ""
      optional := node.attribute? "optional" == some "true" }
  | .error fault => .error (.malformedMember node.tag ((node.find? "name").map Node.text) fault)

/-- The member that an element declares, and `needs` with the type that it is
made of. -/
def read (node : Node) (needs : NameSet) : Except Fault (Member × NameSet) := do
  let member ← ofNode node
  pure (member, needs.insert member.baseType)

end Member

end VulkanBindings.Registry
