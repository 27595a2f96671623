import VulkanBindings.Registry.Code

/-!
# What can be wrong with a registry

`Fault` lists every cause for which a registry is refused, while it is read,
while the parameters of its commands are analyzed, or while its bindings are
written.  `Fault.report` is the wording of each cause: its code, its message
and the entity that it concerns.
-/

namespace VulkanBindings.Registry

open Text (quoted)

/-- Where the content of a member or parameter leaves its grammar. -/
inductive MemberFault where
  | unexpectedQualifier (qualifier : String)
  | unexpectedSuffix (pointers : String)
  | missing (tag : String)
  | expected (tag : String)
  | unreadableArraySize
  | contentAfterName
  deriving DecidableEq

namespace MemberFault

/-- What is said about the place where the grammar is left. -/
def detail : MemberFault → String
  | unexpectedQualifier qualifier => s!"unexpected qualifier {quoted qualifier}"
  | unexpectedSuffix pointers => s!"unexpected pointer suffix {quoted pointers}"
  | missing tag => s!"missing <{tag}>"
  | expected tag => s!"expected <{tag}>"
  | unreadableArraySize => "unreadable array size"
  | contentAfterName => "unexpected content after the name"

end MemberFault

/-- A reason why a registry is refused. -/
inductive Fault where
  | notARegistry (tag : String)
  | unknownSection (tag : String)
  | repeatedComment
  | unknownElement (tag parent : String) (entity : Option String)
  | missingAttribute (tag label : String) (entity : Option String)
  | missingChild (tag child : String) (entity : Option String)
  | commentWithoutRule
  | unknownCategory (category : String) (entity : Option String)
  | duplicateEntity (name : String)
  | bitmaskWithoutFlags (name : String)
  | versionWithoutValue
  | handleDefineWithoutCondition
  | callbackWithoutName
  | handleNotDeclared (name : String)
  | invalidReturnedOnly (value name : String)
  | malformedMember (tag : String) (entity : Option String) (fault : MemberFault)
  | enumWithoutFlagBits (name : String)
  | invalidEnumType (kind name : String)
  | tagAbsent (rawName tag : String)
  | commandWithoutPrototype
  | commandWithoutParameters (name : String)
  | extensionWithoutTag (name : String)
  | unknownTag (extension tag : String)
  | unknownCommand (name : String)
  | unknownEnum (name : String)
  | unknownType (name : String)
  | noResultEnum
  | noHeaderVersion
  | noHandleDefine
  | unresolvedLength (command length argument : String)
  | noDataSize (command : String)
  | secondOutput (command later output : String)
  | bufferWithoutLength (command argument : String)
  | noDefault (type member : String)
  | unsizedOutput (command argument length : String)
  | unsharedCount (command argument : String)
  | twoStepWithoutCount (command : String)
  deriving DecidableEq

namespace Fault

/-- The define that holds the version of the registry. -/
def versionDefine : String := "VK_HEADER_VERSION"

/-- The define under which handles are distinct pointer types. -/
def handleDefine : String := "VK_DEFINE_NON_DISPATCHABLE_HANDLE"

/-- The entity of a fault as a message names it. -/
def shown : Option String → String
  | some entity => entity
  | none => "None"

/-- The report that a fault is shown as. -/
def report : Fault → Report
  | notARegistry tag =>
    ⟨.notARegistry, s!"Root element is <{tag}>, expected <registry>", none⟩
  | unknownSection tag => ⟨.unknownSection, s!"Unknown top-level section <{tag}>", none⟩
  | repeatedComment => ⟨.duplicateSection, "Registry has more than one <comment>", none⟩
  | unknownElement tag parent entity =>
    ⟨.unknownElement, s!"Unexpected <{tag}> inside <{parent}>", entity⟩
  | missingAttribute tag label entity =>
    ⟨.missingAttribute, s!"<{tag}> is missing required attribute '" ++ label ++ "'", entity⟩
  | missingChild tag child entity =>
    ⟨.missingElement, s!"<{tag}> has no <{child}> child", entity⟩
  | commentWithoutRule =>
    ⟨.malformedComment, "Registry comment has no horizontal rule after the license text", none⟩
  | unknownCategory category entity =>
    ⟨.unknownCategory, s!"Unknown type category {quoted category}", entity⟩
  | duplicateEntity name => ⟨.duplicateEntity, s!"{name} is defined more than once", name⟩
  | bitmaskWithoutFlags name =>
    ⟨.invalidName, s!"Bitmask type {quoted name} has no 'Flags' in its name", name⟩
  | versionWithoutValue => ⟨.malformedType, s!"{versionDefine} has no value", versionDefine⟩
  | handleDefineWithoutCondition =>
    ⟨.malformedType, s!"{handleDefine} has no preprocessor condition", handleDefine⟩
  | callbackWithoutName => ⟨.missingElement, "funcpointer type has no leading <name>", none⟩
  | handleNotDeclared name =>
    ⟨.malformedType, s!"Handle {name} is not declared through VK_DEFINE_*", name⟩
  | invalidReturnedOnly value name =>
    ⟨.invalidAttribute, s!"returnedonly={quoted value} on {name}", name⟩
  | malformedMember tag entity fault =>
    ⟨.malformedMember, s!"<{tag}> {shown entity}: {fault.detail}", entity⟩
  | enumWithoutFlagBits name =>
    ⟨.invalidName, s!"Bitmask enum {name} has no 'FlagBits'", name⟩
  | invalidEnumType kind name =>
    ⟨.invalidAttribute, s!"Enum {name} has type={quoted kind}", name⟩
  | tagAbsent rawName tag =>
    ⟨.invalidName, s!"Enumerator {rawName} does not carry tag {tag}", rawName⟩
  | commandWithoutPrototype =>
    ⟨.missingElement, "<command> does not start with <proto>", none⟩
  | commandWithoutParameters name =>
    ⟨.missingElement, s!"Command {name} has no parameters", name⟩
  | extensionWithoutTag name =>
    ⟨.invalidName, s!"Extension name {quoted name} has no vendor tag", name⟩
  | unknownTag extension tag =>
    ⟨.unknownTag, s!"Extension {extension} uses unknown tag {tag}", extension⟩
  | unknownCommand name =>
    ⟨.unknownEntity, s!"Extension requires unknown command {name}", name⟩
  | unknownEnum name => ⟨.unknownEntity, s!"Extension extends unknown enum {name}", name⟩
  | unknownType name => ⟨.unknownEntity, s!"Extension requires unknown type {name}", name⟩
  | noResultEnum => ⟨.missingMetadata, "Registry defines no VkResult enum", none⟩
  | noHeaderVersion => ⟨.missingMetadata, s!"Registry defines no {versionDefine}", none⟩
  | noHandleDefine => ⟨.missingMetadata, s!"Registry defines no {handleDefine}", none⟩
  | unresolvedLength command length argument =>
    ⟨.unresolvedLen, s!"{command}: len={quoted length} of {argument} names no parameter", command⟩
  | noDataSize command =>
    ⟨.unresolvedLen, s!"{command}: parameter 3 is not dataSize", command⟩
  | secondOutput command later output =>
    ⟨.invalidOutputParameter,
     s!"{command}: {later} is a second non-const pointer after the output {output}", command⟩
  | bufferWithoutLength command argument =>
    ⟨.invalidTemplateParameter, s!"{command}: {argument} has no len", command⟩
  | noDefault type member =>
    ⟨.unknownEntity, s!"No default value for member type {type}", member⟩
  | unsizedOutput command argument length =>
    ⟨.unresolvedLen, s!"{command}: cannot size output {argument} from len={quoted length}",
     command⟩
  | unsharedCount command argument =>
    ⟨.unresolvedLen, s!"{command}: no input array shares the count of output {argument}", command⟩
  | twoStepWithoutCount command =>
    ⟨.invalidOutputParameter, s!"{command}: two-step command without a counted output array",
     command⟩

end Fault

end VulkanBindings.Registry
