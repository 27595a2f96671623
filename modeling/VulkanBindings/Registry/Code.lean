import VulkanBindings.Text.Fault

/-!
# Codes of registry reports

Every report about a registry carries one code of a fixed list.  `ofText?` is
the inverse of `text`.
-/

namespace VulkanBindings.Registry

/-- The kinds of defect that a registry can be reported for. -/
inductive Code where
  | notARegistry
  | unknownSection
  | duplicateSection
  | unknownElement
  | missingAttribute
  | invalidAttribute
  | missingElement
  | malformedMember
  | malformedComment
  | malformedType
  | unknownCategory
  | unknownTag
  | unknownEntity
  | duplicateEntity
  | invalidName
  | unresolvedLen
  | invalidOutputParameter
  | invalidTemplateParameter
  | missingMetadata
  deriving DecidableEq

namespace Code

/-- The word for a code in a report. -/
def text : Code → String
  | notARegistry => "NOT_A_REGISTRY"
  | unknownSection => "UNKNOWN_SECTION"
  | duplicateSection => "DUPLICATE_SECTION"
  | unknownElement => "UNKNOWN_ELEMENT"
  | missingAttribute => "MISSING_ATTRIBUTE"
  | invalidAttribute => "INVALID_ATTRIBUTE"
  | missingElement => "MISSING_ELEMENT"
  | malformedMember => "MALFORMED_MEMBER"
  | malformedComment => "MALFORMED_COMMENT"
  | malformedType => "MALFORMED_TYPE"
  | unknownCategory => "UNKNOWN_CATEGORY"
  | unknownTag => "UNKNOWN_TAG"
  | unknownEntity => "UNKNOWN_ENTITY"
  | duplicateEntity => "DUPLICATE_ENTITY"
  | invalidName => "INVALID_NAME"
  | unresolvedLen => "UNRESOLVED_LEN"
  | invalidOutputParameter => "INVALID_OUTPUT_PARAMETER"
  | invalidTemplateParameter => "INVALID_TEMPLATE_PARAMETER"
  | missingMetadata => "MISSING_METADATA"

/-- All codes. -/
def all : List Code :=
  [notARegistry, unknownSection, duplicateSection, unknownElement, missingAttribute,
   invalidAttribute, missingElement, malformedMember, malformedComment, malformedType,
   unknownCategory, unknownTag, unknownEntity, duplicateEntity, invalidName, unresolvedLen,
   invalidOutputParameter, invalidTemplateParameter, missingMetadata]

/-- The code that is written as `text`. -/
def ofText? (text : String) : Option Code :=
  all.find? (·.text == text)

theorem mem_all (code : Code) : code ∈ all := by
  cases code <;> decide

end Code

/-- A report about a registry, ready to be shown. -/
structure Report where
  code : Code
  message : String
  /-- The entity that the report is about, where it is about one. -/
  entity : Option String
  deriving DecidableEq

namespace Report

/-- The report with these parts, if the code is known. -/
def ofParts (code message : String) (entity : Option String) : Except Text.Fault Report :=
  match Code.ofText? code with
  | some code => .ok ⟨code, message, entity⟩
  | none => .error (.unknownRegistryCode code)

end Report

end VulkanBindings.Registry
