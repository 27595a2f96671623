import VulkanBindings.Files.FileSystem
import VulkanBindings.Text.Fault

/-!
# The configuration of a run

A run is told where the registry is, where the header goes, and which macro
guards it.  The registry has to be there, the header must not take the place of
a directory, and the macro has to be an identifier.  Nothing is known of a setting
that is left without a value, so a run does not begin when it gets to one.
-/

namespace VulkanBindings.CommandLine

open Files (FileFault FileSystem Path)
open Text (quoted)

/-- The kinds of defect that a configuration can be reported for. -/
inductive ConfigCode where
  | pathNotFound
  | invalidIncludeGuard
  | invalidOutput
  deriving DecidableEq

namespace ConfigCode

/-- The word for a code in a report. -/
def text : ConfigCode → String
  | pathNotFound => "PATH_NOT_FOUND"
  | invalidIncludeGuard => "INVALID_INCLUDE_GUARD"
  | invalidOutput => "INVALID_OUTPUT"

/-- The code that is written as `text`. -/
def ofText? (text : String) : Option ConfigCode :=
  [pathNotFound, invalidIncludeGuard, invalidOutput].find? (·.text == text)

end ConfigCode

/-- A report about a configuration, ready to be shown. -/
structure ConfigReport where
  code : ConfigCode
  message : String
  /-- What the user may do about it. -/
  suggestion : Option String
  deriving DecidableEq

namespace ConfigReport

/-- The report with these parts, if the code is known. -/
def ofParts (code message : String) (suggestion : Option String) :
    Except Text.Fault ConfigReport :=
  match ConfigCode.ofText? code with
  | some code => .ok ⟨code, message, suggestion⟩
  | none => .error (.unknownConfigCode code)

/-- The lines that show a report. -/
def lines (report : ConfigReport) : List String :=
  s!"Config error [{report.code.text}]: {report.message}" ::
    match report.suggestion with
    | none | some "" => []
    | some suggestion => [s!"Hint: {suggestion}"]

end ConfigReport

/-- A reason why a configuration is refused. -/
inductive ConfigFault where
  /-- An option without a path, and what may be done about it. -/
  | pathNotGiven (option : String) (suggestion : Option String)
  | pathNotPresent (option : String) (path : Path) (suggestion : Option String)
  | guardNotIdentifier (guard : String)
  | outputIsDirectory (path : Path)

namespace ConfigFault

/-- A suggestion, or another one if there is none or it is empty. -/
def suggestionOr (default : String) : Option String → String
  | none | some "" => default
  | some suggestion => suggestion

/-- The report that a fault is shown as. -/
def report : ConfigFault → ConfigReport
  | pathNotGiven option suggestion =>
    ⟨.pathNotFound, s!"{option} is required: no path provided.",
     suggestionOr s!"Pass the path explicitly: {option} /path/to/resource" suggestion⟩
  | pathNotPresent option path suggestion =>
    ⟨.pathNotFound, s!"Path for {option} does not exist: {path.text}",
     suggestionOr "Provide an existing path for this flag." suggestion⟩
  | guardNotIdentifier guard =>
    ⟨.invalidIncludeGuard, s!"Invalid include guard macro: {quoted guard}",
     some "Use a C identifier, for example VK_CPP_H_."⟩
  | outputIsDirectory path =>
    ⟨.invalidOutput, s!"--output names a directory: {path.text}",
     some "Pass the path of the header file to write, for example vulkan/vk_cpp.hpp."⟩

end ConfigFault

/-- What a run is told. -/
structure Config where
  registry : Path
  output : Path
  includeGuard : String

/-- The parts of a configuration. -/
inductive Setting where
  | registry
  | output
  | includeGuard
  deriving DecidableEq

/-- What a run is told, where a setting may be left without a value. -/
structure Settings where
  registry : Option Path
  output : Option Path
  includeGuard : Option String

/-- Whether a character can begin an identifier. -/
def isIdentifierStart (c : Char) : Bool :=
  c.isAlpha || c == '_'

/-- Whether a text is an identifier of ASCII letters, digits and underscores. -/
def isIdentifier : List Char → Bool
  | c :: rest => isIdentifierStart c && rest.all fun c => isIdentifierStart c || c.isDigit
  | [] => false

/-- The text without a single newline at its end. -/
def withoutNewline (text : List Char) : List Char :=
  if text.getLast? = some '\n' then text.dropLast else text

/-- Refuses a macro that is not an identifier; a newline after it is not
minded. -/
def requireIncludeGuard (guard : String) : Except ConfigFault String :=
  if isIdentifier (withoutNewline guard.toList) then .ok guard
  else .error (.guardNotIdentifier guard)

/-- A reason why a run does not begin. -/
inductive Refusal where
  | config (fault : ConfigFault)
  /-- What is at a path could not be found out. -/
  | file (fault : FileFault)
  /-- A setting without a value. -/
  | unset (setting : Setting)

variable {m : Type → Type} [Monad m] (files : FileSystem m)

/-- Refuses a path at which nothing is. -/
def requirePresent (path : Option Path) (option : String) (suggestion : Option String) :
    ExceptT Refusal m Path := do
  match path with
  | none => throw (.config (.pathNotGiven option suggestion))
  | some path =>
    match ← files.isPresent path with
    | .ok true => pure path
    | .ok false => throw (.config (.pathNotPresent option path suggestion))
    | .error fault => throw (.file fault)

/-- Refuses a path at which a directory is. -/
def requireNoDirectory (path : Path) : ExceptT Refusal m Path := do
  match ← files.isDirectory path with
  | .ok true => throw (.config (.outputIsDirectory path))
  | .ok false => pure path
  | .error fault => throw (.file fault)

/-- Refuses a setting without a value. -/
def requireSet {α : Type} (setting : Setting) : Option α → ExceptT Refusal m α
  | some value => pure value
  | none => throw (.unset setting)

/-- The configuration that settings make up, if a run can go on with it. -/
def Settings.validate (settings : Settings) : ExceptT Refusal m Config := do
  let registry ← requireSet .registry settings.registry
  let registry ← requirePresent files (some registry) "--vk-xml"
    (some "Point --vk-xml at the registry, for example Vulkan-Docs/src/spec/vk.xml.")
  let output ← requireSet .output settings.output
  let output ← requireNoDirectory files output
  let includeGuard ← requireSet .includeGuard settings.includeGuard
  let includeGuard ← (ExceptT.mk (pure (requireIncludeGuard includeGuard))).adapt .config
  pure { registry, output, includeGuard }

end VulkanBindings.CommandLine
