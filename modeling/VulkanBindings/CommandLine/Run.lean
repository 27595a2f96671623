import VulkanBindings.CommandLine.Platform

/-!
# A run of the program

A run reads the registry, makes the header in memory, writes it, and tells on
the console what it has done, or why it stopped.  Everything that can go wrong
with the registry goes wrong before any file is touched.  The console is told of the
header once it is in its place.
-/

namespace VulkanBindings.CommandLine

open Files (FileFault)
open Registry (Spec)
open Report (Summary WrittenFile)
open Wrapper (Context)
open Xml (DocumentFault)

/-- A reason why a run stops. -/
inductive Stop where
  | refused (refusal : Refusal)
  | file (fault : FileFault)
  | document (fault : DocumentFault)
  | failure (failure : Failure)
  | console (fault : ConsoleFault)

/-- A reason for a run to stop that it does not expect, and so does not tell. -/
inductive Escape where
  /-- Nothing is known under a name. -/
  | missing (name : String)
  | unknownEncoding (name : String)
  | file (fault : FileFault)
  | unset (setting : Setting)
  | arrayTooLong (count : Nat)
  /-- Nothing can be told. -/
  | console (fault : ConsoleFault)
  deriving DecidableEq

namespace Escape

/-- The message for a reason that a run does not tell. -/
def message : Escape → String
  | missing name => s!"no entry for {name}"
  | unknownEncoding name => s!"unknown encoding: {name}"
  | file fault => fault.message
  | unset .registry => "no registry is given"
  | unset .output => "no output is given"
  | unset .includeGuard => "no include guard is given"
  | arrayTooLong count => s!"an array of {count} values is too long"
  | console fault => fault.message

end Escape

namespace Stop

/-- The place of a report about a registry, in parentheses. -/
def location : Option String → String
  | none | some "" => ""
  | some entity => s!" ({entity})"

/-- A line that tells of an error outside the program. -/
def errorLine (message : String) : String :=
  s!"Error: {message}"

/-- A line that tells of an error that the registry is not blamed for. -/
def internalLine (message : String) : String :=
  s!"Internal error: {message}"

/-- The lines that tell why a run stopped, if it tells that. -/
def told : Stop → Except Escape (List String)
  | refused (.config fault) => .ok fault.report.lines
  | refused (.file fault) => .error (.file fault)
  | refused (.unset setting) => .error (.unset setting)
  | file .nulInPath => .ok [internalLine FileFault.nulInPath.message]
  | file .tooDeep => .ok [internalLine FileFault.tooDeep.message]
  | file fault => .ok [errorLine fault.message]
  | document .malformed => .ok [errorLine "not well-formed"]
  | document .tooDeep => .ok [internalLine "maximum recursion depth exceeded"]
  | document (.unusableEncoding reason) => .ok [internalLine reason]
  | document (.unknownEncoding name) => .error (.unknownEncoding name)
  | failure (.registry fault) =>
    let report := fault.report
    .ok [s!"Registry error [{report.code.text}]: {report.message}{location report.entity}"]
  | failure (.deadlock deadlock) => .ok [internalLine deadlock.message]
  | failure (.text fault) => .ok [internalLine fault.message]
  | failure (.notSingle name) => .ok [internalLine s!"{name} has no single backing type"]
  | failure (.arrayTooLong count) => .error (.arrayTooLong count)
  | failure (.missing _ name) => .error (.missing name)
  | console (.refused reason) => .ok [errorLine reason]
  | console (.notEncodable reason) => .ok [internalLine reason]

end Stop

/-- How a run ends. -/
inductive Outcome where
  | finished
  /-- The run has told why it stopped. -/
  | stopped
  /-- The arguments were not understood. -/
  | misused
  | helped
  | escaped (escape : Escape)
  deriving DecidableEq

variable {m : Type → Type} [Monad m] (platform : Platform m)

/-- Shows a line on the console. -/
def printLine (line : String) : ExceptT ConsoleFault m Unit :=
  ExceptT.mk (platform.print (line ++ "\n"))

/-- Shows a line in the middle of a run. -/
def progress (line : String) : ExceptT Stop m Unit :=
  (printLine platform line).adapt Stop.console

/-- A step of a run that only computes. -/
def step {α : Type} (result : Except Failure α) : ExceptT Stop m α :=
  ExceptT.mk (pure (result.mapError Stop.failure))

/-- The registry in the bytes of a file. -/
def registryOf (bytes : ByteArray) : Except Stop Xml.Node := do
  let root ← (platform.document bytes).mapError Stop.document
  let root ← (Registry.requireRegistry root).mapError fun fault => .failure (.registry fault)
  (Xml.requireShallow platform.elementLimit root).mapError Stop.document

/-- What is told about a registry that has been read. -/
def registryLine (spec : Spec) : String :=
  s!"  Registry: {spec.entities.length} entities, {spec.commands.size} commands, " ++
    s!"{spec.tags.size} vendor tags, {Registry.Fault.versionDefine} {spec.version}"

/-- What is told about entities that have been ordered. -/
def sortedLine (count : Nat) : String :=
  s!"  Sorted: {count} entities in dependency order"

/-- What is told about a header that has been written. -/
def writtenLine (file : WrittenFile) : String :=
  s!"  Written: {file.lineCount} lines to {file.path}"

/-- The registry in the file that a configuration names. -/
def loadRegistry (config : Config) : ExceptT Stop m Xml.Node := do
  let bytes ← (ExceptT.mk (platform.files.read config.registry)).adapt Stop.file
  ExceptT.mk (pure (registryOf platform bytes))

/-- What writing the bindings of a registry needs to know, with a line told about
each stage. -/
def prepareRegistry (root : Xml.Node) : ExceptT Stop m Context := do
  let spec ← step (Wrapper.readChecked root)
  progress platform (registryLine spec)
  let entities ← step (monadLift spec.ordered)
  progress platform (sortedLine entities.length)
  step (Wrapper.contextOf spec entities)

/-- Makes and writes the header of a registry. -/
def generate (config : Config) : ExceptT Stop m Unit := do
  progress platform s!"Parsing: {config.registry.text}"
  let root ← loadRegistry platform config
  let context ← prepareRegistry platform root
  let header := Wrapper.configOf context.spec config.includeGuard config.registry.name
  let text ← step (Wrapper.headerText header context)
  let file ← (platform.files.write config.output text).adapt Stop.file
  progress platform (writtenLine file)
  let counts ← step (Report.countEntities context.spec context.entities)
  let summary : Summary := ⟨header.sourceLabel, file.path, counts, file⟩
  (ExceptT.mk (platform.print summary.text)).adapt Stop.console

/-- Checks settings and does what they say. -/
def runSettings (settings : Settings) : ExceptT Stop m Unit := do
  let config ← (settings.validate platform.files).adapt Stop.refused
  generate platform config

/-- Tells why a run stopped. -/
def tell (stop : Stop) : m Outcome := do
  match stop.told with
  | .ok lines =>
    match ← (lines.forM (printLine platform)).run with
    | .ok () => pure .stopped
    | .error fault => pure (.escaped (.console fault))
  | .error escape => pure (.escaped escape)

/-- Runs the program with the given arguments. -/
def run (arguments : List String) : m Outcome := do
  match request platform.arguments arguments with
  | .misuse => pure .misused
  | .help => pure .helped
  | .run settings =>
    match ← (runSettings platform settings).run with
    | .ok () => pure .finished
    | .error stop => tell platform stop

end VulkanBindings.CommandLine
