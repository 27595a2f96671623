import VulkanBindings.CommandLine.Run

/-!
# The program

The file system of the machine behind the operations that a run needs, and the
exit code for each way in which a run ends.
-/

namespace VulkanBindings

open CommandLine (ArgumentRule ConsoleFault Outcome Platform)
open Files (FileFault FileSystem Path)

/-- The fault that an error of the machine stands for. -/
def faultOf : IO.Error → FileFault
  | .noFileOrDirectory .. => .missing
  | .inappropriateType .. => .notADirectory
  | error => .refused (toString error)

/-- The result of an action, with the machine's errors as faults. -/
def attempt {α : Type} (action : IO α) : IO (Except FileFault α) := do
  try
    pure (.ok (← action))
  catch error =>
    pure (.error (faultOf error))

/-- Whether an action finds what it looks for. -/
def finds {α : Type} (action : IO α) : IO (Except FileFault Bool) := do
  match ← attempt action with
  | .ok _ => pure (.ok true)
  | .error fault => pure (if fault.meansAbsence then .ok false else .error fault)

/-- Makes a new file beside a path. -/
def createBeside (path : Path) : IO Path := do
  let number ← IO.rand 10000000 99999999
  let temporary := path.parent.child s!".{path.name}.{number}.tmp"
  let _ ← IO.FS.Handle.mk temporary.text .writeNew
  pure temporary

/-- Gives a file its content. -/
def fill (path : Path) (bytes : ByteArray) : IO Unit :=
  IO.FS.withFile path.text .write fun handle => do
    handle.write bytes
    handle.flush

/-- The file system of the machine.  What fills a file closes it as well. -/
def machineFiles : FileSystem IO where
  isPresent path := finds (IO.FS.realPath path.text)
  isDirectory path := finds (IO.FS.realPath (path.text ++ "/."))
  read path := attempt (IO.FS.readBinFile path.text)
  makeDirectory path := attempt (IO.FS.createDir path.text)
  createBeside path := attempt (createBeside path)
  fill path bytes := attempt (fill path bytes)
  close _ := pure (.ok ())
  move source target := attempt (IO.FS.rename source.text target.text)
  remove path := attempt (IO.FS.removeFile path.text)
  resolve path := attempt do
    pure (Path.ofText (← IO.FS.realPath path.text).toString)
  directoryLimit := 988

/-- Shows a text on the console of the machine. -/
def print (text : String) : IO (Except ConsoleFault Unit) := do
  try
    pure (.ok (← IO.print text))
  catch error =>
    pure (.error (.refused (toString error)))

/-- What the machine gives to a run. -/
def machine : Platform IO where
  files := machineFiles
  print
  document := Xml.fileDocument
  arguments := .later
  elementLimit := 988

/-- How the program is called. -/
def usage : String :=
  "usage: [-h] [--vk-xml VK_XML] [--output OUTPUT] [--include-guard INCLUDE_GUARD]"

/-- The exit code of a run, after what is said about it. -/
def finish : Outcome → IO UInt32
  | .finished => pure 0
  | .stopped => pure 1
  | .misused => do
    IO.eprintln usage
    pure 2
  | .helped => do
    IO.println usage
    pure 0
  | .escaped escape => do
    IO.eprintln escape.message
    pure 1

end VulkanBindings

/-- Runs the program. -/
def main (arguments : List String) : IO UInt32 := do
  VulkanBindings.finish (← VulkanBindings.CommandLine.run VulkanBindings.machine arguments)
