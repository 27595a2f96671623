import VulkanBindings.Files.Path
import VulkanBindings.Report.Summary

/-!
# Files

What a run does with files, over any file system that offers a few operations.
A file is written next to its place and then moved there, so that its place
never holds a part of it.
-/

namespace VulkanBindings.Files

open Report (WrittenFile)

/-- A reason why an operation on files fails. -/
inductive FileFault where
  | missing
  | notADirectory
  | isADirectory
  | alreadyPresent
  | nameTooLong
  /-- A NUL character in a path, which no name may have. -/
  | nulInPath
  /-- More directories in one another are missing than are made at once. -/
  | tooDeep
  /-- A reason that the system gives in words. -/
  | refused (reason : String)
  deriving DecidableEq

namespace FileFault

/-- The message for a fault. -/
def message : FileFault → String
  | missing => "no such file or directory"
  | notADirectory => "not a directory"
  | isADirectory => "is a directory"
  | alreadyPresent => "file exists"
  | nameTooLong => "file name too long"
  | nulInPath => "embedded null byte"
  | tooDeep => "maximum recursion depth exceeded"
  | refused reason => reason

/-- Whether a fault only means that nothing can be at a path. -/
def meansAbsence : FileFault → Bool
  | missing | notADirectory | nulInPath => true
  | _ => false

/-- Whether it is the system that gives a fault.  The others are found before the system
is asked. -/
def isOfSystem : FileFault → Bool
  | nulInPath | tooDeep => false
  | _ => true

end FileFault

/-- The operations of a file system.  Every one of them may fail. -/
structure FileSystem (m : Type → Type) where
  /-- Whether something is at a path. -/
  isPresent : Path → m (Except FileFault Bool)
  isDirectory : Path → m (Except FileFault Bool)
  read : Path → m (Except FileFault ByteArray)
  /-- Makes a directory in one that is present. -/
  makeDirectory : Path → m (Except FileFault Unit)
  /-- Makes a new file without content in the directory of a path, under a name of its
  own, and opens it. -/
  createBeside : Path → m (Except FileFault Path)
  /-- Gives an open file its content, which may be held back until it is closed.  A fault
  may leave a part of it. -/
  fill : Path → ByteArray → m (Except FileFault Unit)
  /-- Closes an open file, after what is held back of its content has been stored. -/
  close : Path → m (Except FileFault Unit)
  /-- Moves a file to another path, in place of any file that is there. -/
  move : (source target : Path) → m (Except FileFault Unit)
  remove : Path → m (Except FileFault Unit)
  /-- The absolute path of a path. -/
  resolve : Path → m (Except FileFault Path)
  /-- The most directories in one another that are made at once. -/
  directoryLimit : Nat

namespace FileSystem

variable {m : Type → Type} [Monad m] (files : FileSystem m)

/-- The result of making a directory, where one that was there before will do. -/
def settleDirectory (path : Path) (result : Except FileFault Unit) : m (Except FileFault Unit) := do
  match result with
  | .ok () => pure (.ok ())
  | .error .missing => pure (.error .missing)
  | .error fault =>
    match ← files.isDirectory path with
    | .ok true => pure (.ok ())
    | .ok false => pure (.error fault)
    | .error fault => pure (.error fault)

/-- Makes the directory whose names are given from the last to the first, and
first those above it where they are missing, at most `limit` in all. -/
def makeDirectoriesBelow (root : String) :
    (limit : Nat) → (reversed : List String) → m (Except FileFault Unit)
  | 0, _ => pure (.error .tooDeep)
  | _, [] => do
    let path : Path := ⟨root, []⟩
    files.settleDirectory path (← files.makeDirectory path)
  | limit + 1, name :: above => do
    let path : Path := ⟨root, (name :: above).reverse⟩
    match ← files.makeDirectory path with
    | .error .missing =>
      match ← makeDirectoriesBelow root limit above with
      | .error fault => pure (.error fault)
      | .ok () => files.settleDirectory path (← files.makeDirectory path)
    | result => files.settleDirectory path result

/-- Makes a directory and those above it, as far as they are missing. -/
def makeDirectories (path : Path) : m (Except FileFault Unit) :=
  files.makeDirectoriesBelow path.root files.directoryLimit path.names.reverse

/-- Fails with a fault, after a temporary file has been removed if the fault is one of the
system.  That the file is gone already is no fault; any other that it cannot be removed
for is the one to fail with. -/
def discard (temporary : Path) (fault : FileFault) : m (Except FileFault Unit) :=
  if fault.isOfSystem then do
    match ← files.remove temporary with
    | .ok () | .error .missing => pure (.error fault)
    | .error other => pure (.error other)
  else
    pure (.error fault)

/-- Gives a temporary file its content and closes it.  A file that cannot be filled is
discarded, but one that cannot be closed stays. -/
def store (temporary : Path) (bytes : ByteArray) : m (Except FileFault Unit) := do
  let filled ← files.fill temporary bytes
  match ← files.close temporary with
  | .error fault => pure (.error fault)
  | .ok () =>
    match filled with
    | .ok () => pure (.ok ())
    | .error fault => files.discard temporary fault

/-- Moves a temporary file to its place, or discards it. -/
def settle (temporary output : Path) : m (Except FileFault Unit) := do
  match ← files.move temporary output with
  | .ok () => pure (.ok ())
  | .error fault => files.discard temporary fault

/-- Writes a text to a file, in place of any file that was there. -/
def write (output : Path) (text : String) : ExceptT FileFault m WrittenFile := do
  ExceptT.mk (files.makeDirectories output.parent)
  let temporary ← ExceptT.mk (files.createBeside output)
  ExceptT.mk (files.store temporary text.toUTF8)
  ExceptT.mk (files.settle temporary output)
  let resolved ← ExceptT.mk (files.resolve output)
  let stored ← ExceptT.mk (files.read resolved)
  pure
    { filename := output.name
      path := resolved.text
      lineCount := text.toList.count '\n'
      byteCount := stored.size }

end FileSystem

end VulkanBindings.Files
