import VulkanBindings.CommandLine.Options
import VulkanBindings.Files.FileTree
import VulkanBindings.Xml.Source

/-!
# Platforms

What a run is given by the machine that it runs on: files, a console, a reader of
documents, and the ways and limits in which machines differ.
-/

namespace VulkanBindings.CommandLine

open Files (FileSystem World)
open Xml (DocumentFault)

/-- A reason why a text is not shown on the console. -/
inductive ConsoleFault where
  /-- The system does not take it, for a reason that it gives in words. -/
  | refused (reason : String)
  /-- The console has no way to write a character of it. -/
  | notEncodable (reason : String)
  deriving DecidableEq

namespace ConsoleFault

/-- The message for a fault. -/
def message : ConsoleFault → String
  | refused reason | notEncodable reason => reason

end ConsoleFault

/-- What a run is given. -/
structure Platform (m : Type → Type) where
  files : FileSystem m
  /-- Shows a text on the console. -/
  print : String → m (Except ConsoleFault Unit)
  /-- The root of a document in the bytes of a file. -/
  document : ByteArray → Except DocumentFault Xml.Node
  arguments : ArgumentRule
  /-- The most elements that are followed into one another. -/
  elementLimit : Nat

/-- The platform of a file tree in memory, with a console that takes every text. -/
def inMemory (arguments : ArgumentRule) (directoryLimit elementLimit : Nat) :
    Platform (StateM World) where
  files := World.fileSystem directoryLimit
  print text := do
    World.print text
    pure (.ok ())
  document := Xml.fileDocument
  arguments
  elementLimit

end VulkanBindings.CommandLine
