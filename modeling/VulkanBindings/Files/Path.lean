import VulkanBindings.Text.Search

/-!
# Paths

A path is a root and the names below it.  Repeated slashes, single dots and a
slash at the end say nothing and are left out; a step to the parent directory is
kept.  The path without a root and names is the working directory.
-/

namespace VulkanBindings.Files

/-- A path in a file system. -/
structure Path where
  /-- The slashes that a path begins with: none, one, or two, which may have a
  meaning of their own. -/
  root : String
  names : List String
  deriving DecidableEq

namespace Path

/-- The step to the parent directory. -/
def up : String := ".."

/-- The root of a path that begins with a number of slashes. -/
def rootOf : (slashes : Nat) → String
  | 0 => ""
  | 2 => "//"
  | _ => "/"

/-- The path that a text writes. -/
def ofText (text : String) : Path :=
  ⟨rootOf (text.toList.takeWhile (· == '/')).length,
   (Text.fields '/' text).filter fun name => !name.isEmpty && name != "."⟩

/-- The text of a path. -/
def text (path : Path) : String :=
  if path.names.isEmpty then
    if path.root.isEmpty then "." else path.root
  else
    path.root ++ "/".intercalate path.names

/-- The last name of a path. -/
def name (path : Path) : String :=
  path.names.getLast?.getD ""

/-- The path of the directory that a path is in. -/
def parent (path : Path) : Path :=
  { path with names := path.names.dropLast }

/-- The path of a name in the directory at a path. -/
def child (path : Path) (name : String) : Path :=
  { path with names := path.names ++ [name] }

end Path

end VulkanBindings.Files
