import VulkanBindings.Files.FileSystem

/-!
# File trees

A file system in memory: directories and files by their place in the tree, and
the place of the working directory.  It stands in for the file system of a
machine, so that what a run does with files can be looked at as a value.
-/

namespace VulkanBindings.Files

/-- What can be at a place. -/
inductive Entry where
  | directory
  | file (bytes : ByteArray)

namespace Entry

/-- Whether an entry is a directory. -/
def isDirectory : Entry → Bool
  | directory => true
  | file _ => false

end Entry

/-- A place in a tree. -/
structure Place where
  /-- The number of names.  Places of different depth are told apart by it, with
  no look at their names. -/
  depth : Nat
  /-- The names from the last one up to the one below the root. -/
  ascending : List String
  depth_eq : depth = ascending.length
  /-- A step to the parent directory is no name of a place. -/
  plain : Path.up ∉ ascending
  deriving DecidableEq

namespace Place

/-- The place of the root. -/
def root : Place :=
  ⟨0, [], rfl, List.not_mem_nil⟩

/-- The place of the directory that a place is in; the root is in itself. -/
def parent (place : Place) : Place :=
  ⟨place.depth - 1, place.ascending.tail, by simp [place.depth_eq],
   fun hup => place.plain (List.mem_of_mem_tail hup)⟩

/-- The place that a name leads to from a directory. -/
def child (place : Place) (name : String) : Place :=
  if hup : name = Path.up then
    place.parent
  else
    ⟨place.depth + 1, name :: place.ascending, by simp [place.depth_eq], by
      simp [place.plain, Ne.symm hup]⟩

/-- The names from the root down to a place. -/
def names (place : Place) : List String :=
  place.ascending.reverse

/-- The names from a directory down to a place below it. -/
def namesBelow? (directory place : Place) : Option (List String) :=
  if place.names.take directory.depth = directory.names then
    some (place.names.drop directory.depth)
  else
    none

/-- The place that names lead to from a directory, in whatever tree. -/
def follow (place : Place) (names : List String) : Place :=
  names.foldl child place

end Place

/-- Directories and files in memory.  The root is always a directory. -/
structure FileTree where
  entries : List (Place × Entry)
  working : Place

namespace FileTree

/-- The most bytes that a name may have. -/
def nameLimit : Nat := 255

/-- The most bytes that the text of a path may have. -/
def pathLimit : Nat := 4095

/-- The first entry of a place in a list of entries. -/
def firstAt? (place : Place) : List (Place × Entry) → Option Entry
  | [] => none
  | (other, entry) :: rest =>
    if other.depth == place.depth && other == place then some entry else firstAt? place rest

/-- Comparing the depths first changes nothing about what is found. -/
theorem firstAt?_eq_lookup (place : Place) (entries : List (Place × Entry)) :
    firstAt? place entries = entries.lookup place := by
  induction entries with
  | nil => rfl
  | cons row rest ih =>
    obtain ⟨other, entry⟩ := row
    by_cases same : other = place
    · simp [firstAt?, same]
    · have apart : (place == other) = false := by simpa using Ne.symm same
      simp [firstAt?, List.lookup_cons, same, apart, ih]

/-- What is at a place. -/
def entry? (tree : FileTree) (place : Place) : Option Entry :=
  if place.depth = 0 then some .directory else firstAt? place tree.entries

/-- The tree with an entry at a place. -/
def put (tree : FileTree) (place : Place) (entry : Entry) : FileTree :=
  { tree with entries := (place, entry) :: tree.entries.filter (·.1 != place) }

/-- The tree with nothing at a place. -/
def drop (tree : FileTree) (place : Place) : FileTree :=
  { tree with entries := tree.entries.filter (·.1 != place) }

/-- Refuses a place that is not a directory. -/
def requireDirectory (tree : FileTree) (place : Place) : Except FileFault Unit :=
  match tree.entry? place with
  | some .directory => .ok ()
  | some (.file _) => .error .notADirectory
  | none => .error .missing

/-- The place that names lead to; all but the last have to lead to directories. -/
def placeFrom (tree : FileTree) (place : Place) : List String → Except FileFault Place
  | [] => .ok place
  | name :: names => do
    tree.requireDirectory place
    if name.utf8ByteSize > nameLimit then
      throw .nameTooLong
    else
      placeFrom tree (place.child name) names

/-- Where a path starts. -/
def startOf (tree : FileTree) (path : Path) : Place :=
  if path.root.isEmpty then tree.working else Place.root

/-- The place of a path. -/
def placeOf (tree : FileTree) (path : Path) : Except FileFault Place :=
  let text := path.text
  if '\x00' ∈ text.toList then
    .error .nulInPath
  else if text.utf8ByteSize > pathLimit then
    .error .nameTooLong
  else
    tree.placeFrom (tree.startOf path) path.names

/-- What is at a path. -/
def lookup (tree : FileTree) (path : Path) : Except FileFault (Option Entry) :=
  match tree.placeOf path with
  | .ok place => .ok (tree.entry? place)
  | .error fault => if fault.meansAbsence then .ok none else .error fault

/-- The bytes of the file at a path. -/
def read (tree : FileTree) (path : Path) : Except FileFault ByteArray := do
  match tree.entry? (← tree.placeOf path) with
  | some (.file bytes) => pure bytes
  | some .directory => throw .isADirectory
  | none => throw .missing

/-- The tree with one more directory. -/
def makeDirectory (tree : FileTree) (path : Path) : Except FileFault FileTree := do
  let place ← tree.placeOf path
  match tree.entry? place with
  | some _ => throw .alreadyPresent
  | none => pure (tree.put place .directory)

/-- The absolute path of a path, whether something is there or not. -/
def resolve (tree : FileTree) (path : Path) : Path :=
  ⟨"/", ((tree.startOf path).follow path.names).names⟩

/-- A name for a file that is to take another name later. -/
def temporaryName (name : String) (number : Nat) : String :=
  "." ++ name ++ "." ++ toString (10000000 + number) ++ ".tmp"

/-- An absolute path at which nothing is, in the directory of another path. -/
def freeBeside (tree : FileTree) (path : Path) : Path :=
  let directory := tree.resolve path.parent
  let candidate (number : Nat) := directory.child (temporaryName path.name number)
  let isFree (number : Nat) :=
    match tree.lookup (candidate number) with
    | .ok (some _) => false
    | _ => true
  candidate (((List.range (tree.entries.length + 1)).find? isFree).getD 0)

/-- The tree with a new file beside a path, and the path of the file. -/
def createBeside (tree : FileTree) (path : Path) : Except FileFault (Path × FileTree) := do
  let temporary := tree.freeBeside path
  let place ← tree.placeOf temporary
  match tree.entry? place with
  | some _ => throw .alreadyPresent
  | none => pure (temporary, tree.put place (.file .empty))

/-- The tree with other content in the file at a path. -/
def fill (tree : FileTree) (path : Path) (bytes : ByteArray) : Except FileFault FileTree := do
  let place ← tree.placeOf path
  match tree.entry? place with
  | some (.file _) => pure (tree.put place (.file bytes))
  | some .directory => throw .isADirectory
  | none => throw .missing

/-- The tree with a file moved to another place. -/
def move (tree : FileTree) (source target : Path) : Except FileFault FileTree := do
  let sourcePlace ← tree.placeOf source
  let targetPlace ← tree.placeOf target
  match tree.entry? sourcePlace, tree.entry? targetPlace with
  | _, some .directory => throw .isADirectory
  | some entry, _ => pure ((tree.drop sourcePlace).put targetPlace entry)
  | none, _ => throw .missing

/-- The tree without the file at a path. -/
def remove (tree : FileTree) (path : Path) : Except FileFault FileTree := do
  let place ← tree.placeOf path
  match tree.entry? place with
  | some (.file _) => pure (tree.drop place)
  | some .directory => throw .isADirectory
  | none => throw .missing

/-- The files of the working directory and below, by their path from there. -/
def files (tree : FileTree) : List (String × ByteArray) :=
  tree.entries.filterMap fun (place, entry) =>
    match entry with
    | .directory => none
    | .file bytes =>
      (tree.working.namesBelow? place).map fun names => ("/".intercalate names, bytes)

end FileTree

/-- A tree of files and what has been shown on the console. -/
structure World where
  tree : FileTree
  console : String

namespace World

/-- An operation that may change the tree. -/
def change {α : Type} (operation : FileTree → Except FileFault (α × FileTree)) :
    StateM World (Except FileFault α) := fun world =>
  match operation world.tree with
  | .ok (result, tree) => (.ok result, { world with tree := tree })
  | .error fault => (.error fault, world)

/-- An operation that has no result but the tree that it leaves. -/
def changeOnly (operation : FileTree → Except FileFault FileTree) :
    StateM World (Except FileFault Unit) :=
  change fun tree => (operation tree).map ((), ·)

/-- The file system of a tree in memory.  A file has its content as soon as it is filled. -/
def fileSystem (directoryLimit : Nat) : FileSystem (StateM World) where
  isPresent path := do pure (((← get).tree.lookup path).map Option.isSome)
  isDirectory path := do pure (((← get).tree.lookup path).map (·.any Entry.isDirectory))
  read path := do pure ((← get).tree.read path)
  makeDirectory path := changeOnly (·.makeDirectory path)
  createBeside path := change (·.createBeside path)
  fill path bytes := changeOnly (·.fill path bytes)
  close _ := pure (.ok ())
  move source target := changeOnly (·.move source target)
  remove path := changeOnly (·.remove path)
  resolve path := do pure (.ok ((← get).tree.resolve path))
  directoryLimit

/-- Shows a text on the console, which takes every text. -/
def print (text : String) : StateM World Unit :=
  modify fun world => { world with console := world.console ++ text }

end World

end VulkanBindings.Files
