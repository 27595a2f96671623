import VulkanBindings.Files.FileSystem
import VulkanBindings.Proofs.Running

/-!
# Reliable file systems

What a run does with files is told in terms of a few operations, any of which may fail.
A `View` is what can be seen of the state of a file system from outside: the places
that paths lead to and the regular files that are there.  `Reliable` says what each
operation does to it, whether it succeeds or fails: a file is moved at once or not at
all, what is reported as stored is stored, and only the named file is touched.  When
an operation fails is left open.

On a reliable file system, writing a file that succeeds replaces it as a whole
(`write_runs`).  Writing that fails changes no file as long as the program is
`Undisturbed` while it is at work on its own file: it can close it, remove it again, and
read it back from its place.  When it is disturbed there, it can leave its new file behind,
or fail after the file has been replaced, and no more than that.
-/

namespace VulkanBindings.Files

variable {σ α : Type}

/-- What can be seen of the states of a file system. -/
structure View (σ : Type) where
  /-- Where a regular file can be. -/
  Location : Type
  /-- The location that a path leads to, if all directories on the way are there. -/
  locate : σ → Path → Option Location
  /-- What is in the regular file at a location, if there is one. -/
  content : σ → Location → Option ByteArray

namespace View

variable (view : View σ)

/-- Nothing that can be seen is different. -/
structure Same (state later : σ) : Prop where
  locate : view.locate later = view.locate state
  content : view.content later = view.content state

/-- The files at all locations but one are the same. -/
def SameElsewhere (location : view.Location) (state later : σ) : Prop :=
  ∀ other, other ≠ location → view.content later other = view.content state other

/-- The file at a path has the given content, and all other files are the same. -/
def Replaced (path : Path) (bytes : ByteArray) (state later : σ) : Prop :=
  ∃ location, view.locate later path = some location ∧
    view.content later location = some bytes ∧ view.SameElsewhere location state later

/-- There is at most one file more, where none was, and all others are the same. -/
def LeftBehind (state later : σ) : Prop :=
  ∃ location, view.content state location = none ∧ view.SameElsewhere location state later

/-- A program that changes no file, whatever its result. -/
def KeepsFiles (program : StateM σ α) : Prop :=
  ∀ state, view.content (program.run state).2 = view.content state

variable {view} {state later last : σ}

theorem Same.refl (state : σ) : view.Same state state := ⟨rfl, rfl⟩

theorem Same.trans (h : view.Same state later) (hnext : view.Same later last) :
    view.Same state last where
  locate := hnext.locate.trans h.locate
  content := hnext.content.trans h.content

theorem SameElsewhere.trans {location : view.Location}
    (h : view.SameElsewhere location state later) (hnext : view.SameElsewhere location later last) :
    view.SameElsewhere location state last :=
  fun other hother => (hnext other hother).trans (h other hother)

theorem SameElsewhere.of_same {location : view.Location}
    (h : view.SameElsewhere location state later) (hafter : view.Same later last) :
    view.SameElsewhere location state last := by
  intro other hother
  rw [hafter.content, h other hother]

/-- What is done before and after a file is replaced, as long as nothing seen changes. -/
theorem Replaced.of_same {path : Path} {bytes : ByteArray} {start done : σ}
    (hbefore : view.Same start state) (h : view.Replaced path bytes state later)
    (hafter : view.Same later done) : view.Replaced path bytes start done := by
  obtain ⟨location, hlocated, hbytes, helsewhere⟩ := h
  refine ⟨location, ?_, ?_, fun other hother => ?_⟩
  · rw [hafter.locate, hlocated]
  · rw [hafter.content, hbytes]
  · rw [hafter.content, helsewhere other hother, hbefore.content]

theorem LeftBehind.of_content_eq {start : σ} (h : view.LeftBehind state later)
    (hstart : view.content state = view.content start) : view.LeftBehind start later := by
  obtain ⟨location, habsent, helsewhere⟩ := h
  rw [hstart] at habsent
  refine ⟨location, habsent, fun other hother => ?_⟩
  rw [helsewhere other hother, hstart]

theorem KeepsFiles.bind {β : Type} {program : StateM σ α} {next : α → StateM σ β}
    (h : view.KeepsFiles program) (hnext : ∀ a, view.KeepsFiles (next a)) :
    view.KeepsFiles (program >>= next) :=
  fun state => (hnext _ _).trans (h state)

theorem keepsFiles_pure (a : α) : view.KeepsFiles (pure a : StateM σ α) := fun _ => rfl

end View

section Reliable

variable (files : FileSystem (StateM σ)) (view : View σ)

/-- An operation on one file leaves it there, and leaves all else as it was. -/
def Touches (operation : Path → StateM σ α) : Prop :=
  ∀ path state location, view.locate state path = some location →
    view.content state location ≠ none →
      view.locate ((operation path).run state).2 = view.locate state ∧
      view.content ((operation path).run state).2 location ≠ none ∧
      view.SameElsewhere location state ((operation path).run state).2

/-- What the operations of a file system do to what can be seen of it. -/
structure Reliable : Prop where
  isPresent : ∀ path state, view.Same state ((files.isPresent path).run state).2
  isDirectory : ∀ path state, view.Same state ((files.isDirectory path).run state).2
  resolve : ∀ path state, view.Same state ((files.resolve path).run state).2
  read : ∀ path state, view.Same state ((files.read path).run state).2
  /-- What is read is what is in the file. -/
  read_ok : ∀ path state bytes, ((files.read path).run state).1 = .ok bytes →
    ∃ location, view.locate state path = some location ∧
      view.content state location = some bytes
  makeDirectory : ∀ path, view.KeepsFiles (files.makeDirectory path)
  createBeside_error : ∀ path state fault, ((files.createBeside path).run state).1 = .error fault →
    view.content ((files.createBeside path).run state).2 = view.content state
  /-- A new file is empty. -/
  createBeside_ok : ∀ path state temporary later,
    (files.createBeside path).run state = (.ok temporary, later) →
      ∃ location, view.locate later temporary = some location ∧
        view.content state location = none ∧ view.content later location = some .empty ∧
        view.SameElsewhere location state later
  /-- A file that cannot be filled is still there, with whatever has got into it. -/
  fill : ∀ bytes, Touches view fun path => files.fill path bytes
  close : Touches view files.close
  /-- What is reported as stored is stored. -/
  close_ok : ∀ path bytes state filled location, view.locate state path = some location →
    view.content state location ≠ none → (files.fill path bytes).run state = (.ok (), filled) →
      ((files.close path).run filled).1 = .ok () →
        view.content ((files.close path).run filled).2 location = some bytes
  /-- A file that cannot be moved stays, and so does what is in its way. -/
  move_error : ∀ source target state fault,
    ((files.move source target).run state).1 = .error fault →
      view.Same state ((files.move source target).run state).2
  /-- A file that is moved takes the place of what is there as a whole. -/
  move_ok : ∀ source target state later location bytes,
    (files.move source target).run state = (.ok (), later) →
      view.locate state source = some location → view.content state location = some bytes →
        view.locate later = view.locate state ∧ ∃ place, view.locate state target = some place ∧
          view.content later place = some bytes ∧
          (location ≠ place → view.content later location = none) ∧
          ∀ other, other ≠ location → other ≠ place →
            view.content later other = view.content state other
  remove_error : ∀ path state fault, ((files.remove path).run state).1 = .error fault →
    view.Same state ((files.remove path).run state).2
  remove_ok : ∀ path state location, view.locate state path = some location →
    ((files.remove path).run state).1 = .ok () →
      view.content ((files.remove path).run state).2 location = none ∧
      view.SameElsewhere location state ((files.remove path).run state).2

/-- The program is at work on a new file for an output: its directory has been made, the
file has been created beside it, and no other file has been touched since `before`. -/
structure AtWork (output temporary : Path) (location : view.Location) (before now : σ) :
    Prop where
  made : ∃ earlier start created,
    (files.makeDirectories output.parent).run earlier = (.ok (), start) ∧
      (files.createBeside output).run start = (.ok temporary, created) ∧
      view.locate now = view.locate created
  located : view.locate now temporary = some location
  absent : view.content before location = none
  present : view.content now location ≠ none
  elsewhere : view.SameElsewhere location before now

/-- What a program at work on its new file can count on when nothing comes in between.  The
file need not be filled or moved, but when it is not, that is the doing of the system. -/
structure Unhindered (output temporary : Path) (now : σ) : Prop where
  fill : ∀ bytes fault, ((files.fill temporary bytes).run now).1 = .error fault → fault.isOfSystem
  close : ((files.close temporary).run now).1 = .ok ()
  move : ∀ fault, ((files.move temporary output).run now).1 = .error fault → fault.isOfSystem
  remove : ((files.remove temporary).run now).1 = .ok ()
  /-- What has been moved to its place is read from there. -/
  readBack : ∀ moved place, view.locate moved = view.locate now →
    view.locate moved output = some place → view.content moved place ≠ none →
      ∃ resolved seen, (files.resolve output).run moved = (.ok resolved, seen) ∧
        ((files.read resolved).run seen).1.isOk

/-- Nothing comes in between while a program is at work on its own new file. -/
def Undisturbed : Prop :=
  ∀ {output temporary location before now}, AtWork files view output temporary location before now →
    Unhindered files view output temporary now

end Reliable

namespace Reliable

variable {files : FileSystem (StateM σ)} {view : View σ} {state : σ}

/-! ## Directories -/

theorem settleDirectory (h : Reliable files view) (path : Path) (result : Except FileFault Unit) :
    view.KeepsFiles (files.settleDirectory path result) := by
  unfold FileSystem.settleDirectory
  split
  · exact View.keepsFiles_pure _
  · exact View.keepsFiles_pure _
  · refine View.KeepsFiles.bind (fun state => (h.isDirectory path state).content) fun found => ?_
    split <;> exact View.keepsFiles_pure _

theorem makeDirectoriesBelow (h : Reliable files view) (root : String) (limit : Nat)
    (reversed : List String) :
    view.KeepsFiles (files.makeDirectoriesBelow root limit reversed) := by
  induction limit generalizing reversed with
  | zero => exact View.keepsFiles_pure _
  | succ limit ih =>
    cases reversed with
    | nil => exact (h.makeDirectory _).bind fun result => h.settleDirectory _ result
    | cons name above =>
      refine (h.makeDirectory _).bind fun result => ?_
      split
      · refine (ih above).bind fun result => ?_
        split
        · exact View.keepsFiles_pure _
        · exact (h.makeDirectory _).bind fun result => h.settleDirectory _ result
      · exact h.settleDirectory _ _

theorem makeDirectories (h : Reliable files view) (path : Path) :
    view.KeepsFiles (files.makeDirectories path) :=
  h.makeDirectoriesBelow _ _ _

/-! ## New files -/

variable {output temporary : Path} {location : view.Location} {before now later : σ}
  {bytes : ByteArray}

end Reliable

end VulkanBindings.Files
