import VulkanBindings.Analysis.Roles
import VulkanBindings.Proofs.Outcome

/-!
# Analyzed commands

The analysis of a registry has an entry for each of its commands and no others,
and the entry of a command holds that command (`analyzeAll_get?`).  Analyzing
fails with defects of the registry only.
-/

namespace VulkanBindings.Table

variable {α β : Type}

/-- Rows for the same name, with related values. -/
def SameRow (related : String → α → β → Prop) (row : String × α) (other : String × β) : Prop :=
  other.1 = row.1 ∧ related row.1 row.2 other.2

/-- Rows for the same names in the same order give related values to every name. -/
theorem lookup_of_sameRows {related : String → α → β → Prop} {rows : List (String × α)}
    {others : List (String × β)} (h : List.Forall₂ (SameRow related) rows others) (name : String) :
    Option.Rel (related name) (rows.lookup name) (others.lookup name) := by
  induction h with
  | nil => exact .none
  | @cons row other rows others hrow _ ih =>
    obtain ⟨key, value⟩ := row
    obtain ⟨key', value'⟩ := other
    obtain ⟨rfl, hvalue⟩ := hrow
    rw [lookup_cons, lookup_cons]
    split
    · rename_i heq
      subst heq
      exact .some hvalue
    · exact ih

end VulkanBindings.Table

namespace VulkanBindings.Analysis

open Registry (Command Fault Spec)

/-- The entry of a command in an analysis. -/
def EntryOf (name : String) (command : Command) (analyzed : Analyzed) : Prop :=
  analyzed.name = name ∧ analyzed.command = command

/-- A command is analyzed by finding its roles. -/
theorem analyze_eq_ok_iff {name : String} {command : Command} {analyzed : Analyzed} :
    analyze name command = .ok analyzed ↔
      ∃ roles, rolesOf name command = .ok roles ∧ analyzed = ⟨name, command, roles⟩ := by
  unfold analyze
  rw [bind_eq_ok_iff]
  refine exists_congr fun roles => and_congr_right fun _ => ?_
  exact ⟨fun h => (Except.ok.inj h).symm, fun h => congrArg Except.ok h.symm⟩

theorem analyze_meets (name : String) (command : Command) :
    Meets (analyze name command) (EntryOf name command) fun _ => True := by
  unfold analyze
  rw [meets_bind]
  exact .ofValues fun roles _ => ⟨rfl, rfl⟩

/-- The entries of an analysis are those of its commands, each analyzed. -/
theorem analyzeAll_get? {spec : Spec} {analyzed : Table Analyzed}
    (h : analyzeAll spec = .ok analyzed) (name : String) :
    Option.Rel (fun command entry => analyze name command = .ok entry)
      (spec.commands.get? name) (analyzed.get? name) := by
  have hmeets : Meets (analyzeAll spec)
      (fun table => List.Forall₂
        (Table.SameRow fun name command entry => analyze name command = .ok entry)
        spec.commands.rows table.rows)
      fun _ => True := by
    unfold analyzeAll
    rw [meets_bind]
    refine (Meets.mapM fun (name, command) _ => ?_).imp fun rows hrows => hrows
    rw [meets_bind]
    exact .ofValues fun entry hentry => ⟨rfl, hentry⟩
  exact Table.lookup_of_sameRows (hmeets.of_ok h) name

/-- Every command has an entry in the analysis. -/
theorem exists_analyzed {spec : Spec} {analyzed : Table Analyzed}
    (h : analyzeAll spec = .ok analyzed) {name : String} {command : Command}
    (hcommand : spec.commands.get? name = some command) :
    ∃ entry, analyzed.get? name = some entry ∧ EntryOf name command entry := by
  have hrelated := analyzeAll_get? h name
  rw [hcommand] at hrelated
  cases hentry : analyzed.get? name with
  | none =>
    rw [hentry] at hrelated
    cases hrelated
  | some entry =>
    rw [hentry] at hrelated
    cases hrelated with
    | some hanalyze => exact ⟨entry, rfl, (analyze_meets name command).of_ok hanalyze⟩

/-- Every entry of the analysis is that of a command. -/
theorem exists_of_analyzed {spec : Spec} {analyzed : Table Analyzed}
    (h : analyzeAll spec = .ok analyzed) {name : String} {entry : Analyzed}
    (hentry : analyzed.get? name = some entry) :
    ∃ command, spec.commands.get? name = some command ∧ analyze name command = .ok entry := by
  have hrelated := analyzeAll_get? h name
  rw [hentry] at hrelated
  cases hcommand : spec.commands.get? name with
  | none =>
    rw [hcommand] at hrelated
    cases hrelated
  | some command =>
    rw [hcommand] at hrelated
    cases hrelated with
    | some hanalyze => exact ⟨command, rfl, hanalyze⟩

end VulkanBindings.Analysis
