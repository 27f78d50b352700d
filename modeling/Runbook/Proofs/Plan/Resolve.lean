import Runbook.Plan.Basic
import Runbook.Proofs.Checked

/-!
# What a plan is made of

`Plan.resolved` says all that there is to a plan that has been resolved: each of its commands stands
for the argument, or for the entry of the configuration, in its place, and its settings are those of
the command line before those of the configuration. What holds of plans is derived from it.
-/

namespace Runbook.Plan

/-! ## Commands -/

section
variable {dir : Option Pathname} {limit own : Option Duration} {command : Command}

/-- A command that stands for an argument is that argument, which is not blank, with the directory
in its place; it has no name and the common time limit. -/
theorem of_argument {line : Text} (h : commandOfArgument dir limit line = .ok command) :
    Text.blank line = false ∧
      ∃ expanded, Placeholder.expand line dir = .ok expanded ∧
        command = ⟨expanded, none, limit⟩ := by
  rw [commandOfArgument] at h
  split at h
  · cases h
  · next hblank =>
    obtain ⟨expanded, hexpanded, h⟩ := exists_ok_of_bind h
    cases h
    exact ⟨Bool.eq_false_iff.mpr hblank, expanded, hexpanded, rfl⟩

/-- A command that stands for an entry is its line with the directory in its place; it has the name
of the entry, and its own time limit or else the common one. -/
theorem of_entry {entry : Entry} (h : commandOfEntry dir limit own entry = .ok command) :
    ∃ expanded, Placeholder.expand entry.line dir = .ok expanded ∧
      command = ⟨expanded, entry.name, own <|> limit⟩ := by
  rw [commandOfEntry] at h
  obtain ⟨expanded, hexpanded, h⟩ := exists_ok_of_bind h
  cases h
  exact ⟨expanded, hexpanded, rfl⟩

end

/-! ## Plans -/

/-- A plan for a command line and a configuration. -/
structure Resolved (arguments : Arguments) (checked : CheckedConfig) (plan : Plan) : Prop where
  /-- Commands on the command line are the commands of the plan. -/
  ofArguments : arguments.commands ≠ [] → List.Forall₂
    (fun line command => commandOfArgument plan.outputDir
      (arguments.timeout <|> checked.defaultTimeout) line = .ok command)
    arguments.commands plan.commands
  /-- Otherwise those of the configuration are. -/
  ofEntries : arguments.commands = [] → List.Forall₂
    (fun entry command => commandOfEntry plan.outputDir
      (arguments.timeout <|> checked.defaultTimeout) (checked.timeout? entry.2) entry.1 =
        .ok command)
    checked.config.commands.zipIdx plan.commands
  nonempty : plan.commands ≠ []
  outputDir : plan.outputDir = (arguments.outputDir <|> checked.config.settings.outputDir)
  propagateFailure :
    plan.propagateFailure = (arguments.propagateFailure || checked.config.settings.propagateFailure)
  policy : plan.policy = checked.config.report
  color : plan.color = arguments.color.getD checked.config.settings.color

/-- All that can be said of a plan that has been resolved. -/
theorem resolved {arguments : Arguments} {checked : CheckedConfig} {plan : Plan}
    (h : resolve arguments checked = .ok plan) : Resolved arguments checked plan := by
  simp only [resolve] at h
  split at h
  · next harguments =>
    have hnone : arguments.commands = [] := List.isEmpty_iff.mp harguments
    obtain ⟨commands, hcommands, h⟩ := exists_ok_of_bind h
    split at h
    · cases h
    · next hne =>
      cases h
      exact ⟨fun hsome => absurd hnone hsome, fun _ => mapM_eq_ok_iff.mp hcommands,
        fun hnil => hne (List.isEmpty_iff.mpr hnil), rfl, rfl, rfl, rfl⟩
  · next harguments =>
    have hsome : arguments.commands ≠ [] := fun hnone => harguments (List.isEmpty_iff.mpr hnone)
    obtain ⟨commands, hcommands, h⟩ := exists_ok_of_bind h
    split at h
    · cases h
    · next hne =>
      cases h
      exact ⟨fun _ => mapM_eq_ok_iff.mp hcommands, fun hnone => absurd hnone hsome,
        fun hnil => hne (List.isEmpty_iff.mpr hnil), rfl, rfl, rfl, rfl⟩

/-- Commands that stand for entries are as many, and the one at an index stands for the entry at
that index, with the time limit that is kept there. -/
theorem Resolved.entries {arguments : Arguments} {checked : CheckedConfig} {plan : Plan}
    (h : Resolved arguments checked plan) (hnone : arguments.commands = []) :
    checked.config.commands.length = plan.commands.length ∧
      ∀ index (hentry : index < checked.config.commands.length)
        (hcommand : index < plan.commands.length),
        commandOfEntry plan.outputDir (arguments.timeout <|> checked.defaultTimeout)
          (checked.timeout? index) checked.config.commands[index] = .ok plan.commands[index] := by
  obtain ⟨hlength, hcommands⟩ := List.forall₂_iff_get.mp (h.ofEntries hnone)
  rw [List.length_zipIdx] at hlength
  refine ⟨hlength, fun index hentry hcommand => ?_⟩
  have hindex := hcommands index (by rwa [List.length_zipIdx]) hcommand
  simpa only [List.get_eq_getElem, List.getElem_zipIdx, Nat.zero_add] using hindex

end Runbook.Plan
