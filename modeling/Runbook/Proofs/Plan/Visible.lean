import Runbook.Proofs.Plan.Placeholder
import Runbook.Proofs.Plan.Precedence

/-!
# Blank commands of a plan

No line that a plan is made from is blank: entries are looked at when the configuration is checked,
and arguments when the plan is resolved. Both look at the line as it was written. What goes into the
plan is the line with the directory in the place of each placeholder, and the directory may be blank
itself: then a line of placeholders becomes a blank command (`Plan.exists_blank_command`).

`Plan.commands_visible_iff` says that this is the only way to get one.
-/

namespace Runbook.Plan

/-- The lines that the commands of a plan stand for. -/
def sources (arguments : Arguments) (config : Config) : List Text :=
  if arguments.commands.isEmpty then config.commands.map (·.line) else arguments.commands

section
variable {arguments : Arguments} {config : Config} {checked : CheckedConfig} {plan : Plan}

/-- The commands of a plan stand for lines that are not blank, one for each. -/
theorem Resolved.forall₂_sources (h : Resolved arguments checked plan)
    (hchecked : config.check = .ok checked) :
    List.Forall₂ (fun line command => Text.blank line = false ∧
      Placeholder.expand line plan.outputDir = .ok command.line)
      (sources arguments config) plan.commands := by
  rw [sources]
  split
  · next harguments =>
    rw [List.forall₂_map_left_iff]
    refine (List.forall₂_and_left _ _).mpr ⟨Config.blank_of_check hchecked, ?_⟩
    exact (h.forall₂_entries hchecked (List.isEmpty_iff.mp harguments)).imp
      fun entry command hcommand => hcommand.line
  · next harguments =>
    refine (h.ofArguments fun hnone => harguments (List.isEmpty_iff.mpr hnone)).imp
      fun line command hcommand => ?_
    obtain ⟨hblank, expanded, hexpanded, rfl⟩ := of_argument hcommand
    exact ⟨hblank, hexpanded⟩

end

/-- A plan has a command, and none of its commands is blank, unless the output directory is blank
and some line has nothing to it but blanks and placeholders. -/
theorem commands_visible_iff {arguments : Arguments} {config : Config} {checked : CheckedConfig}
    {plan : Plan} (hchecked : config.check = .ok checked)
    (hplan : resolve arguments checked = .ok plan) :
    plan.commands ≠ [] ∧
    ((∀ command ∈ plan.commands, ∃ c ∈ command.line, Text.isBlank c = false) ↔
      ∀ dir, plan.outputDir = some dir → Text.blank dir.display = true →
        ∀ line ∈ sources arguments config,
          ∃ piece ∈ Placeholder.split line, Text.blank piece = false) := by
  have h := resolved hplan
  refine ⟨h.nonempty, ?_⟩
  rw [← forall_mem_iff_of_forall₂ (h.forall₂_sources hchecked) (p := fun line =>
    ∀ dir, plan.outputDir = some dir → Text.blank dir.display = true →
      ∃ piece ∈ Placeholder.split line, Text.blank piece = false) ?_]
  · exact ⟨fun hall dir hdir hblank line hline => hall line hline dir hdir hblank,
      fun hall line hline dir hdir hblank => hall dir hdir hblank line hline⟩
  · rintro line command ⟨hline, hexpanded⟩
    rw [← Text.blank_eq_false_iff, ← Bool.not_eq_true, Placeholder.blank_expand_iff hline hexpanded]
    constructor
    · rintro hall ⟨⟨dir, hdir, hblank⟩, hpieces⟩
      obtain ⟨piece, hpiece, hvisible⟩ := hall dir hdir hblank
      exact Bool.false_ne_true (hvisible.symm.trans (hpieces piece hpiece))
    · intro hnot dir hdir hblank
      by_contra! hnone
      exact hnot ⟨⟨dir, hdir, hblank⟩, fun piece hpiece => eq_true_of_ne_false (hnone piece hpiece)⟩

/-- The output directory is a space, and each of two commands has more to it than that. -/
theorem commands_visible_letters :
    let config : Config := ⟨{ Settings.default with outputDir := some (.ofText [' ']) }, .default,
      [⟨'a' :: Placeholder.mark, none, none⟩, ⟨Placeholder.mark ++ ['b'], none, none⟩]⟩
    let checked : CheckedConfig := ⟨config, none, [none, none]⟩
    let plan : Plan := ⟨[⟨['a', ' '], none, none⟩, ⟨[' ', 'b'], none, none⟩],
      some (.ofText [' ']), false, .default, .auto⟩
    config.check = .ok checked ∧ resolve .none checked = .ok plan ∧ Text.blank [' '] = true ∧
      ∀ command ∈ plan.commands, ∃ c ∈ command.line, Text.isBlank c = false := by
  intro config checked plan
  have hchecked : config.check = .ok checked := by decide +kernel
  have hplan : resolve .none checked = .ok plan := by decide +kernel
  refine ⟨hchecked, hplan, rfl, (commands_visible_iff hchecked hplan).2.mpr fun _ _ _ => ?_⟩
  decide +kernel

/-- A line that is a placeholder passes the check of the configuration, and with an empty output
directory it goes into the plan as an empty command. -/
theorem exists_blank_command :
    ∃ (arguments : Arguments) (config : Config) (checked : CheckedConfig) (plan : Plan),
      Arguments.parse [] = .ok arguments ∧ config.check = .ok checked ∧
      resolve arguments checked = .ok plan ∧
      ∃ command ∈ plan.commands, ¬ ∃ c ∈ command.line, Text.isBlank c = false := by
  let config : Config := ⟨{ Settings.default with outputDir := some (.ofText []) }, .default,
    [⟨Placeholder.mark, none, none⟩]⟩
  refine ⟨.none, config, ⟨config, none, [none]⟩, ⟨[⟨[], none, none⟩], some (.ofText []), false,
    .default, .auto⟩, by decide +kernel, by decide +kernel, by decide +kernel, _, .head _, ?_⟩
  exact fun ⟨_, hmem, _⟩ => List.not_mem_nil hmem

end Runbook.Plan
