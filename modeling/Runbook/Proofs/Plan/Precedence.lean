import Runbook.Proofs.Config.Fault
import Runbook.Proofs.Plan.Resolve

/-!
# Which setting wins

A plan takes each of its settings from the command line or, where that says nothing, from the
configuration, and a command that sets a time limit of its own keeps it. `Plan.resolve_precedence`
says so setting by setting and command by command: the commands of the plan stand, one by one, for
the arguments or else for the entries of the configuration (`Plan.StandsFor`), and each entry has
the time limit of its own text, which checking has kept in a list beside the entries.

When there are arguments to stand for, the entries have no influence (`Plan.resolve_congr`).
-/

namespace Runbook.Plan

/-- The command is the line with the directory in its place, and has this name and time limit. -/
structure StandsFor (dir : Option Pathname) (line : Text) (name : Option Text)
    (limit : Option Duration) (command : Command) : Prop where
  line : Placeholder.expand line dir = .ok command.line
  name : command.name = name
  timeout : command.timeout = limit

section
variable {arguments : Arguments} {config : Config} {checked other : CheckedConfig} {plan : Plan}

/-- The commands of a plan stand for the arguments, if there are any. -/
theorem Resolved.forall₂_arguments (h : Resolved arguments checked plan)
    (hsome : arguments.commands ≠ []) :
    List.Forall₂ (fun line command => StandsFor plan.outputDir line none
      (arguments.timeout <|> checked.defaultTimeout) command) arguments.commands plan.commands := by
  refine (h.ofArguments hsome).imp fun line command hcommand => ?_
  obtain ⟨-, expanded, hexpanded, rfl⟩ := of_argument hcommand
  exact ⟨hexpanded, rfl, rfl⟩

/-- Without arguments the commands of a plan stand for the entries of the configuration, each with
the time limit that its text holds, or else the common one. -/
theorem Resolved.forall₂_entries (h : Resolved arguments checked plan)
    (hchecked : config.check = .ok checked) (hnone : arguments.commands = []) :
    List.Forall₂ (fun entry command => StandsFor plan.outputDir entry.line entry.name
      (Duration.ofText? entry.timeout <|> (arguments.timeout <|> checked.defaultTimeout)) command)
      config.commands plan.commands := by
  obtain ⟨hlength, hentries⟩ := h.entries hnone
  simp only [(Config.accepted hchecked).config_eq] at hlength hentries
  refine List.forall₂_iff_get.mpr ⟨hlength, fun index hlt hlt' => ?_⟩
  obtain ⟨expanded, hexpanded, hcommand⟩ := of_entry (hentries index hlt hlt')
  rw [Config.timeout?_of_check hchecked, List.getElem?_eq_getElem hlt, Option.bind_some] at hcommand
  rw [List.get_eq_getElem, List.get_eq_getElem, hcommand]
  exact ⟨hexpanded, rfl, rfl⟩

/-- With arguments to stand for, a plan does not depend on the entries of the configuration. -/
theorem resolve_congr (hsome : arguments.commands ≠ [])
    (hsettings : other.config.settings = checked.config.settings)
    (hreport : other.config.report = checked.config.report)
    (hdefault : other.defaultTimeout = checked.defaultTimeout) :
    resolve arguments other = resolve arguments checked := by
  have hnonempty : arguments.commands.isEmpty = false := List.isEmpty_eq_false_iff.mpr hsome
  simp only [resolve, hnonempty, Bool.false_eq_true, if_false, hsettings, hreport, hdefault]

end

/-- What a plan is made of: its directory, its common time limit, its choice of colour and whether
it passes failures on come from the command line before the configuration; its policy is that of the
configuration. Its commands stand for those of the command line, without names and with the common
time limit, and then it does not matter which commands the configuration has; or, if there are none
on the command line, for those of the configuration, with their names and with their own time limits
before the common one. -/
theorem resolve_precedence {arguments : Arguments} {config : Config} {checked : CheckedConfig}
    {plan : Plan} (hchecked : config.check = .ok checked)
    (hplan : resolve arguments checked = .ok plan) :
    let dir := arguments.outputDir <|> config.settings.outputDir
    let limit := arguments.timeout <|> Duration.ofText? config.settings.defaultTimeout
    (arguments.commands ≠ [] →
      List.Forall₂ (fun line command => StandsFor dir line none limit command)
        arguments.commands plan.commands ∧
      ∀ entries other, { config with commands := entries }.check = .ok other →
        resolve arguments other = .ok plan) ∧
    (arguments.commands = [] →
      List.Forall₂ (fun entry command => StandsFor dir entry.line entry.name
        (Duration.ofText? entry.timeout <|> limit) command) config.commands plan.commands) ∧
    plan.outputDir = dir ∧
    plan.propagateFailure = (arguments.propagateFailure || config.settings.propagateFailure) ∧
    plan.policy = config.report ∧
    plan.color = arguments.color.getD config.settings.color := by
  intro dir limit
  have h := resolved hplan
  have hdir : plan.outputDir = dir := by rw [h.outputDir, Config.eq_of_check hchecked]
  have hlimit : (arguments.timeout <|> checked.defaultTimeout) = limit := by
    rw [Config.eq_of_check hchecked]
  refine ⟨fun hsome => ⟨?arguments, fun entries other hother => ?independent⟩,
    fun hnone => ?entries, hdir, ?propagateFailure, ?policy, ?color⟩
  case arguments =>
    rw [← hdir, ← hlimit]
    exact h.forall₂_arguments hsome
  case independent =>
    rw [← hplan, Config.eq_of_check hother, Config.eq_of_check hchecked]
    exact resolve_congr hsome rfl rfl rfl
  case entries =>
    rw [← hdir, ← hlimit]
    exact h.forall₂_entries hchecked hnone
  case propagateFailure => rw [h.propagateFailure, Config.eq_of_check hchecked]
  case policy => rw [h.policy, Config.eq_of_check hchecked]
  case color => rw [h.color, Config.eq_of_check hchecked]

/-- Two entries, of which only the first sets a time limit, without a command on the command line;
and with one, when it does not matter that there are no entries. -/
theorem resolve_precedence_entries :
    let entries : List Entry :=
      [⟨Placeholder.mark, some ['n'], some ['5', 's']⟩, ⟨['b'], none, none⟩]
    let settings : Settings := ⟨some (.ofText ['o']), false, some ['1', 'h'], .auto⟩
    let config : Config := ⟨settings, .default, entries⟩
    let checked : CheckedConfig := ⟨config, some (.ofSeconds 3600), [some (.ofSeconds 5), none]⟩
    let other : CheckedConfig := ⟨⟨settings, .default, []⟩, some (.ofSeconds 3600), []⟩
    let told : Arguments :=
      { Arguments.none with commands := [['a']], timeout := some (.ofSeconds 2) }
    let plan : Plan := ⟨[⟨['o'], some ['n'], some (.ofSeconds 5)⟩,
      ⟨['b'], none, some (.ofSeconds 3600)⟩], some (.ofText ['o']), false, .default, .auto⟩
    let toldPlan : Plan :=
      ⟨[⟨['a'], none, some (.ofSeconds 2)⟩], some (.ofText ['o']), false, .default, .auto⟩
    config.check = .ok checked ∧
    (resolve .none checked = .ok plan ∧
      List.Forall₂ (fun entry command => StandsFor (some (.ofText ['o'])) entry.line entry.name
        (Duration.ofText? entry.timeout <|> Duration.ofText? (some ['1', 'h'])) command)
        entries plan.commands) ∧
    resolve told checked = .ok toldPlan ∧ told.commands ≠ [] ∧
      { config with commands := [] }.check = .ok other ∧ resolve told other = .ok toldPlan := by
  intro entries settings config checked other told plan toldPlan
  have hchecked : config.check = .ok checked := by decide +kernel
  have hplan : resolve .none checked = .ok plan := by decide +kernel
  have htold : resolve told checked = .ok toldPlan := by decide +kernel
  have hother : { config with commands := [] }.check = .ok other := by decide +kernel
  have hsome : told.commands ≠ [] := List.cons_ne_nil _ _
  exact ⟨hchecked, ⟨hplan, (resolve_precedence hchecked hplan).2.1 rfl⟩, htold, hsome, hother,
    ((resolve_precedence hchecked htold).1 hsome).2 [] other hother⟩

end Runbook.Plan
