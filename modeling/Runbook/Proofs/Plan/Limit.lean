import Runbook.Proofs.Config.Fault
import Runbook.Proofs.Plan.Resolve

/-!
# The time limits of a plan

A command of a plan has its own time limit, or the one of the command line, or the default of the
configuration. Those of the configuration are greater than zero, since zero is refused when it is
checked. On the command line zero is a duration like any other, and it goes into the plan
(`Plan.exists_zero_limit`).

`Plan.limits_positive_iff` says exactly when all time limits of a plan are greater than zero: unless
the command line asks for zero and some command does not set a limit of its own.
-/

namespace Runbook.Plan

section
variable {dir : Option Pathname} {limit own : Option Duration} {command : Command}

/-- A command that stands for an argument has the common time limit. -/
theorem timeout_of_argument {line : Text} (h : commandOfArgument dir limit line = .ok command) :
    command.timeout = limit := by
  obtain ⟨-, expanded, -, rfl⟩ := of_argument h
  rfl

/-- A command that stands for an entry has its own time limit, or else the common one. -/
theorem timeout_of_entry {entry : Entry} (h : commandOfEntry dir limit own entry = .ok command) :
    command.timeout = (own <|> limit) := by
  obtain ⟨expanded, -, rfl⟩ := of_entry h
  rfl

end

section
variable {arguments : Arguments} {checked : CheckedConfig} {plan : Plan}

/-- The time limits of commands that stand for arguments. -/
theorem Resolved.timeout_argument (h : Resolved arguments checked plan)
    (hsome : arguments.commands ≠ []) :
    ∀ command ∈ plan.commands,
      command.timeout = (arguments.timeout <|> checked.defaultTimeout) := by
  intro command hcommand
  obtain ⟨index, hlt, rfl⟩ := List.mem_iff_getElem.mp hcommand
  have hlength := (h.ofArguments hsome).length_eq
  exact timeout_of_argument ((h.ofArguments hsome).get (by omega) hlt)

/-- The time limits of commands that stand for entries, which there are as many of. -/
theorem Resolved.timeout_entry (h : Resolved arguments checked plan)
    (hnone : arguments.commands = []) :
    plan.commands.length = checked.config.commands.length ∧
      ∀ index (hlt : index < plan.commands.length), plan.commands[index].timeout =
        (checked.timeout? index <|> (arguments.timeout <|> checked.defaultTimeout)) := by
  obtain ⟨hlength, hentries⟩ := h.entries hnone
  exact ⟨hlength.symm, fun index hlt =>
    timeout_of_entry (hentries index (hlength.symm ▸ hlt) hlt)⟩

end

/-- The time limits of a plan are greater than zero, unless the command line gives the limit zero
and there is a command to which it applies, as it is given on the command line as well or its entry
in the configuration sets no limit. -/
theorem limits_positive_iff {config : Config} {checked : CheckedConfig} {arguments : Arguments}
    {plan : Plan} (hchecked : config.check = .ok checked)
    (hplan : resolve arguments checked = .ok plan) :
    (∀ command ∈ plan.commands, LimitPositive command.timeout) ↔
      (arguments.timeout = some ⟨0⟩ → arguments.commands = [] ∧
        ∀ index < checked.config.commands.length, (checked.timeout? index).isSome = true) := by
  obtain ⟨hdefault, hown⟩ := Config.limits_of_check hchecked
  have h := resolved hplan
  constructor
  · intro hpositive hzero
    have hlimit : (arguments.timeout <|> checked.defaultTimeout) = some ⟨0⟩ := by rw [hzero]; rfl
    have hne : ∀ command ∈ plan.commands, command.timeout ≠ some ⟨0⟩ := fun command hc hz =>
      absurd (hpositive command hc _ hz) (Nat.lt_irrefl 0)
    have hnone : arguments.commands = [] := by
      by_contra hsome
      obtain ⟨command, hcommand⟩ := List.exists_mem_of_ne_nil _ h.nonempty
      exact hne command hcommand ((h.timeout_argument hsome command hcommand).trans hlimit)
    obtain ⟨hlength, htimeout⟩ := h.timeout_entry hnone
    refine ⟨hnone, fun index hlt => ?_⟩
    have hlt' : index < plan.commands.length := by omega
    cases hindex : checked.timeout? index with
    | some limit => rfl
    | none =>
      have := htimeout index hlt'
      rw [hindex, hlimit] at this
      exact absurd this (hne _ (List.getElem_mem hlt'))
  · intro hexcept command hcommand
    by_cases hzero : arguments.timeout = some ⟨0⟩
    · -- Every command has a limit of its own.
      obtain ⟨hnone, hall⟩ := hexcept hzero
      obtain ⟨hlength, htimeout⟩ := h.timeout_entry hnone
      obtain ⟨index, hlt, rfl⟩ := List.mem_iff_getElem.mp hcommand
      obtain ⟨limit, hlimit⟩ := Option.isSome_iff_exists.mp (hall index (by omega))
      have howned := hown index
      rw [hlimit] at howned
      rw [htimeout index hlt, hlimit]
      exact howned
    · have harguments : LimitPositive arguments.timeout := fun limit hlimit =>
        Nat.pos_of_ne_zero fun hz => hzero (by rw [hlimit, ← hz])
      have hcommon := harguments.orElse hdefault
      by_cases hnone : arguments.commands = []
      · obtain ⟨-, htimeout⟩ := h.timeout_entry hnone
        obtain ⟨index, hlt, rfl⟩ := List.mem_iff_getElem.mp hcommand
        rw [htimeout index hlt]
        exact (hown index).orElse hcommon
      · rw [h.timeout_argument hnone command hcommand]
        exact hcommon

/-- A command line that gives the limit zero, and commands that all set their own. -/
theorem limits_positive_own :
    let config : Config := ⟨.default, .default, [⟨['a'], none, some ['2', 's']⟩]⟩
    let checked : CheckedConfig := ⟨config, none, [some (.ofSeconds 2)]⟩
    let arguments : Arguments := { Arguments.none with timeout := some ⟨0⟩ }
    let plan : Plan := ⟨[⟨['a'], none, some (.ofSeconds 2)⟩], none, false, .default, .auto⟩
    config.check = .ok checked ∧ resolve arguments checked = .ok plan ∧
      arguments.timeout = some ⟨0⟩ ∧ ∀ command ∈ plan.commands, LimitPositive command.timeout := by
  intro config checked arguments plan
  have hchecked : config.check = .ok checked := by decide +kernel
  have hplan : resolve arguments checked = .ok plan := by decide +kernel
  refine ⟨hchecked, hplan, rfl, (limits_positive_iff hchecked hplan).mpr fun _ => ⟨rfl, ?_⟩⟩
  decide

/-- A time limit of zero on the command line is accepted, and a command of the plan has it. -/
theorem exists_zero_limit :
    ∃ arguments checked plan,
      Arguments.parse ["--timeout".toList, "0s".toList, "make".toList] = .ok arguments ∧
      Config.default.check = .ok checked ∧ resolve arguments checked = .ok plan ∧
      ∃ command ∈ plan.commands, ¬ LimitPositive command.timeout := by
  refine ⟨{ Arguments.none with commands := ["make".toList], timeout := some ⟨0⟩ }, .default,
    ⟨[⟨"make".toList, none, some ⟨0⟩⟩], none, false, .default, .auto⟩, by decide +kernel,
    by decide +kernel, by decide +kernel, _, .head _, fun h => ?_⟩
  exact absurd (h ⟨0⟩ rfl) (Nat.lt_irrefl 0)

end Runbook.Plan
