import Runbook.Proofs.Loading
import Runbook.Proofs.Plan.Window
import Runbook.Proofs.Sequence.Room

/-!
# The stages of the program

`perform_stages` follows a run of the program through its stages and says for each what has been
done to the system, what is on the console and how the run ends, if it ends there. Nothing but the
configuration is read before the plan has been resolved; a dry run goes no further; the directory is
made before the first command; and the exit status tells of a failed command only if that was asked
for.

There are two ways for a run to end neither with a status nor with an error, and both stop the
program. One is a console without room for the description of a plan (`Shown.full`). The other is a
configuration with a window whose two ends together do not fit in a word, or with a time limit that
does not (`Loading.overflowed`). `exists_overflow` is a file with such a window.
-/

namespace Runbook.Program

open Sequence (answers output started stateAfter)

variable {σ : Type}

/-! ## Running -/

/-- Making the output directory of a plan leaves the system ready for its commands. Without an
output directory it is ready as it is. -/
inductive Ready (host : Host σ) (system : σ) (plan : Plan) : σ → Prop
  | directory {dir : Pathname} {ready : σ} (h : plan.outputDir = some dir)
    (hmade : host.makeDirectories system dir = (.ok (), ready)) : Ready host system plan ready
  | none (h : plan.outputDir = none) : Ready host system plan system

/-- What making the output directory of a plan does to the system. -/
def creates (plan : Plan) : List Effect := (plan.outputDir.map Effect.create).toList

/-- The first `k` commands of a plan have been run on a system that was ready for them, and the
console has received as much of their output as it has room for. If it has room for all of it, they
are the commands up to the first failure. If not, they are those up to the first whose result does
not fit. -/
structure Ran (host : Host σ) (display : Display) (plan : Plan) (ready : σ) (console : Sink)
    (k : Nat) (performance : Performance σ) : Prop where
  system : performance.system = stateAfter host.execute ready (plan.commands.take k)
  received :
    let output := output display (answers host.execute ready plan.commands)
    performance.console.received = console.received ++ output.take (console.room output.length)
  whole :
    let results := answers host.execute ready plan.commands
    let output := output display results
    console.room output.length = output.length →
      k = started results ∧
      ∃ status, performance.ending = .ok status ∧ (status = 0 ∨ status = 1) ∧
        (status = 1 ↔ plan.propagateFailure = true ∧
          ∃ result ∈ results.take k, result.failure?.isSome = true)
  full :
    let results := answers host.execute ready plan.commands
    let output := output display results
    let bytes (k : Nat) := (results.take k).flatMap (·.bytes display)
    console.room output.length < output.length →
      performance.ending = .error (.failed ⟨.writing, .system .sinkFull⟩) ∧
      k ≤ started results ∧ console.room (bytes k).length < (bytes k).length ∧
      ∀ j < k, console.room (bytes j).length = (bytes j).length

section
variable {host : Host σ} {plan : Plan} {system ready : σ} {console : Sink}

/-- The exit status is 1 if a command failed and that is to be passed on, and 0 otherwise. -/
theorem exitStatus_cases (summary : Sequence.Summary) (propagate : Bool) :
    (summary.exitStatus propagate = 0 ∨ summary.exitStatus propagate = 1) ∧
      (summary.exitStatus propagate = 1 ↔ propagate = true ∧ summary.isAborted = true) := by
  rw [Sequence.Summary.exitStatus, ← Bool.and_eq_true]
  cases propagate && summary.isAborted <;> decide

/-- The commands of a plan are run up to the first failure, or as far as the console has room for
what they put on it. -/
theorem ran_runCommands (host : Host σ) (screen : Screen) (fits : plan.policy.Fits) :
    let performance := runCommands host screen plan ready console
    ∃ k, performance.effects = (plan.commands.take k).map .execute ∧
      Ran host ⟨plan.policy, plan.color.enabled screen⟩ plan ready console k performance := by
  obtain ⟨hcommands, -, hexecutor⟩ := Sequence.run_starts host.execute
    ⟨plan.policy, plan.color.enabled screen⟩ plan.commands ready console
  have fits' : (⟨plan.policy, plan.color.enabled screen⟩ : Display).policy.Fits := fits
  obtain ⟨hreceived, hwhole, hfull⟩ :=
    Sequence.run_room host.execute plan.commands ready fits' console
  refine ⟨_, ?effects, hexecutor, hreceived, fun hroom => ?whole, fun hroom => ?full⟩
  case effects =>
    rw [← hcommands, List.map_map]
    rfl
  case whole =>
    obtain ⟨hlength, summary, hok, haborted⟩ := hwhole hroom
    obtain ⟨hstatus, hone⟩ := exitStatus_cases summary plan.propagateFailure
    refine ⟨hlength, summary.exitStatus plan.propagateFailure, ?_, hstatus, by rw [hone, haborted]⟩
    simp only [runCommands, hok]
    rfl
  case full =>
    obtain ⟨herror, hle, hlast, hbefore⟩ := hfull hroom
    refine ⟨?_, hle, hlast, hbefore⟩
    simp only [runCommands, herror]
    rfl

end

/-! ## The whole -/

/-- The description of the plan is on the console, as far as that has room for it. The program ends
well if there is room for all of it, and is stopped if not. -/
structure Shown (plan : Plan) (console : Sink) (performance : Performance σ) : Prop where
  received :
    let bytes := Text.utf8 plan.describe
    performance.console.received = console.received ++ bytes.take (console.room bytes.length)
  whole :
    let bytes := Text.utf8 plan.describe
    console.room bytes.length = bytes.length → performance.ending = .ok 0
  full :
    let bytes := Text.utf8 plan.describe
    console.room bytes.length < bytes.length → performance.ending = .error (.unprinted .sinkFull)

/-- The run has done nothing to the system but to read the configuration. -/
structure ReadOnly (host : Host σ) (arguments : Arguments) (system : σ)
    (performance : Performance σ) : Prop where
  effects : performance.effects = reads host system arguments
  system : performance.system = system

section
variable {host : Host σ} (screen : Screen) {arguments : Arguments} {system : σ} (console : Sink)
  {checked : CheckedConfig} {plan : Plan}

/-- Without a configuration the run is over. -/
theorem perform_of_fault {fault : Fault Failed}
    (h : Loading host system arguments (.error fault)) :
    ∃ notices, perform host screen arguments system console =
      (still [] system console (.error (.ofFault fault))).after (reads host system arguments)
        notices := by
  refine ⟨(loadConfig host system arguments).2.1, ?_⟩
  simp only [perform, h.eq_loadConfig, loadConfig_effects]

/-- Without a plan the run is over. -/
theorem perform_of_unresolved {reason : ConfigError}
    (h : Loading host system arguments (.ok checked))
    (hplan : Plan.resolve arguments checked = .error reason) :
    ∃ notices, perform host screen arguments system console =
      (still [] system console (.error (.failed ⟨.resolving, .config reason⟩))).after
        (reads host system arguments) notices := by
  refine ⟨(loadConfig host system arguments).2.1, ?_⟩
  simp only [perform, h.eq_loadConfig, loadConfig_effects, hplan]

/-- In a dry run a plan is shown. -/
theorem perform_of_dryRun (h : Loading host system arguments (.ok checked))
    (hplan : Plan.resolve arguments checked = .ok plan) (hdry : arguments.dryRun = true) :
    ∃ notices, perform host screen arguments system console =
      (describe plan system console).after (reads host system arguments) notices := by
  refine ⟨(loadConfig host system arguments).2.1, ?_⟩
  simp only [perform, h.eq_loadConfig, loadConfig_effects, hplan, if_pos hdry]

/-- Unless the run is a dry one, a plan is executed. -/
theorem perform_of_plan (h : Loading host system arguments (.ok checked))
    (hplan : Plan.resolve arguments checked = .ok plan) (hdry : arguments.dryRun = false) :
    ∃ notices, perform host screen arguments system console =
      (execute host screen plan system console).after (reads host system arguments) notices := by
  refine ⟨(loadConfig host system arguments).2.1, ?_⟩
  simp only [perform, h.eq_loadConfig, loadConfig_effects, hplan, hdry, Bool.false_eq_true,
    if_false]

/-- With room for its description a plan is shown whole. -/
theorem describe_of_room (system : σ)
    (h : console.room (Text.utf8 plan.describe).length = (Text.utf8 plan.describe).length) :
    ∃ notices, describe plan system console =
      still notices system (console.take (Text.utf8 plan.describe)) (.ok 0) := by
  refine ⟨[⟨.debug, "dry-run complete (no execution)"⟩], ?_⟩
  simp only [describe, Sink.run_write, h, Nat.lt_irrefl, if_false]

/-- Without room for the description of a plan the program is stopped. -/
theorem describe_of_full (system : σ)
    (h : console.room (Text.utf8 plan.describe).length < (Text.utf8 plan.describe).length) :
    describe plan system console =
      still [] system (console.take (Text.utf8 plan.describe)) (.error (.unprinted .sinkFull)) := by
  simp only [describe, Sink.run_write, if_pos h]

/-- Nothing is done to the system when a plan is shown. -/
theorem shown_describe (plan : Plan) (system : σ) (console : Sink) :
    (describe plan system console).effects = [] ∧ (describe plan system console).system = system ∧
      Shown plan console (describe plan system console) := by
  rcases Nat.lt_or_eq_of_le (console.room_le (Text.utf8 plan.describe).length) with hfull | hroom
  · rw [describe_of_full console system hfull]
    exact ⟨rfl, rfl, rfl, fun hroom => absurd hroom (Nat.ne_of_lt hfull), fun _ => rfl⟩
  · obtain ⟨notices, h⟩ := describe_of_room console system hroom
    rw [h]
    exact ⟨rfl, rfl, rfl, fun _ => rfl, fun hfull => absurd hroom (Nat.ne_of_lt hfull)⟩

/-- When the output directory cannot be made the run is over. -/
theorem execute_of_uncreated {dir : Pathname} {reason : SystemError} {left : σ}
    (h : plan.outputDir = some dir)
    (hmade : host.makeDirectories system dir = (.error reason, left)) :
    ∃ notices, execute host screen plan system console =
      ⟨[.create dir], notices, console, left,
        .error (.failed ⟨.creating dir, .system reason⟩)⟩ := by
  simp only [execute, h, hmade]
  exact ⟨_, rfl⟩

/-- On a system that is ready for them the commands are run. -/
theorem execute_of_ready {ready : σ} (h : Ready host system plan ready) :
    ∃ notices, execute host screen plan system console =
      (runCommands host screen plan ready console).after (creates plan) notices := by
  cases h with
  | directory h hmade =>
    simp only [execute, creates, h, hmade]
    exact ⟨_, rfl⟩
  | none h =>
    simp only [execute, creates, h]
    exact ⟨[], rfl⟩

end

/-- A run of the program, stage by stage. It ends where the configuration cannot be loaded or the
plan cannot be resolved, and then nothing has been done to the system but to read the configuration,
and nothing is on the console. A dry run has done no more to the system, and the description of the
plan is on the console; the program is stopped if there was no room for all of it. Otherwise the
output directory is made, and the run ends there if it cannot be. After that the commands are run,
up to the first failure or as far as the console has room for their results; and if it had room for
all of them, the exit status is 1 if a command failed and the command line or the configuration asks
to pass that on, and else 0. -/
theorem perform_stages (host : Host σ) (screen : Screen) (arguments : Arguments) (system : σ)
    (console : Sink) :
    let performance := perform host screen arguments system console
    (∃ loaded, Loading host system arguments loaded) ∧
    (∀ fault, Loading host system arguments (.error fault) →
      ReadOnly host arguments system performance ∧ performance.console = console ∧
        performance.ending = .error (.ofFault fault)) ∧
    ∀ checked, Loading host system arguments (.ok checked) →
      (∀ reason, Plan.resolve arguments checked = .error reason →
        ReadOnly host arguments system performance ∧ performance.console = console ∧
          performance.ending = .error (.failed ⟨.resolving, .config reason⟩)) ∧
      ∀ plan, Plan.resolve arguments checked = .ok plan →
        (arguments.dryRun = true →
          ReadOnly host arguments system performance ∧ Shown plan console performance) ∧
        (arguments.dryRun = false →
          (∀ dir reason left, plan.outputDir = some dir →
            host.makeDirectories system dir = (.error reason, left) →
            performance.effects = reads host system arguments ++ [.create dir] ∧
              performance.system = left ∧ performance.console = console ∧
              performance.ending = .error (.failed ⟨.creating dir, .system reason⟩)) ∧
          ∀ ready, Ready host system plan ready → ∃ k,
            performance.effects = reads host system arguments ++
              (creates plan ++ (plan.commands.take k).map .execute) ∧
            Ran host ⟨plan.policy, plan.color.enabled screen⟩ plan ready console k performance ∧
            (plan.propagateFailure = true ↔
              arguments.propagateFailure = true ∨
                checked.config.settings.propagateFailure = true)) := by
  intro performance
  refine ⟨⟨_, loading host system arguments⟩, fun fault h => ?failed,
    fun checked h => ⟨fun reason hplan => ?unresolved, fun plan hplan =>
      ⟨fun hdry => ?described, fun hdry => ⟨fun dir reason left hdir hmade => ?uncreated,
        fun ready hready => ?ran⟩⟩⟩⟩
  case failed =>
    obtain ⟨notices, hp : performance = _⟩ := perform_of_fault screen console h
    rw [hp]
    exact ⟨⟨List.append_nil _, rfl⟩, rfl, rfl⟩
  case unresolved =>
    obtain ⟨notices, hp : performance = _⟩ := perform_of_unresolved screen console h hplan
    rw [hp]
    exact ⟨⟨List.append_nil _, rfl⟩, rfl, rfl⟩
  case described =>
    obtain ⟨notices, hp : performance = _⟩ := perform_of_dryRun screen console h hplan hdry
    rw [hp]
    obtain ⟨heffects, hsystem, hshown⟩ := shown_describe plan system console
    refine ⟨⟨?_, hsystem⟩, ⟨hshown.received, hshown.whole, hshown.full⟩⟩
    rw [Performance.after, heffects, List.append_nil]
  case uncreated =>
    obtain ⟨notices, hp : performance = _⟩ := perform_of_plan screen console h hplan hdry
    obtain ⟨notices', he⟩ := execute_of_uncreated screen console hdir hmade
    rw [hp, he]
    exact ⟨rfl, rfl, rfl, rfl⟩
  case ran =>
    obtain ⟨notices, hp : performance = _⟩ := perform_of_plan screen console h hplan hdry
    obtain ⟨notices', he⟩ := execute_of_ready screen console hready
    obtain ⟨k, heffects, hran⟩ := ran_runCommands host screen (Plan.fits_of_resolve h.fits hplan)
    rw [hp, he]
    refine ⟨k, ?_, ⟨hran.system, hran.received, hran.whole, hran.full⟩, ?_⟩
    · rw [← heffects]
      rfl
    · rw [(Plan.resolved hplan).propagateFailure, Bool.or_eq_true]

/-- A system whose only file is a default configuration file, and where all that is asked for
succeeds. -/
def hostOfConfig (text : Text) : Host Unit where
  isFile _ path := path == Config.defaultFile
  isPresent _ _ := false
  read _ path :=
    if path = Config.defaultFile then .ok ⟨(Text.utf8 text).toArray⟩ else .error .notFound
  makeDirectories _ _ := (.ok (), ())
  execute _ _ := (.success [], ())

/-- A configuration file with a window of as many lines as there are words. -/
def endlessWindow : Text :=
  "[report]\nhead = 9223372036854775808\ntail = 9223372036854775808\n"

/-- There are configuration files that are not accepted and that no error is reported for: the run
is stopped by an overflow. -/
theorem exists_overflow :
    ∃ text : Text,
      (∀ checked, ¬ Loading (hostOfConfig text) () .none (.ok checked)) ∧
      ∀ failed,
        (perform (hostOfConfig text) ⟨false, false⟩ .none () (.empty none)).ending ≠
          .error (.failed failed) := by
  have hloaded : (loadConfig (hostOfConfig endlessWindow) () .none).2.2 =
      .error (.overflow .add) := by decide +kernel
  have h := loading (hostOfConfig endlessWindow) () .none
  rw [hloaded] at h
  refine ⟨endlessWindow, fun checked haccepted => ?_, fun failed hfailed => ?_⟩
  · rw [haccepted.eq_loadConfig] at hloaded
    cases hloaded
  · obtain ⟨notices, hp⟩ := perform_of_fault ⟨false, false⟩ (.empty none) h
    rw [hp] at hfailed
    cases hfailed

end Runbook.Program
