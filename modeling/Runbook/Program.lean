import Runbook.Config.File
import Runbook.Plan.Description
import Runbook.Sequence.Run

/-!
# The program

`Program.perform` is a whole run: it loads the configuration, resolves the plan, makes the output
directory and runs the commands, in this order, and goes no further once something has failed. A dry
run ends after the plan has been resolved, and shows it.

The system that the program runs on is a `Host`: any way to read files, to make directories and to
run commands. What the program did to it is the list of `Effect`s of its `Performance`. What the
program says about itself, for those who want to hear it, are its notices.
-/

namespace Runbook

/-- The system that the program runs on, in a state of the type `σ`. -/
structure Host (σ : Type) where
  isFile : σ → Pathname → Bool
  isPresent : σ → Pathname → Bool
  read : σ → Pathname → Except SystemError ByteArray
  /-- Makes a directory and those on the way to it. What was made stays when that fails. Reference:
  `ensure_output_dir`. -/
  makeDirectories : σ → Pathname → Except SystemError Unit × σ
  execute : Sequence.Executor σ

/-- What the program does to the system. -/
inductive Effect where
  /-- It reads a file, or tries to. -/
  | read (path : Pathname)
  /-- It makes a directory, or tries to. -/
  | create (dir : Pathname)
  /-- It starts a command. -/
  | execute (command : Command)
  deriving Repr, DecidableEq

/-- What the program was doing. Reference: the contexts that `run` and `load_config` give to errors.
-/
inductive Stage where
  | loading (path : Pathname)
  | resolving
  | creating (dir : Pathname)
  | writing
  deriving Repr, DecidableEq

/-- The stage in words. -/
def Stage.describe : Stage → Text
  | .loading path => "loading config file " ++ path.display
  | .resolving => "resolving commands to run"
  | .creating dir => "creating output directory " ++ dir.display
  | .writing => "writing command output"

/-- An error together with what the program was doing. -/
structure Failed where
  stage : Stage
  error : Error
  deriving Repr, DecidableEq

/-- A text behind a mark, its further lines set in by `margin`. -/
def setIn (mark margin text : Text) : Text :=
  mark ++ List.intercalate ('\n' :: margin) (Text.pieces '\n' text)

/-- The lines under which causes are listed; they have numbers if there are several. The further
lines of a cause are set in as far as its first. -/
def causeLines : List Text → List Text
  | [cause] => [setIn "    " "    " cause]
  | causes => causes.zipIdx.map fun (cause, i) =>
    setIn ("    " ++ Text.ofNat i ++ ": ") "       " cause

/-- What the program says when it has failed. Reference: `main`. -/
def Failed.report (failed : Failed) : Text :=
  let title : Text := "benchseq error: " ++ failed.stage.describe
  let causes := failed.error.message :: failed.error.cause?.toList
  Text.unlines ([title, [], "Caused by:"] ++ causeLines causes)

/-- Why a run has no exit status of its own. -/
inductive Halt where
  /-- The program failed, and says what it was doing. -/
  | failed (failed : Failed)
  /-- It was stopped by an overflow. -/
  | overflow (operation : Overflow)
  /-- It was stopped because the description of a plan could not be written. -/
  | unprinted (reason : SystemError)
  deriving Repr, DecidableEq

/-- What a computation that can fail halts a run with. -/
def Halt.ofFault : Fault Failed → Halt
  | .refused reason => .failed reason
  | .overflow operation => .overflow operation

/-- Something that the program says about itself. -/
structure Notice where
  level : LogLevel
  text : Text
  deriving Repr, DecidableEq

/-- A run of the program. -/
structure Performance (σ : Type) where
  effects : List Effect
  notices : List Notice
  console : Sink
  /-- The state that the system was left in. -/
  system : σ
  /-- The exit status, unless something has halted the run. -/
  ending : Except Halt Nat

/-- The run with something done and said before it. -/
def Performance.after {σ : Type} (effects : List Effect) (notices : List Notice)
    (performance : Performance σ) : Performance σ :=
  { performance with
    effects := effects ++ performance.effects, notices := notices ++ performance.notices }

namespace Program

variable {σ : Type}

/-- A run that ends before anything was done. -/
def still (notices : List Notice) (system : σ) (console : Sink) (ending : Except Halt Nat) :
    Performance σ :=
  ⟨[], notices, console, system, ending⟩

/-! ## Configuration -/

/-- Loads the configuration: what was read, what was said, and the outcome. Reference:
`load_config`. -/
def loadConfig (host : Host σ) (system : σ) (arguments : Arguments) :
    List Effect × List Notice × Checked Failed CheckedConfig :=
  match Config.locate arguments.config (host.isFile system) with
  | none => ([], [⟨.debug, "no config file; using defaults"⟩], .ok .default)
  | some path =>
    let failed (error : Error) : Failed := ⟨.loading path, error⟩
    let loaded := match host.read system path with
      | .error reason => refuse (failed (.system reason))
      | .ok bytes => (Config.load bytes).mapReason failed
    ([.read path], [⟨.debug, "reading config"⟩], loaded)

/-! ## Commands -/

/-- What is said about a command that has been run. Reference: the events of `run_command`. -/
def stepNotices (step : Sequence.Step) : List Notice :=
  let start : List Notice := [⟨.debug, "executing command"⟩, ⟨.info, "starting command process"⟩]
  let problem : List Notice := match step.command.obstacle?, step.result.failure? with
    | some _, _ => [⟨.error, "command execution error"⟩]
    | none, some (.timedOut _) =>
      [⟨.warn, "command exceeded its timeout; killing process group"⟩]
    | none, _ => [⟨.info, "command process exited"⟩]
  start ++ problem

/-- Runs the commands of a plan. Reference: the end of `run`. -/
def runCommands (host : Host σ) (screen : Screen) (plan : Plan) (system : σ) (console : Sink) :
    Performance σ :=
  let display : Display := ⟨plan.policy, plan.color.enabled screen⟩
  let run := Sequence.run host.execute display plan.commands system console
  let finished : List Notice :=
    if run.ending.toOption.isSome then [⟨.info, "sequence finished"⟩] else []
  { effects := run.steps.map fun step => .execute step.command
    notices := ⟨.info, "starting sequence"⟩ :: run.steps.flatMap stepNotices ++ finished
    console := run.console
    system := run.executor
    ending := (run.ending.map (·.exitStatus plan.propagateFailure)).mapError fun fault =>
      .ofFault (fault.map fun reason => ⟨.writing, .system reason⟩) }

/-- Makes the output directory of a plan and runs its commands. Reference: `run`, from
`ensure_output_dir` on. -/
def execute (host : Host σ) (screen : Screen) (plan : Plan) (system : σ) (console : Sink) :
    Performance σ :=
  match plan.outputDir with
  | none => runCommands host screen plan system console
  | some dir =>
    let notices : List Notice :=
      if host.isPresent system dir then [] else [⟨.info, "creating output directory"⟩]
    match host.makeDirectories system dir with
    | (.error reason, system) =>
      ⟨[.create dir], notices, console, system, .error (.failed ⟨.creating dir, .system reason⟩)⟩
    | (.ok (), system) =>
      (runCommands host screen plan system console).after [.create dir] notices

/-- Shows a plan. That it cannot be written is no failure to be reported: it stops the program.
Reference: `print_dry_run`. -/
def describe (plan : Plan) (system : σ) (console : Sink) : Performance σ :=
  match (Sink.write (Text.utf8 plan.describe)).run console with
  | (.ok (), console) =>
    still [⟨.debug, "dry-run complete (no execution)"⟩] system console (.ok 0)
  | (.error (.refused reason), console) => still [] system console (.error (.unprinted reason))
  | (.error (.overflow operation), console) =>
    still [] system console (.error (.overflow operation))

/-! ## The whole -/

/-- Runs the program. Reference: `run`. -/
def perform (host : Host σ) (screen : Screen) (arguments : Arguments) (system : σ)
    (console : Sink) : Performance σ :=
  let (effects, notices, loaded) := loadConfig host system arguments
  let rest : Performance σ := match loaded with
    | .error fault => still [] system console (.error (.ofFault fault))
    | .ok checked =>
      match Plan.resolve arguments checked with
      | .error reason => still [] system console (.error (.failed ⟨.resolving, .config reason⟩))
      | .ok plan =>
        if arguments.dryRun then describe plan system console
        else execute host screen plan system console
  rest.after effects notices

end Program

/-! ## As a process -/

/-- What the program leaves as a process: its exit status, and what it wrote. -/
structure Answer where
  status : Nat
  stdout : List UInt8
  /-- The notices that are shown, before anything else on the standard error. -/
  notices : List Notice
  stderr : Text
  deriving Repr, DecidableEq

/-- The exit status of a program that was given bad arguments. -/
def misuseStatus : Nat := 2

/-- The exit status of a program that was stopped. -/
def stoppedStatus : Nat := 101

namespace Program

variable {σ : Type}

/-- What a stopped program says. -/
def stoppedReport (reason : Text) : Text := Text.unlines ["stopped: " ++ reason]

/-- The answer to a command line that gives no arguments. -/
def refused : Arguments.Refusal → Answer
  | .version => ⟨0, Text.utf8 Arguments.version, [], []⟩
  | .help => ⟨0, Text.utf8 Arguments.usage, [], []⟩
  | refusal => ⟨misuseStatus, [], [], Text.unlines ["error: " ++ refusal.message]⟩

/-- The answer of a run, of whose notices those are shown that the level lets through. -/
def answerOf (level : LogLevel) (performance : Performance σ) : Answer :=
  let notices := performance.notices.filter fun notice => level.shows notice.level
  let stdout := performance.console.received
  match performance.ending with
  | .ok status => ⟨status, stdout, notices, []⟩
  | .error (.failed failed) => ⟨1, stdout, notices, failed.report⟩
  | .error (.overflow operation) =>
    ⟨stoppedStatus, stdout, notices, stoppedReport operation.message⟩
  | .error (.unprinted reason) =>
    let message : Text := "failed printing to stdout: " ++ reason.message
    ⟨stoppedStatus, stdout, notices, stoppedReport message⟩

/-- Runs the program as a process, with its arguments and the level that the environment asks for.
Reference: `run_main`. -/
def start (host : Host σ) (screen : Screen) (arguments : List Text)
    (level : Option Text) (system : σ) : Answer × σ :=
  match Arguments.parse arguments with
  | .error (.refused refusal) => (refused refusal, system)
  | .error (.overflow operation) =>
    (⟨stoppedStatus, [], [], stoppedReport operation.message⟩, system)
  | .ok arguments =>
    let performance := perform host screen arguments system (.empty none)
    (answerOf (LogLevel.choose arguments.logLevel level) performance, performance.system)

end Program

end Runbook
