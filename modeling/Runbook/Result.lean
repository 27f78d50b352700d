import Runbook.Command
import Runbook.Text.Utf8

/-!
# Results of commands

A result has one of two shapes. A success carries what the command wrote to its standard output. A
failure carries what it wrote to its standard error, and the cause: an exit status or an expired
time limit. What was written to the other channel is dropped. `Result.record` is the same result as
a record with a field for each of these things, where the cause is told by the fields.

`Result.ofStatus` and `Result.ofTimeout` build failures that always have something to show: a
failure without a word of its own gets a sentence that names its status, and a time limit adds a
note on a line of its own. `Ending` is how a process can end, and `Result.ofEnding` the result that
each ending leaves.
-/

namespace Runbook

/-- Why a command failed. Reference: `CommandFailure`. -/
inductive Failure where
  /-- It ended with this status; -1 stands for a command without a status of its own. -/
  | exited (status : Int)
  /-- It was killed when this time limit expired. -/
  | timedOut (limit : Duration)
  deriving Repr, DecidableEq

namespace Failure

/-- The status of a command that could not be started or was ended by a signal. Reference:
`UNKNOWN_EXIT_CODE`. -/
def unknownStatus : Int := -1

/-- The status of a command that outlived its time limit. Reference: `TIMEOUT_EXIT_CODE`. -/
def timeoutStatus : Int := 124

/-- The status that stands for a failure. -/
def status : Failure → Int
  | .exited status => status
  | .timedOut _ => timeoutStatus

/-- The time limit that expired, if that is the cause. -/
def limit? : Failure → Option Duration
  | .exited _ => none
  | .timedOut limit => some limit

/-- The failure in words. Reference: the `Display` text of `CommandFailure`. -/
def message : Failure → Text
  | .exited status => "command exited with status " ++ Text.ofInt status
  | .timedOut limit => "command timed out after " ++ limit.describe

end Failure

/-- The result of running one command. Reference: `ExecutionResult`, as the builders leave it. -/
inductive Result where
  | success (stdout : Text)
  | failure (cause : Failure) (stderr : Text)
  deriving Repr, DecidableEq

namespace Result

/-- A failure with an exit status. The status 0 is not one, and counts as unknown. A failure that
wrote nothing but blank characters is given its own message to show. Reference:
`ExecutionResult::failure`. -/
def ofStatus (status : Int) (stderr : Text) : Result :=
  let cause := Failure.exited (if status = 0 then Failure.unknownStatus else status)
  .failure cause (if Text.blank stderr then cause.message else stderr)

/-- A failure by an expired time limit: what was written until then, and a note. Reference:
`ExecutionResult::timed_out`. -/
def ofTimeout (limit : Duration) (stderr : Text) : Result :=
  let cause := Failure.timedOut limit
  .failure cause (Text.appendNote stderr (cause.message ++ " and was killed"))

/-- What is shown as the standard output; a failure has none. Reference: `ExecutionResult::stdout`.
-/
def stdout : Result → Text
  | .success text => text
  | .failure _ _ => []

/-- What is shown as the standard error; a success has none. Reference: `ExecutionResult::stderr`.
-/
def stderr : Result → Text
  | .success _ => []
  | .failure _ text => text

/-- Why the command failed, if it did. Reference: `ExecutionResult::failure_kind`. -/
def failure? : Result → Option Failure
  | .success _ => none
  | .failure cause _ => some cause

/-- The status that stands for the result. Reference: `ExecutionResult::exit_code`. -/
def status : Result → Int
  | .success _ => 0
  | .failure cause _ => cause.status

/-- Whether the command succeeded. Reference: `ExecutionResult::is_success`. -/
def isSuccess (result : Result) : Bool := result.failure?.isNone

end Result

/-! ## Records -/

/-- A result as a record of what is to be shown, of the status and of the time limit that expired,
if one did. Not every record is that of a result; the builders make only such records. Reference:
`ExecutionResult`. -/
structure Record where
  stdout : Text
  stderr : Text
  status : Int
  timedOut : Option Duration
  deriving Repr, DecidableEq

namespace Record

/-- The record of a success. Reference: `ExecutionResult::success`. -/
def success (stdout : Text) : Record := ⟨stdout, [], 0, none⟩

/-- The record of a failure with a status. Reference: `ExecutionResult::failure`. -/
def ofStatus (status : Int) (stderr : Text) : Record :=
  let status := if status = 0 then Failure.unknownStatus else status
  let stderr :=
    if Text.blank stderr then "command exited with status " ++ Text.ofInt status else stderr
  ⟨[], stderr, status, none⟩

/-- The record of a failure by an expired time limit. Reference: `ExecutionResult::timed_out`. -/
def ofTimeout (limit : Duration) (stderr : Text) : Record :=
  let note : Text := "command timed out after " ++ limit.describe ++ " and was killed"
  ⟨[], Text.appendNote stderr note, Failure.timeoutStatus, some limit⟩

/-- Whether the status is that of a success. Reference: `ExecutionResult::is_success`. -/
def isSuccess (record : Record) : Bool := record.status == 0

/-- Why the command failed, as the status and the time limit tell it. Reference:
`ExecutionResult::failure_kind`. -/
def failure? (record : Record) : Option Failure :=
  match record.isSuccess, record.timedOut with
  | true, _ => none
  | false, some limit => some (.timedOut limit)
  | false, none => some (.exited record.status)

end Record

/-- The record of a result. -/
def Result.record : Result → Record
  | .success stdout => .success stdout
  | .failure cause stderr => ⟨[], stderr, cause.status, cause.limit?⟩

/-! ## How processes end -/

/-- Why a process could not be started. Reference: the errors of `Command::spawn`. -/
inductive SpawnError where
  /-- The command line holds the null character. -/
  | nullCharacter
  /-- The command line is longer than the system takes. -/
  | tooLong
  /-- The system has another reason, here in its words. -/
  | refused (reason : Text)
  deriving Repr, DecidableEq

/-- The reason in words. -/
def SpawnError.message : SpawnError → Text
  | .nullCharacter => "nul byte found in provided data"
  | .tooLong => "Argument list too long (os error 7)"
  | .refused reason => reason

/-- One more than the longest line that may be given to a shell, in bytes. -/
def lineLimit : Nat := 131072

/-- Why no process can be started for the command, if that is so. Reference: the errors of
`Command::spawn`. -/
def Command.obstacle? (command : Command) : Option SpawnError :=
  if command.line.elem Text.null then some .nullCharacter
  else if (Text.utf8 command.line).length ≥ lineLimit then some .tooLong
  else none

/-- How the process of a command ended. Reference: what `run_command_inner` tells apart. -/
inductive Ending where
  | notStarted (reason : SpawnError)
  | exited (status : Int)
  | signalled (signal : Nat)
  /-- It was killed when the time limit of the command expired. -/
  | timedOut
  deriving Repr, DecidableEq

/-- The result that the process of a command leaves: how it ended, and what it wrote to its two
channels. Only a command with a time limit can outlive it. Reference: `run_command`, `normalize`,
`signal_note`. -/
def Result.ofEnding (command : Command) (ending : Ending) (stdout stderr : Text) : Result :=
  match ending with
  | .notStarted reason =>
    .ofStatus Failure.unknownStatus
      ("spawning process for command '" ++ command.label ++ "': " ++ reason.message)
  | .exited status => if status = 0 then .success stdout else .ofStatus status stderr
  | .signalled signal =>
    .ofStatus Failure.unknownStatus
      (Text.appendNote stderr ("command terminated by signal " ++ Text.ofNat signal))
  | .timedOut => .ofTimeout (command.timeout.getD ⟨0⟩) stderr

end Runbook
