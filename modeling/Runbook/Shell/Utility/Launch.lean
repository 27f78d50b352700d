import Runbook.Shell.Signal
import Runbook.Shell.Utility.Basic

/-!
# Programs that run other programs

`env`, `nice`, `nohup`, `setsid` and `timeout` become, or watch, the program that their operands
name. What their options say ends at the first operand, since the rest belongs to that program.
`kill` sends signals to programs.
-/

namespace Runbook.Shell.Utility

/-! ## Values for a program -/

/-- Whether a text assigns a value to a name. -/
def isAssignment (text : Text) : Bool := text.elem '='

/-- The exported values with one more assignment. -/
def withAssignment (exports : List (Text × Text)) (text : Text) : List (Text × Text) :=
  let name := text.takeWhile (· ≠ '=')
  let value := text.drop (name.length + 1)
  if exports.any (·.1 = name) then
    exports.map fun entry => if entry.1 = name then (name, value) else entry
  else exports ++ [(name, value)]

/-- The values as lines, or each of them with a null character behind it. -/
def valueList (nulls : Bool) (texts : List Text) : Text :=
  texts.flatMap (· ++ [if nulls then Text.null else '\n'])

/-- The words of a text that is split as the first line of a script is. -/
def splitWords : Text → Option Char → Option Text → List Text
  | [], _, word => word.toList.map List.reverse
  | c :: rest, some quote, word =>
    if c = quote then splitWords rest none (some (word.getD []))
    else splitWords rest (some quote) (some (c :: word.getD []))
  | '\\' :: c :: rest, none, word => splitWords rest none (some (c :: word.getD []))
  | c :: rest, none, word =>
    if c = '\'' || c = '"' then splitWords rest (some c) (some (word.getD []))
    else if isWhite c then word.toList.map List.reverse ++ splitWords rest none none
    else splitWords rest none (some (c :: word.getD []))

/-- The arguments of `env` with the words of a text in the place of the option that gives it. -/
def openSplit : List Text → List Text
  | ('-' :: 'S' :: text) :: rest =>
    if text.isEmpty then splitWords (rest.headD []) none none ++ rest.drop 1
    else splitWords text none none ++ rest
  | arguments => arguments

/-- The options of `env`. -/
def envSwitches : Switches where
  plain := "iv0"
  valued := "uCS"
  long := [("ignore-environment", 'i'), ("null", '0'), ("unset", 'u'), ("chdir", 'C'),
    ("split-string", 'S'), ("debug", 'v')]
  areLeading := true

/-- `env` runs a program with changed values, or shows the values. -/
def env : Utility := fun job =>
  withSwitches envSwitches 125 (fun job given =>
    let isBare := given.operands.head? = some "-"
    let operands := if isBare then given.operands.drop 1 else given.operands
    let unwanted := given.values 'u'
    match unwanted.find? fun name => name.isEmpty || name.elem '=' with
    | some name =>
      job.complain ("cannot unset " ++ quoted name ++ ": Invalid argument") (.finish 125)
    | none =>
      let exports := if isBare || given.has 'i' then [] else
        job.exports.filter (!unwanted.elem ·.1)
      let exports := (operands.takeWhile isAssignment).foldl withAssignment exports
      match operands.dropWhile isAssignment with
      | [] => job.answers (valueList (given.has '0')
          (exports.map fun (name, value) => name ++ '=' :: value))
      | command =>
        if given.has '0' then job.misused 125 "cannot specify --null (-0) with command"
        else
          let name := command.headD []
          let hint : Text := if name.any isWhite then
            "\n" ++ job.name ++ ": use -[v]S to pass options in shebang lines" else []
          .become command exports fun error =>
            job.name ++ ": " ++ quoted name ++ ": " ++ error.reason ++ hint)
    { job with arguments := openSplit job.arguments }

/-- `printenv` shows values. -/
def printenv : Utility :=
  withSwitches { plain := "0", long := [("null", '0')], areLeading := true } 2
  fun job given =>
    let listed := valueList (given.has '0')
    if given.operands.isEmpty then
      job.answers (listed (job.exports.map fun (name, value) => name ++ '=' :: value))
    else
      let values := given.operands.map fun name => job.exports.lookup name
      .say (listed (values.filterMap fun value => value))
        (.finish (if values.all Option.isSome then 0 else 1))

/-! ## Ways to run a program -/

/-- The complaint about a program that cannot be run. -/
def cannotRun (job : Job) (command : List Text) (error : SystemError) : Text :=
  job.name ++ ": failed to run command " ++ quoted (command.headD []) ++ ": " ++ error.reason

/-- `nohup` runs a program as it is. -/
def nohup : Utility := withSwitches { plain := [], areLeading := true } 125 fun job given =>
  match given.operands with
  | [] => job.misused 125 "missing operand"
  | command => .become command job.exports (cannotRun job command)

/-- `setsid` runs a program as it is. -/
def setsid : Utility := withSwitches { plain := "cfw", areLeading := true } 1 fun job given =>
  match given.operands with
  | [] => job.misused 1 "no command specified"
  | command => .become command job.exports fun error =>
      job.name ++ ": failed to execute " ++ command.headD [] ++ ": " ++ error.reason

/-- `nice` runs a program as it is, or says that it would. -/
def nice : Utility := withSwitches
    { plain := "0123456789", valued := "n", long := [("adjustment", 'n')], areLeading := true } 125
    fun job given =>
  let isNumber (text : Text) : Bool :=
    (natural? (if text.head? = some '-' || text.head? = some '+' then text.drop 1 else text)).isSome
  match (given.values 'n').find? (!isNumber ·), given.operands with
  | some text, _ => job.complain ("invalid adjustment " ++ quoted text) (.finish 125)
  | none, [] =>
    if given.options.isEmpty then job.answers "0\n"
    else job.misused 125 "a command must be given with an adjustment"
  | none, command => .become command job.exports fun error =>
      job.name ++ ": " ++ quoted (command.headD []) ++ ": " ++ error.reason

/-- The options of `timeout`. -/
def timeoutSwitches : Switches where
  plain := "pvf"
  valued := "sk"
  long := [("signal", 's'), ("kill-after", 'k'), ("preserve-status", 'p'), ("foreground", 'f'),
    ("verbose", 'v')]
  areLeading := true

/-- The length of time that a text means, unless it never ends. -/
def interval (text : Text) : Except Text (Option Nat) :=
  match span? text with
  | some (some 0) | some none => .ok none
  | some span => .ok span
  | none => .error ("invalid time interval " ++ quoted text)

/-- When signals are sent that end a program after a time. -/
def alarms (signal : Nat) (after killAfter : Option Nat) : List (Nat × Nat) :=
  match after, killAfter with
  | none, _ => []
  | some time, none => [(time, signal)]
  | some time, some more => [(time, signal), (time + more, sigKill)]

/-- `timeout` runs a program, and sends it a signal after a time. -/
def timeout : Utility := withSwitches timeoutSwitches 125 fun job given =>
  let read : Except Text (List (Nat × Nat) × List Text) := do
    let killAfter ← match given.value? 'k' with
      | some text => interval text
      | none => pure none
    let signal ← match given.value? 's' with
      | some name => match longSignalOf? name with
        | some signal => pure signal
        | none => throw (quoted name ++ ": invalid signal")
      | none => pure sigTerm
    match given.operands with
    | after :: command => return (alarms signal (← interval after) killAfter, command)
    | [] => return ([], [])
  if given.operands.length < 2 then
    .complain ("Try '" ++ job.name ++ " --help' for more information.") (.finish 125)
  else match read with
    | .ok (alarms, command) =>
      .limit alarms (given.has 'p') command job.exports (cannotRun job command)
    | .error text => job.misused 125 text

/-! ## Signals -/

/-- What `kill` is asked to do. -/
inductive KillRequest where
  | sends (signal : Nat) (targets : List Text)
  | names (signal : Text)
  | lists

/-- What the arguments of `kill` ask for. -/
def killRequest? : List Text → Option KillRequest
  | ['-', 's'] :: name :: targets => (longSignalOf? name).map (.sends · targets)
  | ['-', '-'] :: targets => some (.sends sigTerm targets)
  | [['-', 'l']] => some .lists
  | ['-', 'l'] :: name :: _ => some (.names name)
  | ('-' :: name) :: targets => (longSignalOf? name).map (.sends · targets)
  | targets => some (.sends sigTerm targets)

/-- `kill` sends signals. -/
def kill : Utility := fun job =>
  match killRequest? job.arguments with
  | none =>
    job.complain ("invalid argument " ++ ((job.arguments.headD []).drop 1).take 1) (.finish 1)
  | some .lists =>
    let line (names : List Text) : Text := List.intercalate [' '] names
    let second := (signalNames.drop 16).take 15
    job.answers (line (signalNames.take 16) ++ '\n' :: line second ++ ['\n'])
  | some (.names name) =>
    let text := match natural? name with
      | some n => (signalNames[n - 1]?).getD []
      | none => ((longSignalOf? name).map Text.ofNat).getD []
    job.answers (text ++ ['\n'])
  | some (.sends signal targets) =>
    let send (target : Text) (next : Nat → Activity) (status : Nat) : Activity :=
      match processNumber? target with
      | none => job.complain ("failed to parse argument: " ++ quoted target) (next 1)
      | some n => .send n signal fun
        | true => next status
        | false => job.complain ("(" ++ target ++ "): No such process") (next 1)
    targets.foldr send .finish 0

end Runbook.Shell.Utility
