import Runbook.Color
import Runbook.Duration
import Runbook.LogLevel
import Runbook.Pathname

/-!
# Arguments of the command line

`Arguments.parse` reads the arguments of the program from left to right. Commands and options may be
mixed freely. An option stands as `--name value` or `--name=value`, a switch as `--name`, and after
`--` everything is a command. A single hyphen and an empty argument are ordinary values. Each option
and each switch may be given once.

The value of an option is read only when the option is settled: at once if it is attached by an
equals sign, and otherwise when the argument after the value shows what it is. Arguments that name
no option are refused as soon as they are met, so they win over a bad value just before them; only
a value that overflows still stops the program first.

The arguments that are read here are texts, and so are the paths among them. `Arguments` holds paths
of any name: a system that passes on bytes lets a path be given that no text names.
-/

namespace Runbook

/-- What the command line asks for. Reference: `CliArgs`. -/
structure Arguments where
  /-- The commands to run, in order. -/
  commands : List Text
  /-- The file to read the configuration from. -/
  config : Option Pathname
  outputDir : Option Pathname
  timeout : Option Duration
  propagateFailure : Bool
  color : Option ColorChoice
  logLevel : Option LogLevel
  dryRun : Bool
  deriving Repr, DecidableEq

namespace Arguments

/-- The command line that asks for nothing. -/
def none : Arguments := ⟨[], .none, .none, .none, false, .none, .none, false⟩

/-- The name and version that the program gives when asked. -/
def version : Text := "benchseq 0.1.0\n"

/-- An option that takes a value. Reference: the options of `CliArgs`. -/
inductive Parameter where
  | config
  | outputDir
  | timeout
  | color
  | logLevel
  deriving Repr, DecidableEq

/-- An option that takes no value. Reference: the switches of `CliArgs`. -/
inductive Switch where
  | propagateFailure
  | dryRun
  | help
  | version
  deriving Repr, DecidableEq

/-- What a long name stands for. -/
inductive Flag where
  | parameter (parameter : Parameter)
  | switch (switch : Switch)
  deriving Repr, DecidableEq

/-- What the long name `name`, given without its two hyphens, stands for. -/
def Flag.ofName? (name : Text) : Option Flag :=
  if name = "config" then some (.parameter .config)
  else if name = "output-dir" then some (.parameter .outputDir)
  else if name = "timeout" then some (.parameter .timeout)
  else if name = "color" then some (.parameter .color)
  else if name = "log-level" then some (.parameter .logLevel)
  else if name = "propagate-failure" then some (.switch .propagateFailure)
  else if name = "dry-run" then some (.switch .dryRun)
  else if name = "help" then some (.switch .help)
  else if name = "version" then some (.switch .version)
  else .none

/-- The name of a parameter. -/
def Parameter.name : Parameter → Text
  | .config => "config"
  | .outputDir => "output-dir"
  | .timeout => "timeout"
  | .color => "color"
  | .logLevel => "log-level"

/-- The name of a switch. -/
def Switch.name : Switch → Text
  | .propagateFailure => "propagate-failure"
  | .dryRun => "dry-run"
  | .help => "help"
  | .version => "version"

/-- The name of what stands behind two hyphens. -/
def Flag.name : Flag → Text
  | .parameter p => p.name
  | .switch s => s.name

/-- What a letter after a single hyphen stands for. -/
def Switch.ofLetter? (letter : Char) : Option Switch :=
  if letter = 'h' then some .help
  else if letter = 'V' then some .version
  else .none

/-- Why a command line gives no arguments: a mistake in it, or a wish to be told something. -/
inductive Refusal where
  /-- The argument looks like an option but names none. -/
  | unknownArgument
  /-- The option lacks its value, or the value is not one of those it takes. -/
  | invalidValue (parameter : Parameter)
  /-- The value cannot be read. -/
  | unreadableValue (parameter : Parameter) (reason : Duration.ParseError)
  /-- The option was given before. -/
  | repeated (flag : Flag)
  /-- The switch was given a value. -/
  | unexpectedValue (switch : Switch)
  | help
  | version
  deriving Repr, DecidableEq

/-- The reason in words, where it is a mistake. -/
def Refusal.message : Refusal → Text
  | .unknownArgument => "unexpected argument found"
  | .invalidValue parameter => "a value is required for '--" ++ parameter.name ++ "'"
  | .unreadableValue parameter reason =>
    "invalid value for '--" ++ parameter.name ++ "': " ++ reason.message
  | .repeated flag => "the argument '--" ++ flag.name ++ "' cannot be used multiple times"
  | .unexpectedValue switch => "unexpected value for '--" ++ switch.name ++ "' found"
  | .help | .version => []

/-- How the program is used. -/
def usage : Text := Text.unlines [
  "Run build and benchmark commands in order, stopping at the first failure.",
  "",
  "Usage: benchseq [OPTIONS] [COMMAND]...",
  "",
  "Options:",
  "      --config <PATH>        Path to the config file (TOML)",
  "      --output-dir <DIR>     Directory for command logs; replaces {output_dir} in commands",
  "      --timeout <DURATION>   Time limit for commands without their own `timeout`",
  "      --propagate-failure    Exit with status 1 when a command fails",
  "      --color <WHEN>         Highlight stderr in color [auto, always, never]",
  "      --log-level <LEVEL>    Logging level [error, warn, info, debug, trace]",
  "      --dry-run              Print the resolved command list, but don't execute anything",
  "  -h, --help                 Print help",
  "  -V, --version              Print version"]

/-- A value that has to be one of a few, or non-empty. -/
def require {α : Type} (parameter : Parameter) : Option α → Checked Refusal α
  | some value => .ok value
  | .none => refuse (.invalidValue parameter)

/-- Whether the parameter has been given. -/
def has (arguments : Arguments) : Parameter → Bool
  | .config => arguments.config.isSome
  | .outputDir => arguments.outputDir.isSome
  | .timeout => arguments.timeout.isSome
  | .color => arguments.color.isSome
  | .logLevel => arguments.logLevel.isSome

/-- Reads the value of a parameter into the arguments. -/
def assign (arguments : Arguments) (parameter : Parameter) (value : Text) :
    Checked Refusal Arguments :=
  let path := if value.isEmpty then .none else some (Pathname.ofText value)
  if arguments.has parameter then refuse (.repeated (.parameter parameter))
  else match parameter with
    | .config => return { arguments with config := some (← require parameter path) }
    | .outputDir => return { arguments with outputDir := some (← require parameter path) }
    | .timeout => do
      let limit ← (Duration.parse value).mapReason (.unreadableValue parameter)
      return { arguments with timeout := some limit }
    | .color => return { arguments with
        color := some (← require parameter (ColorChoice.ofName? value)) }
    | .logLevel => return { arguments with
        logLevel := some (← require parameter (LogLevel.ofName? value)) }

/-- Turns a switch on. -/
def turnOn (arguments : Arguments) : Switch → Checked Refusal Arguments
  | .propagateFailure =>
    if arguments.propagateFailure then refuse (.repeated (.switch .propagateFailure))
    else .ok { arguments with propagateFailure := true }
  | .dryRun =>
    if arguments.dryRun then refuse (.repeated (.switch .dryRun))
    else .ok { arguments with dryRun := true }
  | .help => refuse .help
  | .version => refuse .version

/-- The arguments read so far. -/
structure Reading where
  arguments : Arguments
  /-- A parameter that is not settled yet, and its value if that has been met. -/
  pending : Option (Parameter × Option Text)
  deriving Repr, DecidableEq

namespace Reading

/-- Settles the parameter that is pending, if there is one. -/
def settle (reading : Reading) : Checked Refusal Arguments :=
  match reading.pending with
  | .none => .ok reading.arguments
  | some (parameter, .none) => refuse (.invalidValue parameter)
  | some (parameter, some value) => reading.arguments.assign parameter value

/-- Takes the argument as a command. -/
def command (reading : Reading) (argument : Text) : Checked Refusal Reading := do
  let arguments ← reading.settle
  return ⟨{ arguments with commands := arguments.commands ++ [argument] }, .none⟩

/-- Refuses the argument at hand. What is pending is looked at before, but whatever comes of that
short of an overflow is passed over. -/
def reject (reading : Reading) (refusal : Refusal) : Checked Refusal Reading :=
  match reading.settle with
  | .error (.overflow operation) => .error (.overflow operation)
  | _ => refuse refusal

/-- Takes a switch, which has no value. -/
def switch (reading : Reading) (switch : Switch) (value : Option Text) :
    Checked Refusal Reading :=
  match value with
  | some _ => reading.reject (.unexpectedValue switch)
  | .none => do return ⟨← (← reading.settle).turnOn switch, .none⟩

/-- Takes an argument with two hyphens before it. -/
def long (reading : Reading) (body : Text) : Checked Refusal Reading :=
  let name := body.takeWhile (· ≠ '=')
  let value := (body.dropWhile (· ≠ '=')).tail?
  match Flag.ofName? name with
  | .none => reading.reject .unknownArgument
  | some (.switch switch) => reading.switch switch value
  | some (.parameter parameter) => do
    let arguments ← reading.settle
    match value with
    | .none => return ⟨arguments, some (parameter, .none)⟩
    | some value => return ⟨← arguments.assign parameter value, .none⟩

/-- Takes an argument with one hyphen before it and at least one letter. Only its first letter
matters, since every letter that stands for something ends the reading. -/
def short (reading : Reading) (letter : Char) : Checked Refusal Reading :=
  match Switch.ofLetter? letter with
  | .none => reading.reject .unknownArgument
  | some switch => reading.switch switch .none

/-- Takes an argument that is not marked as an option: the value that is waited for, or a command.
-/
def plain (reading : Reading) (argument : Text) : Checked Refusal Reading :=
  match reading.pending with
  | some (parameter, .none) => .ok { reading with pending := some (parameter, some argument) }
  | _ => reading.command argument

end Reading

/-- Reads the arguments that are left. -/
def parseFrom (reading : Reading) : List Text → Checked Refusal Arguments
  | [] => reading.settle
  | argument :: rest => do
    match argument with
    | ['-', '-'] => (← rest.foldlM Reading.command reading).settle
    | '-' :: '-' :: body => parseFrom (← reading.long body) rest
    | '-' :: letter :: _ => parseFrom (← reading.short letter) rest
    | _ => parseFrom (← reading.plain argument) rest

/-- Reads the arguments of the program. Reference: `cli::parse`. -/
def parse (arguments : List Text) : Checked Refusal Arguments :=
  parseFrom ⟨none, .none⟩ arguments

end Arguments

end Runbook
