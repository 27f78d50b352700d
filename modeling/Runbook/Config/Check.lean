import Runbook.Config.Error

/-!
# Checking configurations

`Config.check` accepts a configuration that can be run: a report of at least one line whose window
is no longer than a text shown in full, commands that are not blank, and time limits that are
durations greater than zero. The first fault is reported, in this order: the report, blank commands,
the default time limit, the time limits of commands. An accepted configuration is kept as it is,
together with its time limits as durations.
-/

namespace Runbook

/-- A configuration that can be run. Reference: `ConfigFile`. -/
structure CheckedConfig where
  /-- The configuration as it was written. -/
  config : Config
  defaultTimeout : Option Duration
  /-- The time limit of each command, in their order. -/
  timeouts : List (Option Duration)
  deriving Repr, DecidableEq

/-- The checked configuration that says nothing. Reference: the end of `load_config`. -/
def CheckedConfig.default : CheckedConfig := ⟨.default, none, []⟩

/-- The time limit that the command at `index` sets for itself, if it does. Reference:
`ConfigFile::command_timeout`. -/
def CheckedConfig.timeout? (checked : CheckedConfig) (index : Nat) : Option Duration :=
  checked.timeouts[index]?.join

/-- Reads a time limit, which has to be greater than zero. Reference: `parse_timeout`. -/
def readTimeout (text : Text) : Checked TimeoutError Duration := do
  let limit ← (Duration.parse text).mapReason .unreadable
  if limit.nanoseconds = 0 then refuse .zero else return limit

/-- Checks that a report shows at least one line and that its window is not too long. Reference:
`validate_report`. -/
def Policy.check (policy : Policy) : Checked ConfigError Unit := do
  if policy.maxLines = 0 then refuse .noLines
  let window ← (addWord policy.head.toNat policy.tail.toNat).mapError .overflow
  if window > policy.maxLines.toNat then refuse (.windowTooLong policy)

/-- Checks that no command is blank. The first of them has the given position. Reference:
`validate_commands`. -/
def checkLines (position : Nat) : List Entry → Checked ConfigError Unit
  | [] => .ok ()
  | entry :: rest =>
    if Text.blank entry.line then refuse (.blankCommand position)
    else checkLines (position + 1) rest

/-- Reads an optional time limit of `owner`. -/
def readTimeout? (owner : TimeoutOwner) : Option Text → Checked ConfigError (Option Duration)
  | none => .ok none
  | some text => return some (← (readTimeout text).mapReason (.badTimeout owner))

/-- Reads the time limits of commands. The first of them has the given position. Reference:
`ConfigFile::try_from`. -/
def readTimeouts (position : Nat) : List Entry → Checked ConfigError (List (Option Duration))
  | [] => .ok []
  | entry :: rest => do
    let timeout ← readTimeout? (.command position) entry.timeout
    return timeout :: (← readTimeouts (position + 1) rest)

/-- Accepts a configuration that can be run. Reference: `ConfigFile::try_from`. -/
def Config.check (config : Config) : Checked ConfigError CheckedConfig := do
  config.report.check
  checkLines 1 config.commands
  let defaultTimeout ← readTimeout? .settings config.settings.defaultTimeout
  let timeouts ← readTimeouts 1 config.commands
  return ⟨config, defaultTimeout, timeouts⟩

end Runbook
