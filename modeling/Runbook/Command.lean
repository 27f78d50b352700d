import Runbook.Duration

/-!
# Commands

A command is one line for the shell, with an optional name to show in its place and an optional
limit on how long it may run.
-/

namespace Runbook

/-- One command of a sequence. Reference: `CommandSpec`. -/
structure Command where
  /-- The line given to the shell as it stands. -/
  line : Text
  /-- What to call the command instead of its line. -/
  name : Option Text
  /-- How long the command may run. -/
  timeout : Option Duration
  deriving Repr, DecidableEq

/-- What a command is called: its name, or its line if it has none. Reference: `CommandSpec::label`.
-/
def Command.label (command : Command) : Text := command.name.getD command.line

end Runbook
