import Runbook.Text.Lowercase

/-!
# Log levels

How much the program says about itself. A level given on the command line wins over one in the
environment; an unrecognised level in the environment counts as none, and with none at all only
warnings and errors are said.
-/

namespace Runbook

/-- How much to log. Reference: `LogLevel`. -/
inductive LogLevel where
  | error
  | warn
  | info
  | debug
  | trace
  deriving Repr, DecidableEq

namespace LogLevel

/-- The name of a level. -/
def name : LogLevel → Text
  | .error => "error"
  | .warn => "warn"
  | .info => "info"
  | .debug => "debug"
  | .trace => "trace"

/-- The level with exactly the given name. -/
def ofName? (name : Text) : Option LogLevel :=
  if name = "error" then some .error
  else if name = "warn" then some .warn
  else if name = "info" then some .info
  else if name = "debug" then some .debug
  else if name = "trace" then some .trace
  else none

/-- The name of a level is read as the level. -/
theorem ofName?_name (level : LogLevel) : ofName? level.name = some level := by
  cases level <;> decide +kernel

/-- Reads a level from the environment: in any letter case, with blank characters around it, and
with `warning` as a second name of `warn`. Reference: `parse_level_str`. -/
def ofEnvironment? (text : Text) : Option LogLevel :=
  let name := Text.lower (Text.trim text)
  if name = "warning" then some .warn else ofName? name

/-- The level to log at. Reference: `resolve_level`. -/
def choose (flag : Option LogLevel) (environment : Option Text) : LogLevel :=
  (flag <|> environment.bind ofEnvironment?).getD .warn

/-- Whether a message of the level `message` is logged at the level `limit`. -/
def shows (limit message : LogLevel) : Bool := message.ctorIdx ≤ limit.ctorIdx

end LogLevel

end Runbook
