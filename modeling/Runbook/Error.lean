import Runbook.Config.Error
import Runbook.SystemError
import Runbook.Toml.DataError

/-!
# Errors of the program

A failing command is no error of the program. An error is what keeps the program from running its
commands or from showing their results.
-/

namespace Runbook

/-- What went wrong. Reference: `BenchseqError`. -/
inductive Error where
  /-- The configuration and the command line do not describe a run. -/
  | config (reason : ConfigError)
  /-- The system refused an operation. -/
  | system (reason : SystemError)
  /-- The configuration file cannot be read as one. -/
  | toml (reason : Toml.ReadError)
  deriving Repr, DecidableEq

namespace Error

/-- The error in words. Reference: the `Display` text of `BenchseqError`. -/
def message : Error → Text
  | .config reason => "Configuration error: " ++ reason.message
  | .system reason => "IO error: " ++ reason.message
  | .toml reason => "TOML parsing error: " ++ reason.message

/-- The error behind the error, where there is one. Reference: `BenchseqError::source`. -/
def cause? : Error → Option Text
  | .config _ => none
  | .system reason => some reason.message
  | .toml reason => some reason.message

end Error

end Runbook
