import Runbook.Color
import Runbook.Excerpt
import Runbook.Pathname

/-!
# Configurations

A configuration holds the settings of a run, the policy of its report and the commands to run. It is
kept as it was written: time limits are still texts, and nothing has been checked. What is left out
of a configuration has the values of `Settings.default`, `Policy.default` and an empty list.
-/

namespace Runbook

/-- The settings that concern a whole run. Reference: `ConfigSection`. -/
structure Settings where
  /-- The directory that commands write to. It is created before the first command runs. -/
  outputDir : Option Pathname
  /-- Whether a failed command makes the program end with status 1. -/
  propagateFailure : Bool
  /-- The time limit of commands without one of their own. -/
  defaultTimeout : Option Text
  /-- Whether failures are shown in colour. -/
  color : ColorChoice
  deriving Repr, DecidableEq

/-- No directory, no time limit, failures not passed on, and colour on terminals only. Reference:
`ConfigSection::default`. -/
def Settings.default : Settings := ⟨none, false, none, .auto⟩

/-- One command of a configuration. Reference: `CommandConfig`. -/
structure Entry where
  line : Text
  name : Option Text
  timeout : Option Text
  deriving Repr, DecidableEq

/-- A configuration as it was written. Reference: `RawConfigFile`. -/
structure Config where
  settings : Settings
  report : Policy
  commands : List Entry
  deriving Repr, DecidableEq

/-- The configuration that says nothing. Reference: `RawConfigFile::default`. -/
def Config.default : Config := ⟨.default, .default, []⟩

end Runbook
