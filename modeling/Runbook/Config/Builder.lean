import Runbook.Config.Check
import Runbook.Text.Quoted

/-!
# Building configurations

A configuration can be put together setting by setting, starting from the one that says nothing. A
later setting replaces an earlier one of the same kind, and commands are appended. The result is
meant to be valid: to build a configuration that does not pass its check is a mistake that stops the
program.
-/

namespace Runbook

namespace Config

/-- One thing to set in a configuration. Reference: the methods of `ConfigFileBuilder`. -/
inductive Setting where
  | outputDir (dir : Text)
  | defaultTimeout (text : Text)
  | propagateFailure (value : Bool)
  | color (choice : ColorChoice)
  | report (policy : Policy)
  | command (entry : Entry)
  deriving Repr, DecidableEq

/-- The configuration with one more thing set. -/
def set (config : Config) : Setting → Config
  | .outputDir dir => { config with settings.outputDir := some (.ofText dir) }
  | .defaultTimeout text => { config with settings.defaultTimeout := some text }
  | .propagateFailure value => { config with settings.propagateFailure := value }
  | .color choice => { config with settings.color := choice }
  | .report policy => { config with report := policy }
  | .command entry => { config with commands := config.commands ++ [entry] }

/-- The configuration that the given settings make, in order. Reference: `ConfigFileBuilder`. -/
def ofSettings (settings : List Setting) : Config := settings.foldl set .default

/-- Builds a configuration, or says on what the program stops. Reference:
`ConfigFileBuilder::build`. -/
def build (settings : List Setting) : Except Text CheckedConfig :=
  (ofSettings settings).check.mapError fun
    | .refused reason =>
      "Failed to build valid config from builder: ConfigError(" ++ Text.quoted reason.message ++ ")"
    | .overflow operation => operation.message

end Config

end Runbook
