import Runbook.Arguments
import Runbook.Command
import Runbook.Config.Check
import Runbook.Plan.Placeholder

/-!
# Plans

A plan is what a command line and a configuration amount to together. Commands on the command line
stand in for all commands of the configuration; its other parts still hold. Other arguments win over
the configuration one by one. The time limit of a command is its own, or the one on the command
line, or the default of the configuration.
-/

namespace Runbook

/-- Everything that is needed to perform a run. Reference: `RunPlan`. -/
structure Plan where
  commands : List Command
  outputDir : Option Pathname
  propagateFailure : Bool
  policy : Policy
  color : ColorChoice
  deriving Repr, DecidableEq

namespace Plan

/-- The command that an argument stands for. Reference: `RunPlan::resolve`. -/
def commandOfArgument (dir : Option Pathname) (limit : Option Duration) (line : Text) :
    Except ConfigError Command :=
  if Text.blank line then .error .blankArgument
  else return ⟨← Placeholder.expand line dir, none, limit⟩

/-- The command that an entry of the configuration stands for, given the time limit it sets.
Reference: `RunPlan::resolve`. -/
def commandOfEntry (dir : Option Pathname) (limit own : Option Duration) (entry : Entry) :
    Except ConfigError Command :=
  return ⟨← Placeholder.expand entry.line dir, entry.name, own <|> limit⟩

/-- The plan for a command line and a configuration. Reference: `RunPlan::resolve`. -/
def resolve (arguments : Arguments) (checked : CheckedConfig) : Except ConfigError Plan := do
  let settings := checked.config.settings
  let dir := arguments.outputDir <|> settings.outputDir
  let limit := arguments.timeout <|> checked.defaultTimeout
  let commands ←
    if arguments.commands.isEmpty then
      checked.config.commands.zipIdx.mapM fun (entry, index) =>
        commandOfEntry dir limit (checked.timeout? index) entry
    else arguments.commands.mapM (commandOfArgument dir limit)
  if commands.isEmpty then throw .noCommands
  return {
    commands
    outputDir := dir
    propagateFailure := arguments.propagateFailure || settings.propagateFailure
    policy := checked.config.report
    color := arguments.color.getD settings.color }

end Plan

end Runbook
