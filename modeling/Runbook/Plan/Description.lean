import Runbook.Plan.Basic

/-!
# Describing plans

`Plan.describe` shows a plan without performing it: its settings, and then each command by its
position and label, with the command line where a name hides it, and with the time limit if there is
one.
-/

namespace Runbook.Plan

/-- A truth value in words. -/
def describeBool (value : Bool) : Text := if value then "true" else "false"

/-- The line that shows a time limit. -/
def describeTimeout : Option Duration → List Text
  | none => []
  | some limit => ["      timeout: " ++ limit.describe]

/-- The line that shows the output directory. -/
def describeOutputDir : Option Pathname → List Text
  | none => []
  | some dir => ["  output_dir = " ++ dir.display]

/-- The line that shows a policy. -/
def describePolicy (policy : Policy) : Text :=
  "  report = " ++ Text.ofNat policy.maxLines.toNat ++ " lines max, head " ++
    Text.ofNat policy.head.toNat ++ ", tail " ++ Text.ofNat policy.tail.toNat

/-- The lines that show the command at a position. -/
def describeCommand (position : Nat) (command : Command) : List Text :=
  let label : Text := "  " ++ Text.ofNat position ++ ". " ++ command.label
  let line : Text := "      cmd: " ++ command.line
  label :: (if command.name.isSome then [line] else []) ++ describeTimeout command.timeout

/-- The lines that show commands. The first of them has the given position. -/
def describeCommands (position : Nat) : List Command → List Text
  | [] => []
  | command :: rest => describeCommand position command ++ describeCommands (position + 1) rest

/-- The lines that show a plan. Reference: `print_dry_run`. -/
def describeLines (plan : Plan) : List Text :=
  let title : Text := "benchseq dry-run"
  let propagation : Text := "  propagate_failure = " ++ describeBool plan.propagateFailure
  let count : Text := "commands (" ++ Text.ofNat plan.commands.length ++ "):"
  title :: describeOutputDir plan.outputDir
    ++ [propagation, describePolicy plan.policy, [], count]
    ++ describeCommands 1 plan.commands

/-- A plan in words. Reference: `print_dry_run`. -/
def describe (plan : Plan) : Text := Text.unlines plan.describeLines

end Runbook.Plan
