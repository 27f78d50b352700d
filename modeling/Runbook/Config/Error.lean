import Runbook.Config.Basic
import Runbook.Duration

/-!
# Errors of configuration

Why a configuration, alone or together with the command line, does not describe a run. Positions of
commands count from one.
-/

namespace Runbook

/-- Why a text is no time limit. Reference: the errors of `parse_timeout`. -/
inductive TimeoutError where
  | unreadable (reason : Duration.ParseError)
  | zero
  deriving Repr, DecidableEq

/-- The reason in words. -/
def TimeoutError.message : TimeoutError → Text
  | .unreadable reason => reason.message
  | .zero => "timeout must be greater than zero"

/-- Where a time limit is set. -/
inductive TimeoutOwner where
  | settings
  | command (position : Nat)
  deriving Repr, DecidableEq

/-- The place in words. -/
def TimeoutOwner.describe : TimeoutOwner → Text
  | .settings => "[config].default_timeout"
  | .command position => "command #" ++ Text.ofNat position ++ " `timeout`"

/-- Why there is no run to perform. Reference: `BenchseqError::ConfigError`. -/
inductive ConfigError where
  | noLines
  | windowTooLong (policy : Policy)
  | blankCommand (position : Nat)
  | badTimeout (owner : TimeoutOwner) (reason : TimeoutError)
  | blankArgument
  | noOutputDir (line : Text)
  | noCommands
  deriving Repr, DecidableEq

/-- The reason in words. -/
def ConfigError.message : ConfigError → Text
  | .noLines => "[report].max_lines must be >= 1 (got 0)"
  | .windowTooLong policy =>
    "[report].head + [report].tail must not exceed max_lines (" ++ Text.ofNat policy.head.toNat ++
      " + " ++ Text.ofNat policy.tail.toNat ++ " > " ++ Text.ofNat policy.maxLines.toNat ++ ")"
  | .blankCommand position => "command #" ++ Text.ofNat position ++ " has an empty `cmd`"
  | .badTimeout owner reason => "invalid " ++ owner.describe ++ ": " ++ reason.message
  | .blankArgument => "empty command given on the command line"
  | .noOutputDir line =>
    "command '" ++ line ++
      "' uses \x7boutput_dir\x7d but no output directory is configured"
  | .noCommands =>
    "no commands to run: pass them as arguments or add [[command]] entries to the config"

end Runbook
