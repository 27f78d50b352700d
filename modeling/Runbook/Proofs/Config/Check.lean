import Runbook.Config.Check
import Runbook.Proofs.Checked

/-!
# What an accepted configuration is

`Config.accepted` says all that there is to a configuration that has passed its check: it is kept as
it was written, each of its parts has passed the check of that part, and its time limits are those
that have been read. What is wanted of them is that they are greater than zero (`LimitPositive`).
-/

namespace Runbook

/-- A configuration, and what it is as one that can be run. -/
structure Config.Accepted (config : Config) (checked : CheckedConfig) : Prop where
  config_eq : checked.config = config
  report : config.report.check = .ok ()
  lines : checkLines 1 config.commands = .ok ()
  defaultTimeout :
    readTimeout? .settings config.settings.defaultTimeout = .ok checked.defaultTimeout
  timeouts : readTimeouts 1 config.commands = .ok checked.timeouts

/-- All that can be said of a configuration that has passed its check. -/
theorem Config.accepted {config : Config} {checked : CheckedConfig}
    (h : config.check = .ok checked) : config.Accepted checked := by
  simp only [Config.check] at h
  obtain ⟨⟨⟩, hreport, h⟩ := exists_ok_of_bind h
  obtain ⟨⟨⟩, hlines, h⟩ := exists_ok_of_bind h
  obtain ⟨defaultTimeout, hdefault, h⟩ := exists_ok_of_bind h
  obtain ⟨timeouts, htimeouts, h⟩ := exists_ok_of_bind h
  cases h
  exact ⟨rfl, hreport, hlines, hdefault, htimeouts⟩

/-- The configuration that says nothing passes its check. -/
theorem Config.check_default : Config.default.check = .ok .default := by decide

/-! ## Time limits -/

/-- The time limit, if there is one, is greater than zero. -/
def LimitPositive (limit : Option Duration) : Prop :=
  ∀ duration, limit = some duration → 0 < duration.nanoseconds

/-- There is nothing to say of no time limit. -/
theorem limitPositive_none : LimitPositive none := nofun

/-- Of two time limits, the second standing in where the first is not set, one is taken. -/
theorem LimitPositive.orElse {own limit : Option Duration} (hown : LimitPositive own)
    (hlimit : LimitPositive limit) : LimitPositive (own <|> limit) := by
  cases own with
  | none => exact hlimit
  | some duration => exact hown

end Runbook
