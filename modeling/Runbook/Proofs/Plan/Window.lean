import Runbook.Proofs.Config.Check
import Runbook.Proofs.Console
import Runbook.Proofs.Loading
import Runbook.Proofs.Plan.Resolve

/-!
# The window of a plan

Of the two ends of a window only their sum is ever computed in a machine word. Checking a
configuration refuses a window longer than a text shown in full, so the policy of every plan fits
(`Plan.fits_of_resolve`), wherever its configuration was loaded from.
-/

namespace Runbook

/-- A policy that passes its check fits. -/
theorem Policy.fits_of_check {policy : Policy} (h : policy.check = .ok ()) : policy.Fits := by
  simp only [Policy.check] at h
  split at h
  · cases h
  · obtain ⟨window, hwindow, -⟩ := exists_ok_of_bind h
    cases hadd : addWord policy.head.toNat policy.tail.toNat with
    | error operation =>
      rw [hadd] at hwindow
      cases hwindow
    | ok sum => exact lt_of_addWord hadd

/-- The policy of a configuration that passes its check fits. -/
theorem Config.fits_of_check {config : Config} {checked : CheckedConfig}
    (h : config.check = .ok checked) : checked.config.report.Fits := by
  have haccepted := Config.accepted h
  rw [haccepted.config_eq]
  exact Policy.fits_of_check haccepted.report

/-- The policy of the configuration that the program loads fits, whether it comes from a file or
not. -/
theorem Program.Loading.fits {σ : Type} {host : Host σ} {system : σ} {arguments : Arguments}
    {checked : CheckedConfig} (h : Loading host system arguments (.ok checked)) :
    checked.config.report.Fits := by
  cases h with
  | absent h => exact Config.fits_of_check Config.check_default
  | accepted h hread hconfig hcheck => exact Config.fits_of_check hcheck

/-- A plan has the policy of its configuration. -/
theorem Plan.fits_of_resolve {arguments : Arguments} {checked : CheckedConfig} {plan : Plan}
    (fits : checked.config.report.Fits) (h : Plan.resolve arguments checked = .ok plan) :
    plan.policy.Fits := by
  rw [(resolved h).policy]
  exact fits

end Runbook
