import Runbook.Proofs.Config.Fault
import Runbook.Proofs.Duration.Exact

/-!
# Where the check of a configuration overflows

Two computations of the check can leave the range of a word: the sum of the two ends of the report's
window, and the products that time limits are read with. An overflow ends the check as a reason
does. So a window that is too long is refused just as long as its sum fits (`Config.check_window`),
and a time limit that does not fit stops the check just if nothing is wrong with what is looked at
before it (`Config.check_eq_multiply_iff`).

Neither is ever taken for less than it is. What is accepted has a window that is short enough as a
sum without bound, and its time limits last as long as their texts say (`Config.lasts_of_check`).
-/

namespace Runbook

section
variable {α : Type} {xs ys : List α} {x : α}

/-- What is not among the first elements is the head if there are none of them. -/
theorem head?_append_of_notMem (h : x ∉ xs) :
    (xs ++ ys).head? = some x ↔ xs = [] ∧ ys.head? = some x := by
  cases xs with
  | nil => exact (and_iff_right rfl).symm
  | cons first rest =>
    refine iff_of_false (fun hhead => h ?_) fun hnil => List.cons_ne_nil _ _ hnil.1
    exact List.mem_of_mem_head? hhead

/-- What is not among the last elements is the head if it is that of the first. -/
theorem head?_append_of_notMem_right (h : x ∉ ys) :
    (xs ++ ys).head? = some x ↔ xs.head? = some x := by
  cases xs with
  | nil => exact iff_of_false (fun hhead => h (List.mem_of_mem_head? hhead)) nofun
  | cons first rest => exact Iff.rfl

end

/-! ## The faults of the parts -/

/-- The texts that are given as time limits, each with its owner, in the order in which they are
read. -/
def Config.limits (config : Config) : List (TimeoutOwner × Text) :=
  config.settings.defaultTimeout.toList.map (Prod.mk .settings) ++
    (config.commands.zipIdx 1).flatMap fun (entry, position) =>
      entry.timeout.toList.map (Prod.mk (.command position))

/-- The faults of a configuration are those of its report, of its lines and of its time limits. -/
theorem Config.faults_eq (config : Config) :
    config.faults = config.report.faults ++ (lineFaults 1 config.commands ++
      config.limits.flatMap fun (owner, text) => limitFaults owner text) := by
  simp only [Config.faults, Config.limits, timeoutFaults, List.flatMap_append, List.flatMap_assoc,
    List.flatMap_map]

section
variable {fault : Fault ConfigError}

/-- A policy is refused for its number of lines or for its window, or the sum of its ends overflows.
-/
theorem Policy.mem_faults {policy : Policy} (h : fault ∈ policy.faults) :
    fault = .refused .noLines ∨ fault = .overflow .add ∨
      fault = .refused (.windowTooLong policy) := by
  unfold Policy.faults at h
  rcases List.mem_append.mp h with h | h
  · split_ifs at h
    · exact .inl (List.mem_singleton.mp h)
    · cases h
  · split_ifs at h
    · exact .inr (.inl (List.mem_singleton.mp h))
    · exact .inr (.inr (List.mem_singleton.mp h))
    · cases h

/-- A line has no fault but that it is blank. -/
theorem mem_lineFaults {position : Nat} {entries : List Entry}
    (h : fault ∈ lineFaults position entries) :
    ∃ index, fault = .refused (.blankCommand index) := by
  obtain ⟨⟨entry, index⟩, -, hfault⟩ := List.mem_flatMap.mp h
  dsimp only at hfault
  split_ifs at hfault
  · exact ⟨index, List.mem_singleton.mp hfault⟩
  · cases hfault

/-- A time limit is refused as one, or overflows when it is multiplied out. -/
theorem mem_limitFaults {owner : TimeoutOwner} {text : Text}
    (h : fault ∈ limitFaults owner text) :
    fault = .overflow .multiply ∨ ∃ reason, fault = .refused (.badTimeout owner reason) := by
  unfold limitFaults at h
  split at h
  · next operation hover =>
    obtain ⟨rfl, -⟩ := Duration.parse_eq_overflow_iff.mp hover
    exact .inl (List.mem_singleton.mp h)
  · exact .inr ⟨_, List.mem_singleton.mp h⟩
  · split_ifs at h
    · exact .inr ⟨_, List.mem_singleton.mp h⟩
    · cases h

end

/-! ## The window of the report -/

/-- The reason is one of the section `report`, as its message says. -/
def ConfigError.OfReport (reason : ConfigError) : Prop := "[report].".toList <+: reason.message

/-- The fault is one that the section `report` may have. -/
def Fault.OfReport : Fault ConfigError → Prop
  | .refused reason => reason.OfReport
  | .overflow operation => operation = .add

/-- The reasons of the section are those that the check of a policy gives. -/
theorem ConfigError.ofReport_iff {reason : ConfigError} :
    reason.OfReport ↔ reason = .noLines ∨ ∃ policy, reason = .windowTooLong policy := by
  constructor
  · rintro ⟨rest, hrest⟩
    have hfirst : some '[' = reason.message.head? := congrArg List.head? hrest
    cases reason with
    | noLines => exact .inl rfl
    | windowTooLong policy => exact .inr ⟨policy, rfl⟩
    | blankCommand | badTimeout | blankArgument | noOutputDir | noCommands => cases hfirst
  · rintro (rfl | ⟨policy, rfl⟩)
    · exact ⟨"max_lines must be >= 1 (got 0)".toList, rfl⟩
    · exact ⟨_, rfl⟩

/-- A fault of the report ends the check just if the check of the report ends with it. -/
theorem Config.check_eq_error_iff_of_report {config : Config}
    (fault : Fault ConfigError) (h : fault.OfReport) :
    config.check = .error fault ↔ config.report.check = .error fault := by
  rw [Config.check_eq_ofFaults, Policy.check_eq_ofFaults, Checked.ofFaults_eq_error_iff,
    Checked.ofFaults_eq_error_iff, Config.faults_eq]
  refine head?_append_of_notMem_right fun hmem => ?_
  rcases List.mem_append.mp hmem with hline | hlimit
  · obtain ⟨index, rfl⟩ := mem_lineFaults hline
    simpa using ConfigError.ofReport_iff.mp h
  · obtain ⟨⟨owner, text⟩, -, hlimit⟩ := List.mem_flatMap.mp hlimit
    rcases mem_limitFaults hlimit with rfl | ⟨reason, rfl⟩
    · cases h
    · simpa using ConfigError.ofReport_iff.mp h

section
variable {policy : Policy}

/-- The check of a policy, its conditions being about numbers without bound. -/
theorem Policy.check_eq (policy : Policy) : policy.check =
    if policy.maxLines.toNat = 0 then refuse .noLines
    else if policy.Fits then
      if policy.maxLines.toNat < policy.head.toNat + policy.tail.toNat then
        refuse (.windowTooLong policy)
      else .ok ()
    else .error (.overflow .add) := by
  have hzero : policy.maxLines = 0 ↔ policy.maxLines.toNat = 0 := UInt64.toNat_inj.symm
  rw [Policy.check_eq_ofFaults, Policy.faults, if_congr hzero rfl rfl]
  by_cases hfits : policy.Fits
  · rw [if_pos hfits, if_neg (Nat.not_le.mpr hfits)]
    split_ifs <;> rfl
  · rw [if_neg hfits, if_pos (Nat.not_lt.mp hfits)]
    split_ifs <;> rfl

/-- A policy is refused if it shows no lines, or if its window fits in a word and is too long. -/
theorem Policy.exists_refuse_iff : (∃ reason, policy.check = refuse reason) ↔
    policy.maxLines.toNat = 0 ∨
      policy.Fits ∧ policy.maxLines.toNat < policy.head.toNat + policy.tail.toNat := by
  rw [Policy.check_eq]
  split_ifs with hzero hfits hlong
  · exact iff_of_true ⟨_, rfl⟩ (.inl hzero)
  · exact iff_of_true ⟨_, rfl⟩ (.inr ⟨hfits, hlong⟩)
  · exact iff_of_false nofun (not_or.mpr ⟨hzero, fun h => hlong h.2⟩)
  · exact iff_of_false nofun (not_or.mpr ⟨hzero, fun h => hfits h.1⟩)

/-- The sum of the two ends of the window overflows just if it is taken and does not fit. -/
theorem Policy.check_eq_add_iff :
    policy.check = .error (.overflow .add) ↔ policy.maxLines.toNat ≠ 0 ∧ ¬ policy.Fits := by
  rw [Policy.check_eq]
  split_ifs with hzero hfits hlong
  · exact iff_of_false nofun fun h => h.1 hzero
  · exact iff_of_false nofun fun h => h.2 hfits
  · exact iff_of_false nofun fun h => h.2 hfits
  · exact iff_of_true rfl ⟨hzero, hfits⟩

/-- The reasons that a policy is refused for are those of the section `report`. -/
theorem Policy.ofReport_of_check {reason : ConfigError} (h : policy.check = refuse reason) :
    reason.OfReport := by
  rw [Policy.check_eq_ofFaults] at h
  have hmem := List.mem_of_mem_head? (Checked.ofFaults_eq_error_iff.mp h)
  rcases Policy.mem_faults hmem with ⟨⟨⟩⟩ | ⟨⟨⟩⟩ | ⟨⟨⟩⟩
  · exact ConfigError.ofReport_iff.mpr (.inl rfl)
  · exact ConfigError.ofReport_iff.mpr (.inr ⟨_, rfl⟩)

end

/-- The check refuses the section `report` just if it shows no lines or has a window that fits in a
word and is longer than a text shown in full. On a longer window it stops with an overflow, and what
it accepts has a window that is short enough. -/
theorem Config.check_window (config : Config) :
    ((∃ reason : ConfigError, reason.OfReport ∧ config.check = refuse reason) ↔
      config.report.maxLines.toNat = 0 ∨ config.report.Fits ∧
        config.report.maxLines.toNat < config.report.head.toNat + config.report.tail.toNat) ∧
    (config.check = .error (.overflow .add) ↔
      config.report.maxLines.toNat ≠ 0 ∧ ¬ config.report.Fits) ∧
    ∀ checked, config.check = .ok checked → 1 ≤ config.report.maxLines.toNat ∧
      config.report.head.toNat + config.report.tail.toNat ≤ config.report.maxLines.toNat := by
  refine ⟨?refused, ?overflow, fun checked h => ?accepted⟩
  case refused =>
    rw [← Policy.exists_refuse_iff]
    refine exists_congr fun reason => ⟨fun ⟨hreport, h⟩ => ?_, fun h => ⟨?_, ?_⟩⟩
    · exact (Config.check_eq_error_iff_of_report (.refused reason) hreport).mp h
    · exact Policy.ofReport_of_check h
    · have hreport := Policy.ofReport_of_check h
      exact (Config.check_eq_error_iff_of_report (.refused reason) hreport).mpr h
  case overflow =>
    exact (Config.check_eq_error_iff_of_report (.overflow .add) rfl).trans Policy.check_eq_add_iff
  case accepted =>
    obtain ⟨hlines, hwindow, -⟩ := Config.faults_eq_nil_iff.mp (Config.faults_of_check h)
    exact ⟨hlines, hwindow⟩

/-- A window as long as a text shown in full is accepted, and one more line is refused. -/
theorem Config.check_window_tight :
    let config (tail : UInt64) : Config := { Config.default with report := ⟨11, 10, tail⟩ }
    ((config 1).check = .ok ⟨config 1, none, []⟩ ∧ 1 ≤ (11 : UInt64).toNat ∧
      (10 : UInt64).toNat + (1 : UInt64).toNat ≤ (11 : UInt64).toNat) ∧
    ∃ reason : ConfigError, reason.OfReport ∧ (config 2).check = refuse reason := by
  intro config
  have haccepted : (config 1).check = .ok ⟨config 1, none, []⟩ := by decide +kernel
  exact ⟨⟨haccepted, (Config.check_window (config 1)).2.2 _ haccepted⟩,
    (Config.check_window (config 2)).1.mpr (.inr ⟨by decide, by decide⟩)⟩

/-- There is a window longer than a text shown in full that the section `report` is not refused for.
-/
theorem Config.exists_overlong_window :
    ∃ config : Config, config.report.maxLines.toNat < config.report.head.toNat +
        config.report.tail.toNat ∧
      ¬ ∃ reason : ConfigError, reason.OfReport ∧ config.check = refuse reason := by
  let config : Config := { Config.default with report := ⟨100, 18446744073709551615, 1⟩ }
  have hover : config.check = .error (.overflow .add) := by decide +kernel
  refine ⟨config, by decide, fun ⟨_, _, hrefused⟩ => ?_⟩
  cases hover.symm.trans hrefused

/-! ## Time limits -/

/-- Some text overflows as a time limit, and all that are read before it are time limits. -/
def Config.LimitOverflows (config : Config) : Prop :=
  ∃ before owner text after, config.limits = before ++ (owner, text) :: after ∧
    Duration.Overflows text ∧ ∀ place ∈ before, IsLimit place.2

/-- The first fault of a time limit is an overflow if its text overflows. -/
theorem head?_limitFaults_iff {owner : TimeoutOwner} {text : Text} :
    (limitFaults owner text).head? = some (.overflow .multiply) ↔ Duration.Overflows text := by
  have hover : Duration.Overflows text ↔
      Duration.parse text = .error (.overflow .multiply) := by
    rw [Duration.parse_eq_overflow_iff, and_iff_right rfl]
  rw [hover, limitFaults]
  cases Duration.parse text with
  | ok limit =>
    dsimp only
    split_ifs <;> simp
  | error fault => cases fault <;> simp

/-- A product overflows in the check of a configuration just if there is nothing wrong with its
report and its lines, and the first of its time limits that is none is one that overflows. -/
theorem Config.check_eq_multiply_iff {config : Config} :
    config.check = .error (.overflow .multiply) ↔
      1 ≤ config.report.maxLines.toNat ∧
      config.report.head.toNat + config.report.tail.toNat ≤ config.report.maxLines.toNat ∧
      (∀ entry ∈ config.commands, ∃ c ∈ entry.line, Text.isBlank c = false) ∧
      config.LimitOverflows := by
  -- Neither the report nor a line can be at fault with a product, so nothing is wrong with them.
  have hreport : Fault.overflow .multiply ∉ config.report.faults := fun hmem => by
    simpa using Policy.mem_faults hmem
  have hlines : Fault.overflow .multiply ∉ lineFaults 1 config.commands := fun hmem => by
    simpa using mem_lineFaults hmem
  rw [check_eq_ofFaults, Checked.ofFaults_eq_error_iff, faults_eq, head?_append_of_notMem hreport,
    head?_append_of_notMem hlines, Policy.faults_eq_nil_iff, lineFaults_eq_nil_iff, and_assoc,
    List.head?_flatMap, List.findSome?_eq_some_iff]
  simp only [head?_limitFaults_iff, List.head?_eq_none_iff, limitFaults_eq_nil_iff]
  simp only [LimitOverflows, Prod.exists]

/-- The time limits of an accepted configuration last as long as their texts say, each for its
owner. -/
theorem Config.lasts_of_check {config : Config} {checked : CheckedConfig} {limit : Duration}
    (h : config.check = .ok checked) :
    (checked.defaultTimeout = some limit →
      ∃ text, config.settings.defaultTimeout = some text ∧ Duration.Lasts text limit) ∧
    ∀ index, checked.timeout? index = some limit → ∃ entry text,
      config.commands[index]? = some entry ∧ entry.timeout = some text ∧
        Duration.Lasts text limit := by
  simp only [← Duration.parse_eq_ok_iff]
  constructor
  · rw [Config.eq_of_check h]
    exact Duration.ofText?_eq_some_iff.mp
  · intro index hlimit
    rw [Config.timeout?_of_check h, Option.bind_eq_some_iff] at hlimit
    obtain ⟨entry, hentry, hlimit⟩ := hlimit
    obtain ⟨text, htext, hparse⟩ := Duration.ofText?_eq_some_iff.mp hlimit
    exact ⟨entry, text, hentry, htext, hparse⟩

end Runbook
