import Runbook.Proofs.Checked
import Runbook.Proofs.Config.Check
import Runbook.Proofs.Console
import Runbook.Proofs.Duration.Exact
import Runbook.Proofs.Text

/-!
# Faults of configurations

`Config.faults` lists all that is wrong with a configuration, in the order in which it is looked
for: the policy of the report, blank commands, the default time limit, the time limits of commands.
Checking a configuration ends with the first of them or, if there is none, with the configuration as
it was written and the time limits that its texts hold (`Config.check_eq_ofFaults`).
`Config.check_exact` spells out when there is none.

An overflow ends the check as well, so it is in the list like any other fault. There is none as long
as the sum and the products that are computed fit in a word (`Config.InRange`).
-/

namespace Runbook

/-! ## The faults -/

/-- What is wrong with a policy. -/
def Policy.faults (policy : Policy) : List (Fault ConfigError) :=
  let window := policy.head.toNat + policy.tail.toNat
  (if policy.maxLines = 0 then [.refused .noLines] else []) ++
    if wordSize ≤ window then [.overflow .add]
    else if policy.maxLines.toNat < window then [.refused (.windowTooLong policy)]
    else []

/-- What is wrong with a text as a time limit of `owner`. -/
def limitFaults (owner : TimeoutOwner) (text : Text) : List (Fault ConfigError) :=
  match Duration.parse text with
  | .error (.overflow operation) => [.overflow operation]
  | .error (.refused reason) => [.refused (.badTimeout owner (.unreadable reason))]
  | .ok limit => if limit.nanoseconds = 0 then [.refused (.badTimeout owner .zero)] else []

/-- What is wrong with the lines of commands. The first of them has the given position. -/
def lineFaults (position : Nat) (entries : List Entry) : List (Fault ConfigError) :=
  (entries.zipIdx position).flatMap fun (entry, position) =>
    if Text.blank entry.line then [.refused (.blankCommand position)] else []

/-- What is wrong with the time limits of commands. The first of them has the given position. -/
def timeoutFaults (position : Nat) (entries : List Entry) : List (Fault ConfigError) :=
  (entries.zipIdx position).flatMap fun (entry, position) =>
    entry.timeout.toList.flatMap (limitFaults (.command position))

/-- What is wrong with a configuration. Positions count from one. -/
def Config.faults (config : Config) : List (Fault ConfigError) :=
  config.report.faults ++ (lineFaults 1 config.commands ++
    (config.settings.defaultTimeout.toList.flatMap (limitFaults .settings) ++
      timeoutFaults 1 config.commands))

/-! ## The checks -/

/-- The check of a policy looks for its faults. -/
theorem Policy.check_eq_ofFaults (policy : Policy) : policy.check = .ofFaults policy.faults () := by
  simp only [Policy.check, Policy.faults]
  split
  · rfl
  · rw [List.nil_append]
    by_cases hword : policy.head.toNat + policy.tail.toNat < wordSize
    · rw [addWord, if_pos hword, if_neg (Nat.not_le.mpr hword)]
      by_cases hlong : policy.maxLines.toNat < policy.head.toNat + policy.tail.toNat
      · rw [if_pos hlong]
        exact if_pos hlong
      · rw [if_neg hlong]
        exact if_neg hlong
    · rw [addWord, if_neg hword, if_pos (Nat.not_lt.mp hword)]
      rfl

/-- The check of lines looks for blank ones. -/
theorem checkLines_eq_ofFaults (position : Nat) (entries : List Entry) :
    checkLines position entries = .ofFaults (lineFaults position entries) () := by
  induction entries generalizing position with
  | nil => rfl
  | cons entry rest ih =>
    rw [checkLines, lineFaults, List.zipIdx_cons, List.flatMap_cons]
    simp only
    split
    · rfl
    · exact ih (position + 1)

/-- Reading a time limit gives what the text holds, or its fault. -/
theorem readTimeout?_eq_ofFaults (owner : TimeoutOwner) (text : Option Text) :
    readTimeout? owner text =
      .ofFaults (text.toList.flatMap (limitFaults owner)) (Duration.ofText? text) := by
  cases text with
  | none => rfl
  | some text =>
    rw [Option.toList_some, List.flatMap_singleton, limitFaults, readTimeout?, readTimeout,
      Duration.ofText?, Option.bind_some]
    cases Duration.parse text with
    | error fault => cases fault <;> rfl
    | ok limit =>
      by_cases hzero : limit.nanoseconds = 0
      · simp only [Checked.mapReason, Except.mapError, bind, Except.bind, if_pos hzero]
        rfl
      · simp only [Checked.mapReason, Except.mapError, bind, Except.bind, if_neg hzero]
        rfl

/-- Reading the time limits of commands, one after another, ends with the first of their faults. -/
theorem readTimeouts_eq_ofFaults (position : Nat) (entries : List Entry) :
    readTimeouts position entries = .ofFaults (timeoutFaults position entries)
      (entries.map fun entry => Duration.ofText? entry.timeout) := by
  induction entries generalizing position with
  | nil => rfl
  | cons entry rest ih =>
    rw [readTimeouts, timeoutFaults, List.zipIdx_cons, List.flatMap_cons, List.map_cons,
      readTimeout?_eq_ofFaults]
    refine Checked.ofFaults_bind ?_
    rw [ih]
    exact Checked.ofFaults_map _

/-- Checking a configuration looks for its faults, and keeps it as it was written, together with the
time limits that its texts hold. -/
theorem Config.check_eq_ofFaults (config : Config) :
    config.check = .ofFaults config.faults
      ⟨config, Duration.ofText? config.settings.defaultTimeout,
        config.commands.map fun entry => Duration.ofText? entry.timeout⟩ := by
  rw [Config.check, Config.faults, Policy.check_eq_ofFaults]
  refine Checked.ofFaults_bind ?_
  rw [checkLines_eq_ofFaults]
  refine Checked.ofFaults_bind ?_
  rw [readTimeout?_eq_ofFaults]
  refine Checked.ofFaults_bind ?_
  rw [readTimeouts_eq_ofFaults]
  exact Checked.ofFaults_map _

/-! ## Nothing wrong -/

/-- The text holds a duration greater than zero. -/
def IsLimit (text : Text) : Prop :=
  ∃ limit, Duration.parse text = .ok limit ∧ 0 < limit.nanoseconds

/-- There is nothing wrong with a policy that shows at least one line and whose window is no longer
than a text shown in full. -/
theorem Policy.faults_eq_nil_iff {policy : Policy} :
    policy.faults = [] ↔
      1 ≤ policy.maxLines.toNat ∧
        policy.head.toNat + policy.tail.toNat ≤ policy.maxLines.toNat := by
  rw [Policy.faults, List.append_eq_nil_iff]
  refine and_congr ?lines ?window
  case lines =>
    have hzero : policy.maxLines = 0 ↔ policy.maxLines.toNat = 0 := UInt64.toNat_inj.symm
    split_ifs with h
    · exact ⟨nofun, fun hpos => absurd (hzero.mp h) (Nat.ne_of_gt hpos)⟩
    · exact ⟨fun _ => Nat.pos_of_ne_zero (mt hzero.mpr h), fun _ => rfl⟩
  case window =>
    have hword : policy.maxLines.toNat < wordSize := policy.maxLines.toNat_lt
    split_ifs with hover hlong
    · exact ⟨nofun, fun h => by omega⟩
    · exact ⟨nofun, fun h => absurd h (Nat.not_le.mpr hlong)⟩
    · exact ⟨fun _ => Nat.not_lt.mp hlong, fun _ => rfl⟩

/-- There is nothing wrong with a text that holds a time limit. -/
theorem limitFaults_eq_nil_iff {owner : TimeoutOwner} {text : Text} :
    limitFaults owner text = [] ↔ IsLimit text := by
  rw [limitFaults, IsLimit]
  cases Duration.parse text with
  | error fault => cases fault <;> exact ⟨nofun, nofun⟩
  | ok limit =>
    simp only
    split_ifs with hzero
    · exact ⟨nofun, fun ⟨_, h, hpos⟩ => absurd (Except.ok.inj h ▸ hzero) (Nat.ne_of_gt hpos)⟩
    · exact ⟨fun _ => ⟨limit, rfl, Nat.pos_of_ne_zero hzero⟩, fun _ => rfl⟩

/-- What holds of all elements, whatever their positions. -/
theorem forall_mem_zipIdx_iff {α : Type} {p : α → Prop} (xs : List α) (position : Nat) :
    (∀ x ∈ xs.zipIdx position, p x.1) ↔ ∀ x ∈ xs, p x := by
  conv_rhs => rw [← List.zipIdx_map_fst position xs]
  exact List.forall_mem_map.symm

/-- There is nothing wrong with lines that all show something. -/
theorem lineFaults_eq_nil_iff {position : Nat} {entries : List Entry} :
    lineFaults position entries = [] ↔
      ∀ entry ∈ entries, ∃ c ∈ entry.line, Text.isBlank c = false := by
  rw [lineFaults, List.flatMap_eq_nil_iff, ← forall_mem_zipIdx_iff entries position]
  refine forall₂_congr fun place _ => ?_
  rw [← Text.blank_eq_false_iff, ite_eq_right_iff, Bool.eq_false_iff]
  exact imp_congr_right fun _ => iff_of_false (List.cons_ne_nil _ _) id

/-- There is nothing wrong with commands whose time limits, where they set any, are time limits. -/
theorem timeoutFaults_eq_nil_iff {position : Nat} {entries : List Entry} :
    timeoutFaults position entries = [] ↔
      ∀ entry ∈ entries, ∀ text, entry.timeout = some text → IsLimit text := by
  rw [timeoutFaults, List.flatMap_eq_nil_iff, ← forall_mem_zipIdx_iff entries position]
  refine forall₂_congr fun place _ => ?_
  simp only [List.flatMap_eq_nil_iff, Option.mem_toList, limitFaults_eq_nil_iff]

/-- What can be said of a configuration with which nothing is wrong. -/
theorem Config.faults_eq_nil_iff {config : Config} :
    config.faults = [] ↔
      1 ≤ config.report.maxLines.toNat ∧
      config.report.head.toNat + config.report.tail.toNat ≤ config.report.maxLines.toNat ∧
      (∀ entry ∈ config.commands, ∃ c ∈ entry.line, Text.isBlank c = false) ∧
      (∀ text, config.settings.defaultTimeout = some text → IsLimit text) ∧
      ∀ entry ∈ config.commands, ∀ text, entry.timeout = some text → IsLimit text := by
  simp only [Config.faults, List.append_eq_nil_iff, Policy.faults_eq_nil_iff,
    lineFaults_eq_nil_iff, timeoutFaults_eq_nil_iff, List.flatMap_eq_nil_iff, Option.mem_toList,
    limitFaults_eq_nil_iff, and_assoc]

/-! ## Accepted configurations -/

/-- An accepted configuration is kept as it was written, together with the time limits that its
texts hold. -/
theorem Config.eq_of_check {config : Config} {checked : CheckedConfig}
    (h : config.check = .ok checked) :
    checked = ⟨config, Duration.ofText? config.settings.defaultTimeout,
      config.commands.map fun entry => Duration.ofText? entry.timeout⟩ := by
  rw [Config.check_eq_ofFaults, Checked.ofFaults_eq_ok_iff] at h
  exact h.2.symm

/-- There is nothing wrong with an accepted configuration. -/
theorem Config.faults_of_check {config : Config} {checked : CheckedConfig}
    (h : config.check = .ok checked) : config.faults = [] := by
  rw [Config.check_eq_ofFaults, Checked.ofFaults_eq_ok_iff] at h
  exact h.1

/-- No command of an accepted configuration is blank. -/
theorem Config.blank_of_check {config : Config} {checked : CheckedConfig}
    (h : config.check = .ok checked) :
    ∀ entry ∈ config.commands, Text.blank entry.line = false := by
  obtain ⟨-, -, hlines, -⟩ := Config.faults_eq_nil_iff.mp (Config.faults_of_check h)
  exact fun entry hentry => Text.blank_eq_false_iff.mpr (hlines entry hentry)

/-- The time limits of commands stay with them, one for each. -/
theorem Config.timeout?_of_check {config : Config} {checked : CheckedConfig}
    (h : config.check = .ok checked) (index : Nat) :
    checked.timeout? index =
      config.commands[index]?.bind fun entry => Duration.ofText? entry.timeout := by
  rw [Config.eq_of_check h, CheckedConfig.timeout?, List.getElem?_map]
  cases config.commands[index]? <;> rfl

/-- A text with which nothing is wrong holds a time limit greater than zero. -/
theorem limitPositive_ofText? {text : Option Text} (h : ∀ t, text = some t → IsLimit t) :
    LimitPositive (Duration.ofText? text) := by
  intro duration hduration
  obtain ⟨t, ht, hparse⟩ := Duration.ofText?_eq_some_iff.mp hduration
  obtain ⟨limit, hlimit, hpositive⟩ := h t ht
  rwa [Except.ok.inj (hparse.symm.trans hlimit)]

/-- All time limits that an accepted configuration sets are greater than zero. -/
theorem Config.limits_of_check {config : Config} {checked : CheckedConfig}
    (h : config.check = .ok checked) :
    LimitPositive checked.defaultTimeout ∧ ∀ index, LimitPositive (checked.timeout? index) := by
  obtain ⟨-, -, -, hdefault, htimeouts⟩ :=
    Config.faults_eq_nil_iff.mp (Config.faults_of_check h)
  constructor
  · rw [Config.eq_of_check h]
    exact limitPositive_ofText? hdefault
  · intro index
    rw [Config.timeout?_of_check h]
    cases hentry : config.commands[index]? with
    | none => exact limitPositive_none
    | some entry => exact limitPositive_ofText? (htimeouts entry (List.mem_of_getElem? hentry))

/-! ## No overflow -/

/-- The sum and the products that checking a configuration computes fit in a word. -/
structure Config.InRange (config : Config) : Prop where
  window : config.report.Fits
  defaultTimeout : ∀ text ∈ config.settings.defaultTimeout, Duration.InRange text
  timeouts : ∀ entry ∈ config.commands, ∀ text ∈ entry.timeout, Duration.InRange text

/-- A time limit whose products fit does not overflow. -/
theorem overflow_notMem_limitFaults {owner : TimeoutOwner} {text : Text} {operation : Overflow}
    (h : Duration.InRange text) : Fault.overflow operation ∉ limitFaults owner text := by
  rw [limitFaults]
  cases hparse : Duration.parse text with
  | error fault =>
    cases fault with
    | refused reason => simp
    | overflow other => exact absurd hparse (Duration.parse_ne_overflow h other)
  | ok limit =>
    simp only
    split_ifs <;> simp

/-- No fault of a configuration in range is an overflow. -/
theorem Config.InRange.overflow_notMem {config : Config} (h : config.InRange)
    (operation : Overflow) : Fault.overflow operation ∉ config.faults := by
  have hwindow : ¬ wordSize ≤ config.report.head.toNat + config.report.tail.toNat :=
    Nat.not_le.mpr h.window
  simp only [Config.faults, List.mem_append, not_or]
  refine ⟨?report, ?lines, ?defaultTimeout, ?timeouts⟩
  case report =>
    rw [Policy.faults, if_neg hwindow]
    split_ifs <;> simp
  case lines =>
    simp only [lineFaults, List.mem_flatMap, not_exists, not_and]
    intro place _
    split_ifs <;> simp
  case defaultTimeout =>
    simp only [List.mem_flatMap, Option.mem_toList, not_exists, not_and]
    exact fun text htext => overflow_notMem_limitFaults (h.defaultTimeout text htext)
  case timeouts =>
    simp only [timeoutFaults, List.mem_flatMap, Option.mem_toList, not_exists, not_and]
    intro place hplace text htext
    exact overflow_notMem_limitFaults
      (h.timeouts place.1 (List.fst_mem_of_mem_zipIdx hplace) text htext)

/-! ## The whole check -/

/-- A configuration is accepted just if its report shows at least one line and has a window no
longer than a text shown in full, none of its commands is blank, and each time limit that it sets is
a duration greater than zero. It is then kept as it was written, and its time limits are those
durations, each for its own command. Otherwise the fault that is reported is the first in the order
of `Config.faults`, and it is a reason unless the sum or a product leaves the range of a word. -/
theorem Config.check_exact (config : Config) :
    ((∃ checked, config.check = .ok checked) ↔
      1 ≤ config.report.maxLines.toNat ∧
      config.report.head.toNat + config.report.tail.toNat ≤ config.report.maxLines.toNat ∧
      (∀ entry ∈ config.commands, ∃ c ∈ entry.line, Text.isBlank c = false) ∧
      (∀ text, config.settings.defaultTimeout = some text → IsLimit text) ∧
      ∀ entry ∈ config.commands, ∀ text, entry.timeout = some text → IsLimit text) ∧
    (∀ checked, config.check = .ok checked →
      checked.config = config ∧
      (∀ limit, checked.defaultTimeout = some limit ↔
        ∃ text, config.settings.defaultTimeout = some text ∧ Duration.parse text = .ok limit) ∧
      ∀ index limit, checked.timeout? index = some limit ↔
        ∃ entry text, config.commands[index]? = some entry ∧ entry.timeout = some text ∧
          Duration.parse text = .ok limit) ∧
    ∀ fault, config.check = .error fault → config.faults.head? = some fault ∧
      (config.InRange → ∃ reason, fault = .refused reason) := by
  have hfaults := config.check_eq_ofFaults
  refine ⟨?accepts, fun checked h => ⟨?kept, fun limit => ?defaultTimeout,
    fun index limit => ?timeout⟩, fun fault h => ?first⟩
  case accepts =>
    rw [← Config.faults_eq_nil_iff, hfaults]
    simp only [Checked.ofFaults_eq_ok_iff, exists_and_left, exists_eq', and_true]
  case kept => rw [Config.eq_of_check h]
  case defaultTimeout =>
    rw [Config.eq_of_check h]
    exact Duration.ofText?_eq_some_iff
  case timeout =>
    rw [Config.timeout?_of_check h, Option.bind_eq_some_iff]
    simp only [Duration.ofText?_eq_some_iff, exists_and_left]
  case first =>
    have hfirst : config.faults.head? = some fault :=
      Checked.ofFaults_eq_error_iff.mp (hfaults.symm.trans h)
    refine ⟨hfirst, fun hrange => ?_⟩
    cases fault with
    | refused reason => exact ⟨reason, rfl⟩
    | overflow operation =>
      exact absurd (List.mem_of_mem_head? hfirst) (hrange.overflow_notMem operation)

/-- A blank last command is reported before the time limit of the first one, which is zero; and a
configuration without either is accepted. -/
theorem Config.check_exact_blank :
    let blank : Config :=
      ⟨.default, .default, [⟨['a'], none, some ['0', 's']⟩, ⟨[' '], none, none⟩]⟩
    let sound : Config :=
      ⟨.default, .default, [⟨['a'], none, some ['2', 'm']⟩, ⟨['b'], none, none⟩]⟩
    let checked : CheckedConfig := ⟨sound, none, [some (.ofSeconds 120), none]⟩
    let fault : Fault ConfigError := .refused (.blankCommand 2)
    (blank.InRange ∧ blank.check = .error fault ∧ blank.faults.head? = some fault ∧
      ∃ reason, fault = .refused reason) ∧
    sound.check = .ok checked ∧ checked.config = sound ∧
      (checked.timeout? 0 = some (.ofSeconds 120) ↔
        ∃ entry text, sound.commands[0]? = some entry ∧ entry.timeout = some text ∧
          Duration.parse text = .ok (.ofSeconds 120)) := by
  intro blank sound checked fault
  have hrange : blank.InRange := ⟨by decide, by decide, by decide +kernel⟩
  have hblank : blank.check = .error fault := by decide +kernel
  have hsound : sound.check = .ok checked := by decide +kernel
  obtain ⟨hfirst, hreason⟩ := (Config.check_exact blank).2.2 _ hblank
  obtain ⟨hkept, -, htimeouts⟩ := (Config.check_exact sound).2.1 checked hsound
  exact ⟨⟨hrange, hblank, hfirst, hreason hrange⟩, hsound, hkept, htimeouts 0 _⟩

end Runbook
