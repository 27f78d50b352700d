import Runbook.Proofs.Arguments
import Runbook.Proofs.Config.Overflow

/-!
# Time limits last as long as they say

A time limit comes from the command line, from the settings of a configuration or from one of its
commands. Wherever it comes from, it lasts exactly as long as its text says (`Duration.Lasts`), and
a text that is refused is refused for a reason. What is left are texts of so many minutes or hours
that their seconds do not fit in a word: they stop the program (`Duration.Overflows`).

`limits_exact_or_overflow` puts together what is known of the three places. That there are such
texts is `exists_endless_limit`.
-/

namespace Runbook

open Duration (Lasts Overflows)

/-- A text is read as the duration that it lasts, and reading it overflows just if it does, on the
command line as well. The time limit of a command line lasts as long as one that it gives, and
reading the command line overflows only if one that it gives does. The time limits of a
configuration last as long as their texts say, and a product overflows in its check just if the
first of them that is none overflows, and there is nothing wrong with what is looked at before. -/
theorem limits_exact_or_overflow (text : Text) (all : List Text) (config : Config) :
    ((∀ limit, Duration.parse text = .ok limit ↔ Lasts text limit) ∧
      (∀ operation, Duration.parse text = .error (.overflow operation) ↔
        operation = .multiply ∧ Overflows text) ∧
      (Overflows text →
        Arguments.parse ["--timeout=".toList ++ text] = .error (.overflow .multiply))) ∧
    ((∀ arguments limit, Arguments.parse all = .ok arguments → arguments.timeout = some limit →
        ∃ given, Arguments.GivesLimit all given ∧ Lasts given limit) ∧
      ∀ operation, Arguments.parse all = .error (.overflow operation) →
        operation = .multiply ∧ ∃ given, Arguments.GivesLimit all given ∧ Overflows given) ∧
    (∀ checked, config.check = .ok checked →
      (∀ limit, checked.defaultTimeout = some limit →
        ∃ given, config.settings.defaultTimeout = some given ∧ Lasts given limit) ∧
      ∀ index limit, checked.timeout? index = some limit → ∃ entry given,
        config.commands[index]? = some entry ∧ entry.timeout = some given ∧ Lasts given limit) ∧
    (config.check = .error (.overflow .multiply) ↔
      1 ≤ config.report.maxLines.toNat ∧
      config.report.head.toNat + config.report.tail.toNat ≤ config.report.maxLines.toNat ∧
      (∀ entry ∈ config.commands, ∃ c ∈ entry.line, Text.isBlank c = false) ∧
      config.LimitOverflows) := by
  refine ⟨⟨fun limit => Duration.parse_eq_ok_iff, fun operation => Duration.parse_eq_overflow_iff,
    fun h => ?single⟩, ⟨?kept, ?overflow⟩, fun checked h => ?accepted,
    Config.check_eq_multiply_iff⟩
  case single =>
    rw [Arguments.parse_limit, Duration.parse_of_overflows h]
    rfl
  case kept =>
    intro arguments limit harguments hlimit
    obtain ⟨given, hgives, hparse⟩ :=
      (Arguments.sound_parse all).ok arguments harguments limit hlimit
    exact ⟨given, hgives, Duration.parse_eq_ok_iff.mp hparse⟩
  case overflow =>
    intro operation hover
    obtain ⟨given, hgives, hparse⟩ := (Arguments.sound_parse all).overflow operation hover
    obtain ⟨hoperation, hgiven⟩ := Duration.parse_eq_overflow_iff.mp hparse
    exact ⟨hoperation, given, hgives, hgiven⟩
  case accepted =>
    exact ⟨fun limit => (Config.lasts_of_check h).1,
      fun index limit => (Config.lasts_of_check h).2 index⟩

/-- So many minutes that their seconds do not fit in a word. -/
def endlessLimit : Text := "307445734561825861m"

/-- The endless limit is written like any other amount of minutes. -/
theorem written_endlessLimit : Duration.Written endlessLimit 307445734561825861 .minute :=
  @Duration.Written.intro [] "307445734561825861".toList [] ['m'] [] .minute
    rfl (by decide) (List.all_eq_true.mp (by decide)) rfl rfl rfl

/-- The seconds of the endless limit overflow. -/
theorem overflows_endlessLimit : Overflows endlessLimit :=
  ⟨_, _, written_endlessLimit, by decide, by decide⟩

/-- Ninety minutes are a time limit of so many seconds, on the command line and as a default. The
endless one overflows on the command line. -/
theorem limits_exact_or_overflow_minutes :
    let all : List Text := ["--timeout", "90m"]
    let arguments := { Arguments.none with timeout := some (.ofSeconds 5400) }
    let config : Config := ⟨{ Settings.default with defaultTimeout := some "90m" }, .default, []⟩
    let checked : CheckedConfig := ⟨config, some (.ofSeconds 5400), []⟩
    (Arguments.parse all = .ok arguments ∧
      ∃ text, Arguments.GivesLimit all text ∧ Lasts text (.ofSeconds 5400)) ∧
    (config.check = .ok checked ∧
      ∃ text, config.settings.defaultTimeout = some text ∧ Lasts text (.ofSeconds 5400)) ∧
    Overflows endlessLimit ∧
      Arguments.parse ["--timeout=".toList ++ endlessLimit] = .error (.overflow .multiply) := by
  intro all arguments config checked
  have hread : Arguments.parse all = .ok arguments := by decide +kernel
  have hcheck : config.check = .ok checked := by decide +kernel
  obtain ⟨⟨-, -, hsingle⟩, ⟨hkept, -⟩, haccepted, -⟩ :=
    limits_exact_or_overflow endlessLimit all config
  exact ⟨⟨hread, hkept arguments _ hread rfl⟩, ⟨hcheck, (haccepted checked hcheck).1 _ rfl⟩,
    overflows_endlessLimit, hsingle overflows_endlessLimit⟩

/-- There are texts that are amounts of minutes, and neither read nor refused. -/
theorem exists_endless_limit : ∃ text amount,
    Duration.Written text amount .minute ∧ amount < wordSize ∧ wordSize ≤ amount * 60 ∧
      ¬ ((∃ limit, Duration.parse text = .ok limit) ∨
        ∃ reason, Duration.parse text = refuse reason) := by
  refine ⟨endlessLimit, _, written_endlessLimit, by decide, by decide, ?_⟩
  rw [Duration.parse_of_overflows overflows_endlessLimit]
  rintro (⟨limit, ⟨⟩⟩ | ⟨reason, ⟨⟩⟩)

end Runbook
