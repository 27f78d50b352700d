import Runbook.Proofs.Plan.Visible

/-!
# Plans that are refused

A plan is refused for a line that cannot become a command, or because there is no line. What is
wrong with a line (`Plan.Offends`) is that it was given on the command line and is blank, or that it
names the output directory and there is none. The lines are looked at in order, so the first of them
that offends is the one to be blamed (`Plan.resolve_eq_error_iff`).

`Plan.resolve_refuses` says when there is such a line. The lines are those of the command line if
there are any, and then nothing that is wrong with the entries of the configuration can matter.
-/

namespace Runbook.Plan

/-! ## Lines -/

/-- What is wrong with a line that is to become a command, where `told` says whether it was given on
the command line. -/
inductive Offends (told : Bool) (dir : Option Pathname) (line : Text) : ConfigError → Prop
  /-- It is blank. The lines of a configuration have been looked at for that before. -/
  | blank (htold : told = true) (hblank : Text.blank line = true) :
    Offends told dir line .blankArgument
  /-- It names the output directory, and there is none. -/
  | undirected (hvisible : told = true → Text.blank line = false) (hdir : dir = none)
    (hmark : Placeholder.mark <:+: line) : Offends told dir line (.noOutputDir line)

section
variable {told : Bool} {dir : Option Pathname} {limit own : Option Duration} {line : Text}
  {reason : ConfigError}

/-- When something is wrong with a line. -/
theorem exists_offends_iff : (∃ reason, Offends told dir line reason) ↔
    (told = true ∧ Text.blank line = true) ∨ (dir = none ∧ Placeholder.mark <:+: line) := by
  constructor
  · rintro ⟨_, ⟨htold, hblank⟩ | ⟨-, hdir, hmark⟩⟩
    · exact .inl ⟨htold, hblank⟩
    · exact .inr ⟨hdir, hmark⟩
  · intro h
    by_cases hblank : told = true ∧ Text.blank line = true
    · exact ⟨_, .blank hblank.1 hblank.2⟩
    · obtain ⟨hdir, hmark⟩ := h.resolve_left hblank
      refine ⟨_, .undirected (fun htold => ?_) hdir hmark⟩
      exact eq_false_of_ne_true fun hb => hblank ⟨htold, hb⟩

/-- An argument is refused for what is wrong with it. -/
theorem commandOfArgument_eq_error_iff :
    commandOfArgument dir limit line = .error reason ↔ Offends true dir line reason := by
  rw [commandOfArgument]
  split
  · next hblank =>
    constructor
    · rintro ⟨⟩
      exact .blank rfl hblank
    · rintro (- | ⟨hvisible, -, -⟩)
      · rfl
      · exact absurd hblank (Bool.eq_false_iff.mp (hvisible rfl))
  · next hvisible =>
    rw [bind_pure_eq_error_iff, Placeholder.expand_eq_error_iff]
    constructor
    · rintro ⟨hdir, hmark, rfl⟩
      exact .undirected (fun _ => Bool.eq_false_iff.mpr hvisible) hdir hmark
    · rintro (⟨-, hblank⟩ | ⟨-, hdir, hmark⟩)
      · exact absurd hblank hvisible
      · exact ⟨hdir, hmark, rfl⟩

/-- An entry of the configuration is refused just for what is wrong with its line. -/
theorem commandOfEntry_eq_error_iff {entry : Entry} :
    commandOfEntry dir limit own entry = .error reason ↔ Offends false dir entry.line reason := by
  rw [commandOfEntry, bind_pure_eq_error_iff, Placeholder.expand_eq_error_iff]
  constructor
  · rintro ⟨hdir, hmark, rfl⟩
    exact .undirected (fun htold => absurd htold Bool.false_ne_true) hdir hmark
  · rintro (⟨htold, -⟩ | ⟨-, hdir, hmark⟩)
    · cases htold
    · exact ⟨hdir, hmark, rfl⟩

end

/-! ## Plans -/

section
variable {arguments : Arguments} {checked : CheckedConfig} {reason : ConfigError}

/-- A list of commands is refused for the first element that is, and also if it is empty. -/
theorem commands_eq_error_iff {α : Type} {f : α → Except ConfigError Command} {xs : List α}
    {planOf : List Command → Plan} :
    (xs.mapM f >>= fun commands =>
      if commands.isEmpty then throw .noCommands else pure (planOf commands)) = .error reason ↔
      (xs = [] ∧ reason = .noCommands) ∨ FirstFault (fun x r => f x = .error r) xs reason := by
  rw [bind_eq_error_iff, mapM_eq_error_iff, or_comm]
  refine or_congr_left ?_
  constructor
  · rintro ⟨commands, hcommands, h⟩
    split at h
    · next hempty =>
      rw [List.isEmpty_iff.mp hempty] at hcommands
      exact ⟨List.forall₂_nil_right_iff.mp (mapM_eq_ok_iff.mp hcommands),
        (Except.error.inj h).symm⟩
    · cases h
  · rintro ⟨rfl, rfl⟩
    exact ⟨[], rfl, rfl⟩

/-- A plan is refused because there is no line for it, or else for the first line that offends. -/
theorem resolve_eq_error_iff : resolve arguments checked = .error reason ↔
    (sources arguments checked.config = [] ∧ reason = .noCommands) ∨
      FirstFault (Offends (!arguments.commands.isEmpty)
        (arguments.outputDir <|> checked.config.settings.outputDir))
        (sources arguments checked.config) reason := by
  simp only [resolve, sources]
  split
  · next hnone =>
    -- Entries are resolved together with their places, which their lines do not depend on.
    have hlines : checked.config.commands.map (·.line) =
        checked.config.commands.zipIdx.map (fun place => place.1.line) := by
      conv_lhs => rw [← List.zipIdx_map_fst 0 checked.config.commands]
      exact List.map_map
    rw [hnone]
    refine commands_eq_error_iff.trans (or_congr ?_ ?_)
    · rw [List.zipIdx_eq_nil_iff, List.map_eq_nil_iff]
    · rw [hlines, FirstFault.map_iff]
      exact FirstFault.congr fun _ _ => commandOfEntry_eq_error_iff
  · next hsome =>
    rw [Bool.eq_false_iff.mpr hsome]
    exact commands_eq_error_iff.trans
      (or_congr_right (FirstFault.congr fun _ _ => commandOfArgument_eq_error_iff))

/-- A line of the plan is blank and was given on the command line just if an argument is blank. -/
theorem exists_blank_source_iff : (∃ line ∈ sources arguments checked.config,
    (!arguments.commands.isEmpty) = true ∧ Text.blank line = true) ↔
      ∃ line ∈ arguments.commands, Text.blank line = true := by
  rw [sources]
  cases harguments : arguments.commands with
  | nil => simp
  | cons first rest => simp

end

/-- A plan is refused just if there are no lines for it, or one of the command line is blank, or one
names the output directory and there is none. Without lines that is the reason; otherwise the reason
is what is wrong with the first line that offends. If the command line has lines, it does not matter
which entries the configuration has. -/
theorem resolve_refuses (arguments : Arguments) (checked : CheckedConfig) :
    let dir := arguments.outputDir <|> checked.config.settings.outputDir
    let lines := sources arguments checked.config
    ((∃ reason, resolve arguments checked = .error reason) ↔
      lines = [] ∨ (∃ line ∈ arguments.commands, Text.blank line = true) ∨
        (dir = none ∧ ∃ line ∈ lines, Placeholder.mark <:+: line)) ∧
    (∀ reason, resolve arguments checked = .error reason ↔
      (lines = [] ∧ reason = .noCommands) ∨
        FirstFault (Offends (!arguments.commands.isEmpty) dir) lines reason) ∧
    (arguments.commands ≠ [] → ∀ entries timeouts,
      resolve arguments ⟨{ checked.config with commands := entries }, checked.defaultTimeout,
        timeouts⟩ = resolve arguments checked) := by
  intro dir lines
  refine ⟨?refused, fun reason => resolve_eq_error_iff, fun hsome entries timeouts =>
    resolve_congr hsome rfl rfl rfl⟩
  case refused =>
    calc (∃ reason, resolve arguments checked = .error reason)
      _ ↔ lines = [] ∨ ∃ line ∈ lines, ∃ reason,
            Offends (!arguments.commands.isEmpty) dir line reason := by
          simp only [resolve_eq_error_iff, exists_or, exists_and_left, exists_eq, and_true,
            FirstFault.exists_iff, lines, dir]
      _ ↔ lines = [] ∨ (∃ line ∈ lines, (!arguments.commands.isEmpty) = true ∧
            Text.blank line = true) ∨ ∃ line ∈ lines, dir = none ∧ Placeholder.mark <:+: line := by
          simp only [exists_offends_iff, and_or_left, exists_or]
      _ ↔ _ := by
          rw [exists_blank_source_iff]
          refine or_congr_right (or_congr_right ?_)
          exact ⟨fun ⟨line, hline, hdir, hmark⟩ => ⟨hdir, line, hline, hmark⟩,
            fun ⟨hdir, line, hline, hmark⟩ => ⟨line, hline, hdir, hmark⟩⟩

/-- The second argument names a directory that there is not, and the third is blank. That the entry
of the configuration names it as well does not matter. -/
theorem resolve_refuses_second :
    let arguments : Arguments :=
      { Arguments.none with commands := [['a'], Placeholder.mark, [' ']] }
    let reason : ConfigError := .noOutputDir Placeholder.mark
    let config (entries : List Entry) : Config := ⟨.default, .default, entries⟩
    let checked : CheckedConfig := ⟨config [⟨Placeholder.mark, none, none⟩], none, [none]⟩
    arguments.commands ≠ [] ∧ resolve arguments checked = .error reason ∧
      FirstFault (Offends true none) arguments.commands reason ∧
      resolve arguments ⟨config [], none, []⟩ = .error reason := by
  intro arguments reason config checked
  have hsome : arguments.commands ≠ [] := List.cons_ne_nil _ _
  have hrefused : resolve arguments checked = .error reason := by decide +kernel
  obtain ⟨-, hreason, hentries⟩ := resolve_refuses arguments checked
  have hfirst := ((hreason reason).mp hrefused).resolve_left fun h => hsome h.1
  exact ⟨hsome, hrefused, hfirst, (hentries hsome [] []).trans hrefused⟩

end Runbook.Plan
