import Runbook.Arguments
import Mathlib.Data.List.Basic

/-!
# The time limit of the command line

A time limit is given on the command line behind `--timeout=`, or as the argument after `--timeout`,
as long as no `--` stands before it (`Arguments.GivesLimit`). Reading the arguments finds no other:
the limit it ends with is one that was given, and if it overflows that is because one that was given
does (`Arguments.sound_parse`).

The value of an option waits for the argument after it to be looked at, so on the way one has to
know of what is waiting where it came from (`Arguments.Reading.Told`).
-/

namespace Runbook.Arguments

/-- The arguments that can be options: those before the first that says that commands follow. -/
def options (all : List Text) : List Text := all.takeWhile (· ≠ "--")

/-- The text is given as a time limit. -/
def GivesLimit (all : List Text) (text : Text) : Prop :=
  "--timeout=".toList ++ text ∈ options all ∨ ["--timeout".toList, text] <:+: options all

/-- The time limit, if there is one, has been read from a text that is given. -/
def Limited (all : List Text) (arguments : Arguments) : Prop :=
  ∀ limit, arguments.timeout = some limit →
    ∃ text, GivesLimit all text ∧ Duration.parse text = .ok limit

/-! ## Names -/

/-- What a choice gives is what stands first, if the condition holds, or comes from the rest. -/
theorem or_of_ite_eq_some {α : Type} {p : Prop} [Decidable p] {a b : α} {other : Option α}
    (h : (if p then some a else other) = some b) : p ∧ a = b ∨ other = some b := by
  by_cases hp : p
  · rw [if_pos hp] at h
    exact .inl ⟨hp, Option.some.inj h⟩
  · rw [if_neg hp] at h
    exact .inr h

/-- A name that stands for something is the name of that. -/
theorem Flag.name_of_ofName? {name : Text} {flag : Flag} (h : ofName? name = some flag) :
    name = flag.name := by
  -- There are nine names, and the name is compared with one after another.
  iterate 9
    rcases or_of_ite_eq_some h with ⟨hname, rfl⟩ | h
    · exact hname
  cases h

/-! ## Steps of reading -/

/-- A step that satisfies `post` if it succeeds, and overflows only if a given time limit does. -/
structure Sound {α : Type} (all : List Text) (post : α → Prop) (step : Checked Refusal α) :
    Prop where
  ok : ∀ a, step = .ok a → post a
  overflow : ∀ operation, step = .error (.overflow operation) →
    ∃ text, GivesLimit all text ∧ Duration.parse text = .error (.overflow operation)

section
variable {α β : Type} {all : List Text} {post : α → Prop} {post' : β → Prop}

/-- A value has to satisfy what is wanted. -/
theorem sound_ok {a : α} (h : post a) : Sound all post (.ok a) where
  ok := by
    rintro _ ⟨⟩
    exact h
  overflow := nofun

/-- A refusal promises nothing. -/
theorem sound_refuse (refusal : Refusal) : Sound all post (refuse refusal) := ⟨nofun, nofun⟩

/-- An overflow has to come from a time limit that is given. -/
theorem sound_overflow {operation : Overflow} {text : Text} (hgives : GivesLimit all text)
    (hparse : Duration.parse text = .error (.overflow operation)) :
    Sound all post (.error (.overflow operation)) where
  ok _ h := by cases h
  overflow := by
    rintro _ ⟨⟩
    exact ⟨text, hgives, hparse⟩

/-- Sound steps one after the other are sound. -/
theorem Sound.bind {step : Checked Refusal α} {next : α → Checked Refusal β}
    (h : Sound all post step) (hnext : ∀ a, post a → Sound all post' (next a)) :
    Sound all post' (step >>= next) := by
  cases step with
  | ok a => exact hnext a (h.ok a rfl)
  | error fault =>
    refine ⟨nofun, fun operation hover => h.overflow operation ?_⟩
    exact congrArg Except.error (Except.error.inj hover)

end

section
variable {all past : List Text} {arguments : Arguments}

/-- Values of the right kind do not overflow. -/
theorem sound_require {α : Type} (parameter : Parameter) (value : Option α) :
    Sound all (fun _ => True) (require parameter value) := by
  cases value with
  | none => exact sound_refuse _
  | some value => exact sound_ok trivial

/-- Reading a value keeps to the limits that are given. -/
theorem sound_assign {parameter : Parameter} {value : Text} (h : Limited all arguments)
    (hvalue : parameter = .timeout → GivesLimit all value) :
    Sound all (Limited all) (arguments.assign parameter value) := by
  simp only [assign]
  split
  · exact sound_refuse _
  · cases parameter with
    | config | outputDir => exact (sound_require _ _).bind fun _ _ => sound_ok h
    | color | logLevel => exact (sound_require _ _).bind fun _ _ => sound_ok h
    | timeout =>
      cases hparse : Duration.parse value with
      | ok limit =>
        refine sound_ok ?_
        rintro _ ⟨⟩
        exact ⟨value, hvalue rfl, hparse⟩
      | error fault =>
        cases fault with
        | refused reason => exact sound_refuse _
        | overflow operation => exact sound_overflow (hvalue rfl) hparse

/-- Turning a switch on leaves the limit alone. -/
theorem sound_turnOn (h : Limited all arguments) (switch : Switch) :
    Sound all (Limited all) (arguments.turnOn switch) := by
  cases switch with
  | help | version => exact sound_refuse _
  | propagateFailure | dryRun =>
    rw [turnOn]
    split
    · exact sound_refuse _
    · exact sound_ok h

end

/-! ## Readings -/

namespace Reading

/-- What is known of a reading once `past` has been read of all arguments: where its limit is from,
and where the value is from that is waiting to be one. -/
structure Told (all past : List Text) (reading : Reading) : Prop where
  limited : Limited all reading.arguments
  waiting : reading.pending = some (.timeout, .none) → ["--timeout".toList] <:+ past
  value : ∀ text, reading.pending = some (.timeout, some text) → GivesLimit all text

section
variable {all past rest : List Text} {arguments : Arguments} {reading : Reading}

/-- With nothing pending there is only the limit to know of. -/
theorem told_settled (h : Limited all arguments) : Told all past ⟨arguments, .none⟩ :=
  ⟨h, nofun, nofun⟩

/-- Settling what is pending keeps to the limits that are given. -/
theorem sound_settle (h : Told all past reading) : Sound all (Limited all) reading.settle := by
  obtain ⟨arguments, _ | ⟨parameter, _ | value⟩⟩ := reading
  · exact sound_ok h.limited
  · exact sound_refuse _
  · refine sound_assign h.limited ?_
    rintro rfl
    exact h.value value rfl

/-- Taking a command keeps to the limits that are given, and nothing is pending after it. -/
theorem sound_command (h : Told all past reading) (argument : Text) (past' : List Text) :
    Sound all (Told all past') (reading.command argument) :=
  (sound_settle h).bind fun _ harguments => sound_ok (told_settled harguments)

/-- A refusal tells of an overflow of what is pending. -/
theorem sound_reject {post : Reading → Prop} (h : Told all past reading) (refusal : Refusal) :
    Sound all post (reading.reject refusal) := by
  unfold reject
  split
  · next operation hover =>
    obtain ⟨text, hgives, hparse⟩ := (sound_settle h).overflow operation hover
    exact sound_overflow hgives hparse
  · exact sound_refuse refusal

/-- A switch leaves nothing pending. -/
theorem sound_switch (h : Told all past reading) (switch : Switch) (value : Option Text)
    (past' : List Text) : Sound all (Told all past') (reading.switch switch value) := by
  cases value with
  | some value => exact sound_reject h _
  | none =>
    refine (sound_settle h).bind fun arguments harguments => ?_
    exact (sound_turnOn harguments switch).bind fun _ hturned => sound_ok (told_settled hturned)

/-- An option with two hyphens gives its value with it, or waits for it. -/
theorem sound_long {body : Text} (hall : past ++ ('-' :: '-' :: body) :: rest = options all)
    (h : Told all past reading) :
    Sound all (Told all (past ++ ['-' :: '-' :: body])) (reading.long body) := by
  have hbody : body.takeWhile (· ≠ '=') ++ body.dropWhile (· ≠ '=') = body :=
    List.takeWhile_append_dropWhile
  simp only [long]
  split
  · exact sound_reject h _
  · exact sound_switch h _ _ _
  · next parameter hname =>
    refine (sound_settle h).bind fun arguments harguments => ?_
    cases hrest : body.dropWhile (· ≠ '=') with
    | nil =>
      rw [hrest, List.append_nil] at hbody
      refine sound_ok ⟨harguments, ?_, nofun⟩
      rintro ⟨⟩
      rw [← hbody, Flag.name_of_ofName? hname]
      exact List.suffix_append _ _
    | cons c value =>
      -- What comes after the name starts with the sign that the name was read up to.
      have hc : c = '=' := by
        have hstop := List.head?_dropWhile_not (· ≠ '=') body
        rw [hrest] at hstop
        simpa using hstop
      refine (sound_assign harguments ?_).bind fun _ hassigned => sound_ok (told_settled hassigned)
      rintro rfl
      rw [hrest, hc, Flag.name_of_ofName? hname] at hbody
      refine .inl ?_
      rw [← hall, ← hbody]
      exact List.mem_append_right _ List.mem_cons_self

/-- An option with one hyphen is no time limit. -/
theorem sound_short (h : Told all past reading) (letter : Char) (past' : List Text) :
    Sound all (Told all past') (reading.short letter) := by
  unfold short
  split
  · exact sound_reject h _
  · exact sound_switch h _ _ _

/-- An argument without a hyphen is the value that was waited for, or a command. -/
theorem sound_plain {argument : Text} (hall : past ++ argument :: rest = options all)
    (h : Told all past reading) :
    Sound all (Told all (past ++ [argument])) (reading.plain argument) := by
  unfold plain
  split
  · next parameter hpending =>
    refine sound_ok ⟨h.limited, nofun, ?_⟩
    rintro _ ⟨⟩
    obtain ⟨start, hstart⟩ := h.waiting hpending
    refine .inr ⟨start, rest, ?_⟩
    rw [← hall, ← hstart, List.append_assoc, List.append_assoc]
    rfl
  · exact sound_command h argument _

/-- Commands only are taken one after another. -/
theorem sound_commands (h : Told all past reading) (commands : List Text) :
    Sound all (Limited all) (commands.foldlM command reading >>= settle) := by
  induction commands generalizing past reading with
  | nil => exact sound_settle h
  | cons argument commands ih =>
    rw [List.foldlM_cons, bind_assoc]
    exact (sound_command h argument past).bind fun _ htold => ih htold

end

end Reading

/-! ## The whole command line -/

/-- An argument that does not say that commands follow is before the first that does. -/
theorem options_cons {argument : Text} (h : argument ≠ "--".toList) (rest : List Text) :
    options (argument :: rest) = argument :: options rest :=
  List.takeWhile_cons_of_pos (decide_eq_true h)

/-- Reading the rest of the arguments keeps to the limits that are given. -/
theorem sound_parseFrom {all past rest : List Text} {reading : Reading}
    (hall : past ++ options rest = options all) (h : reading.Told all past) :
    Sound all (Limited all) (parseFrom reading rest) := by
  -- What has been told stays so step by step, until the arguments end or commands only follow.
  induction rest generalizing past reading with
  | nil => exact Reading.sound_settle h
  | cons argument rest ih =>
    by_cases hdashes : argument = "--".toList
    · subst hdashes
      exact Reading.sound_commands h rest
    · rw [options_cons hdashes] at hall
      have hnext : past ++ [argument] ++ options rest = options all := by
        rw [List.append_assoc]
        exact hall
      unfold parseFrom
      split
      · exact absurd rfl hdashes
      · exact (Reading.sound_long hall h).bind fun _ htold => ih hnext htold
      · exact (Reading.sound_short h _ _).bind fun _ htold => ih hnext htold
      · exact (Reading.sound_plain hall h).bind fun _ htold => ih hnext htold

/-- The time limit that the arguments are read with is one that they give, and if reading them
overflows then reading one of those does. -/
theorem sound_parse (all : List Text) : Sound all (Limited all) (parse all) :=
  sound_parseFrom (List.nil_append (options all)) (Reading.told_settled nofun)

/-- A time limit that is all there is on the command line is read as it is. -/
theorem parse_limit (text : Text) :
    parse ["--timeout=".toList ++ text] =
      (Duration.parse text).mapReason (.unreadableValue .timeout) >>= fun limit =>
        pure { none with timeout := some limit } := by
  have hassign : none.assign .timeout text =
      (Duration.parse text).mapReason (.unreadableValue .timeout) >>= fun limit =>
        pure { none with timeout := some limit } := rfl
  have hlong : parse ["--timeout=".toList ++ text] =
      (none.assign .timeout text >>= fun arguments => pure ⟨arguments, .none⟩) >>=
        Reading.settle := rfl
  -- What is settled at the end depends only on whether the text has been read.
  rw [hlong, hassign]
  cases Duration.parse text with
  | ok | error => rfl

end Runbook.Arguments
