import Runbook.Arguments
import Runbook.Proofs.Duration.Written
import Runbook.Proofs.Pathname
import Runbook.Proofs.Text.Numeral

/-!
# Arguments written on a command line

Arguments are spelled by many command lines (`Arguments.Spells`): the options that are chosen come
in any order, each as `--name=value` or `--name`, and commands may stand among them, as long as
those that could be taken for options come behind `--`. From each of these command lines the
arguments are read again (`Arguments.parse_of_spells`).

On the way, what has been read is the arguments cut down to the commands and the options met so far
(`Arguments.given`). An option that has not been met is not there to be repeated, so it is read; at
the end all that are chosen have been met and nothing is cut off.
-/

namespace Runbook.Arguments

/-- A list is the elements of two others, those of each in their order. -/
inductive Merged {α : Type} : List α → List α → List α → Prop
  | nil : Merged [] [] []
  | left {as bs all : List α} (a : α) (h : Merged as bs all) : Merged (a :: as) bs (a :: all)
  | right {as bs all : List α} (b : α) (h : Merged as bs all) : Merged as (b :: bs) (b :: all)

/-! ## Writing arguments -/

section
variable (arguments : Arguments)

/-- Whether the option or switch is chosen. -/
def Chooses : Flag → Prop
  | .parameter parameter => arguments.has parameter = true
  | .switch .propagateFailure => arguments.propagateFailure = true
  | .switch .dryRun => arguments.dryRun = true
  | .switch .help | .switch .version => False

/-- The value of a parameter in words, if it has one. Time limits are written in milliseconds, and
paths as they are shown. -/
def value? : Parameter → Option Text
  | .config => arguments.config.map Pathname.display
  | .outputDir => arguments.outputDir.map Pathname.display
  | .timeout => arguments.timeout.map fun limit =>
    Text.ofNat (limit.nanoseconds / 1000000) ++ Duration.TimeUnit.millisecond.name
  | .color => arguments.color.map ColorChoice.name
  | .logLevel => arguments.logLevel.map LogLevel.name

/-- What stands behind the two hyphens of an option: its name, and its value if it takes one. -/
def body (flag : Flag) : Text :=
  match flag with
  | .parameter parameter => parameter.name ++ '=' :: (arguments.value? parameter).getD []
  | .switch switch => switch.name

/-- The values can be written, and read again: paths are texts and not empty, and a time limit is a
number of milliseconds that fits in a word. -/
structure Writable : Prop where
  config : ∀ path ∈ arguments.config, ∃ text, text ≠ [] ∧ path = .ofText text
  outputDir : ∀ path ∈ arguments.outputDir, ∃ text, text ≠ [] ∧ path = .ofText text
  timeout : ∀ limit ∈ arguments.timeout, ∃ n < wordSize, limit = Duration.ofMilliseconds n

/-- The command line spells the arguments: it has each option that is chosen once, in any order, and
mixed with them the first of the commands, none of which starts with a hyphen. Behind `--` it has
the other commands. -/
inductive Spells : List Text → Prop
  | intro {flags : List Flag} {first mixed rest : List Text} (hnodup : flags.Nodup)
    (hflags : ∀ flag, flag ∈ flags ↔ arguments.Chooses flag)
    (hcommands : arguments.commands = first ++ rest)
    (hfirst : ∀ command ∈ first, command.head? ≠ some '-')
    (hmixed : Merged (flags.map fun flag => '-' :: '-' :: arguments.body flag) first mixed) :
    Spells (mixed ++ "--".toList :: rest)

/-- The arguments as far as they have been given: the commands, and of the options those among
`seen`. -/
def given (seen : List Flag) (commands : List Text) : Arguments where
  commands := commands
  config := if .parameter .config ∈ seen then arguments.config else .none
  outputDir := if .parameter .outputDir ∈ seen then arguments.outputDir else .none
  timeout := if .parameter .timeout ∈ seen then arguments.timeout else .none
  propagateFailure := decide (.switch .propagateFailure ∈ seen) && arguments.propagateFailure
  color := if .parameter .color ∈ seen then arguments.color else .none
  logLevel := if .parameter .logLevel ∈ seen then arguments.logLevel else .none
  dryRun := decide (.switch .dryRun ∈ seen) && arguments.dryRun

end

/-! ## Names and values -/

/-- A name is read as what it stands for. -/
theorem Flag.ofName?_name (flag : Flag) : ofName? flag.name = some flag := by
  cases flag with
  | parameter parameter => cases parameter <;> decide +kernel
  | switch switch => cases switch <;> decide +kernel

/-- There is no equals sign in a name. -/
theorem Flag.equals_notMem_name (flag : Flag) : '=' ∉ flag.name := by
  cases flag with
  | parameter parameter => cases parameter <;> decide +kernel
  | switch switch => cases switch <;> decide +kernel

/-- Milliseconds are read as they are written. -/
theorem parse_milliseconds {n : Nat} (h : n < wordSize) :
    Duration.parse (Text.ofNat n ++ Duration.TimeUnit.millisecond.name) =
      .ok (Duration.ofMilliseconds n) := by
  have hwritten : Duration.Written (Text.ofNat n ++ Duration.TimeUnit.millisecond.name) n
      .millisecond := by
    have hintro : Duration.Written
        ([] ++ (Text.ofNat n ++ ([] ++ Duration.TimeUnit.millisecond.name)) ++ [])
        (Text.numeralValue (Text.ofNat n)) .millisecond :=
      .intro rfl (Text.ofNat_ne_nil n) (fun _ hc => Text.isDigit_of_mem_ofNat hc) rfl
        (by decide +kernel) rfl
    rwa [List.nil_append, List.nil_append, List.append_nil, Text.numeralValue_ofNat] at hintro
  rw [Duration.parse_of_written hwritten h]
  rfl

/-! ## Steps -/

section
variable {arguments : Arguments} {seen : List Flag} {commands : List Text}

/-- A parameter that has not been seen has not been given. -/
theorem has_given {parameter : Parameter} (h : .parameter parameter ∉ seen) :
    (arguments.given seen commands).has parameter = false := by
  cases parameter <;> simp [has, given, h]

/-- The value of a parameter is read into the arguments. -/
theorem assign_given (hw : arguments.Writable) {parameter : Parameter} {value : Text}
    (hvalue : arguments.value? parameter = some value) (h : .parameter parameter ∉ seen) :
    (arguments.given seen commands).assign parameter value =
      .ok (arguments.given (.parameter parameter :: seen) commands) := by
  have hhas : (arguments.given seen commands).has parameter = false := has_given h
  unfold assign
  simp only [hhas, Bool.false_eq_true, if_false]
  cases parameter with
  | config =>
    obtain ⟨path, hconfig, rfl⟩ := Option.map_eq_some_iff.mp hvalue
    obtain ⟨text, hne, rfl⟩ := hw.config path hconfig
    simp [hne, require, given, hconfig]
  | outputDir =>
    obtain ⟨path, hdir, rfl⟩ := Option.map_eq_some_iff.mp hvalue
    obtain ⟨text, hne, rfl⟩ := hw.outputDir path hdir
    simp [hne, require, given, hdir]
  | timeout =>
    obtain ⟨limit, hlimit, rfl⟩ := Option.map_eq_some_iff.mp hvalue
    obtain ⟨n, hn, rfl⟩ := hw.timeout limit hlimit
    have hmilliseconds : (Duration.ofMilliseconds n).nanoseconds / 1000000 = n :=
      Nat.mul_div_cancel n (by decide)
    simp only [hmilliseconds, parse_milliseconds hn]
    simp [Checked.mapReason, Except.mapError, given, hlimit]
  | color =>
    obtain ⟨choice, hchoice, rfl⟩ := Option.map_eq_some_iff.mp hvalue
    simp [ColorChoice.ofName?_name, require, given, hchoice]
  | logLevel =>
    obtain ⟨level, hlevel, rfl⟩ := Option.map_eq_some_iff.mp hvalue
    simp [LogLevel.ofName?_name, require, given, hlevel]

/-- A parameter that is chosen has a value. -/
theorem exists_value {parameter : Parameter} (h : arguments.Chooses (.parameter parameter)) :
    ∃ value, arguments.value? parameter = some value := by
  refine Option.isSome_iff_exists.mp ?_
  have hgiven : arguments.has parameter = true := h
  cases parameter <;> simpa [value?, has] using hgiven

/-- A switch is turned on. -/
theorem turnOn_given {switch : Switch} (hchosen : arguments.Chooses (.switch switch))
    (h : .switch switch ∉ seen) :
    (arguments.given seen commands).turnOn switch =
      .ok (arguments.given (.switch switch :: seen) commands) := by
  cases switch with
  | propagateFailure =>
    have hon : arguments.propagateFailure = true := hchosen
    simp [turnOn, given, h, hon]
  | dryRun =>
    have hon : arguments.dryRun = true := hchosen
    simp [turnOn, given, h, hon]
  | help | version => exact hchosen.elim

/-- An option that is chosen is read. -/
theorem long_given (hw : arguments.Writable) {flag : Flag} (hchosen : arguments.Chooses flag)
    (h : flag ∉ seen) :
    Reading.long ⟨arguments.given seen commands, .none⟩ (arguments.body flag) =
      .ok ⟨arguments.given (flag :: seen) commands, .none⟩ := by
  have hinside : ∀ c ∈ flag.name, decide (c ≠ '=') = true := fun c hc =>
    decide_eq_true fun heq => flag.equals_notMem_name (heq ▸ hc)
  cases flag with
  | parameter parameter =>
    obtain ⟨value, hvalue⟩ := exists_value hchosen
    have hbody : arguments.body (.parameter parameter) =
        (Flag.parameter parameter).name ++ '=' :: value := by
      rw [body, hvalue]
      rfl
    have hequals : ∀ c ∈ ('=' :: value).head?, decide (c ≠ '=') = false := by simp
    obtain ⟨htake, hdrop⟩ := Text.span_append hinside hequals
    rw [hbody]
    simp only [Reading.long, htake, hdrop, Flag.ofName?_name]
    show ((arguments.given seen commands).assign parameter value >>= fun arguments =>
      .ok (Reading.mk arguments .none)) = _
    rw [assign_given hw hvalue h]
    rfl
  | switch switch =>
    have hnothing : ∀ c ∈ ([] : Text).head?, decide (c ≠ '=') = false := nofun
    obtain ⟨htake, hdrop⟩ := Text.span_append hinside hnothing
    rw [List.append_nil] at htake hdrop
    have hbody : arguments.body (.switch switch) = (Flag.switch switch).name := rfl
    rw [hbody]
    simp only [Reading.long, htake, hdrop, Flag.ofName?_name]
    show ((arguments.given seen commands).turnOn switch >>= fun arguments =>
      .ok (Reading.mk arguments .none)) = _
    rw [turnOn_given hchosen h]
    rfl

/-- What is behind the hyphens of an option is not empty. -/
theorem body_ne_nil (arguments : Arguments) (flag : Flag) : arguments.body flag ≠ [] := by
  cases flag with
  | parameter parameter => exact List.append_ne_nil_of_right_ne_nil _ (List.cons_ne_nil _ _)
  | switch switch =>
    have hname : ∀ switch : Switch, switch.name ≠ [] := by
      rintro ⟨⟩ <;> decide +kernel
    exact hname switch

/-- What has two hyphens before it, and more behind them, is taken as an option. -/
theorem parseFrom_long (reading : Reading) {body : Text} (h : body ≠ []) (rest : List Text) :
    parseFrom reading (('-' :: '-' :: body) :: rest) =
      reading.long body >>= fun reading => parseFrom reading rest := by
  obtain ⟨c, body, rfl⟩ := List.exists_cons_of_ne_nil h
  rfl

/-- What has no hyphen before it is taken as it stands. -/
theorem parseFrom_plain (reading : Reading) {argument : Text} (h : argument.head? ≠ some '-')
    (rest : List Text) :
    parseFrom reading (argument :: rest) =
      reading.plain argument >>= fun reading => parseFrom reading rest := by
  conv_lhs => unfold parseFrom
  split
  · exact absurd rfl h
  · exact absurd rfl h
  · exact absurd rfl h
  · rfl

/-- An option is read, and then what follows it. -/
theorem parseFrom_option (hw : arguments.Writable) {flag : Flag}
    (hchosen : arguments.Chooses flag) (h : flag ∉ seen) (rest : List Text) :
    parseFrom ⟨arguments.given seen commands, .none⟩
        (('-' :: '-' :: arguments.body flag) :: rest) =
      parseFrom ⟨arguments.given (flag :: seen) commands, .none⟩ rest := by
  rw [parseFrom_long _ (body_ne_nil arguments flag), long_given hw hchosen h]
  rfl

/-- A command is taken, and then what follows it. -/
theorem parseFrom_command {command : Text} (h : command.head? ≠ some '-') (rest : List Text) :
    parseFrom ⟨arguments.given seen commands, .none⟩ (command :: rest) =
      parseFrom ⟨arguments.given seen (commands ++ [command]), .none⟩ rest := by
  rw [parseFrom_plain _ h]
  rfl

/-- Commands that follow are taken one after another. -/
theorem foldlM_command (rest : List Text) :
    rest.foldlM Reading.command ⟨arguments.given seen commands, .none⟩ =
      .ok ⟨arguments.given seen (commands ++ rest), .none⟩ := by
  induction rest generalizing commands with
  | nil => rw [List.append_nil]; rfl
  | cons command rest ih =>
    rw [List.foldlM_cons]
    show rest.foldlM Reading.command ⟨arguments.given seen (commands ++ [command]), .none⟩ = _
    rw [ih, List.append_assoc]
    rfl

/-- Where it is said that commands follow, they are taken and the reading ends. -/
theorem parseFrom_rest (rest : List Text) :
    parseFrom ⟨arguments.given seen commands, .none⟩ ("--".toList :: rest) =
      .ok (arguments.given seen (commands ++ rest)) := by
  show (rest.foldlM Reading.command ⟨arguments.given seen commands, .none⟩ >>= Reading.settle) = _
  rw [foldlM_command]
  rfl

/-- Options and commands are read in whatever way they are mixed. -/
theorem parseFrom_merged (hw : arguments.Writable) {options first mixed : List Text}
    (hmixed : Merged options first mixed) (rest : List Text) :
    ∀ {flags seen : List Flag} {commands : List Text},
      options = flags.map (fun flag => '-' :: '-' :: arguments.body flag) → flags.Nodup →
      (∀ flag ∈ flags, arguments.Chooses flag) → flags.Disjoint seen →
      (∀ command ∈ first, command.head? ≠ some '-') →
      parseFrom ⟨arguments.given seen commands, .none⟩ (mixed ++ rest) =
        parseFrom ⟨arguments.given (flags.reverse ++ seen) (commands ++ first), .none⟩ rest := by
  induction hmixed with
  | nil =>
    intro flags seen commands hoptions _ _ _ _
    obtain rfl := List.map_eq_nil_iff.mp hoptions.symm
    rw [List.append_nil]
    rfl
  | left option _ ih =>
    intro flags seen commands hoptions hnodup hchosen hdisjoint hfirst
    obtain ⟨flag, flags, rfl, rfl, htail⟩ := List.map_eq_cons_iff.mp hoptions.symm
    obtain ⟨hnew, hnodup⟩ := List.nodup_cons.mp hnodup
    obtain ⟨hunseen, hdisjoint⟩ := List.disjoint_cons_left.mp hdisjoint
    obtain ⟨hflag, hchosen⟩ := List.forall_mem_cons.mp hchosen
    rw [List.cons_append, parseFrom_option hw hflag hunseen,
      ih htail.symm hnodup hchosen (List.disjoint_cons_right.mpr ⟨hnew, hdisjoint⟩) hfirst,
      List.reverse_cons, List.append_assoc, List.singleton_append]
  | right command _ ih =>
    intro flags seen commands hoptions hnodup hchosen hdisjoint hfirst
    obtain ⟨hcommand, hfirst⟩ := List.forall_mem_cons.mp hfirst
    rw [List.cons_append, parseFrom_command hcommand,
      ih hoptions hnodup hchosen hdisjoint hfirst, List.append_assoc, List.singleton_append]

/-- All that is chosen has been given. -/
theorem given_eq_self (h : ∀ flag, arguments.Chooses flag → flag ∈ seen) :
    arguments.given seen arguments.commands = arguments := by
  have hparameter : ∀ {α : Type} {parameter : Parameter} {value : Option α},
      (value.isSome = true → arguments.has parameter = true) →
        (if .parameter parameter ∈ seen then value else .none) = value := by
    intro α parameter value hvalue
    split
    · rfl
    · next hnone =>
      cases value with
      | none => rfl
      | some value => exact absurd (h (.parameter parameter) (hvalue rfl)) hnone
  have hswitch : ∀ {flag : Flag} {value : Bool}, (value = true → arguments.Chooses flag) →
      (decide (flag ∈ seen) && value) = value := by
    intro flag value hvalue
    cases value with
    | false => exact Bool.and_false _
    | true => rw [Bool.and_true, decide_eq_true (h flag (hvalue rfl))]
  rw [given, hparameter id, hparameter id, hparameter id, hparameter id, hparameter id,
    hswitch id, hswitch id]

end

/-! ## Whole command lines -/

/-- Before anything is read nothing has been given. -/
theorem given_nil (arguments : Arguments) : arguments.given [] [] = none := rfl

/-- Arguments that are spelled on a command line are read from it. The order of the options does not
matter, nor does the place at which the commands are split, and what follows that place is a command
whatever it looks like. -/
theorem parse_of_spells {arguments : Arguments} {all : List Text} (hw : arguments.Writable)
    (h : arguments.Spells all) : parse all = .ok arguments := by
  obtain @⟨flags, first, mixed, rest, hnodup, hflags, hcommands, hfirst, hmixed⟩ := h
  rw [parse, ← given_nil arguments,
    parseFrom_merged hw hmixed _ rfl hnodup (fun flag hflag => (hflags flag).mp hflag)
      (List.disjoint_nil_right flags) hfirst,
    parseFrom_rest, List.nil_append, ← hcommands]
  refine congrArg _ (given_eq_self fun flag hchosen => ?_)
  rw [List.append_nil, List.mem_reverse]
  exact (hflags flag).mpr hchosen

/-- The command line `--log-level=warn make --config=--a=b --dry-run --timeout=1500ms
--output-dir=- bench -- --help -- -x` and an empty argument at its end. -/
theorem parse_of_spells_lookalikes :
    let arguments : Arguments :=
      ⟨["make".toList, "bench".toList, "--help".toList, "--".toList, "-x".toList, []],
        some (.ofText "--a=b"), some (.ofText "-"), some (Duration.ofMilliseconds 1500), false,
        .none, some .warn, true⟩
    let all := ["--log-level=warn".toList, "make".toList, "--config=--a=b".toList,
      "--dry-run".toList, "--timeout=1500ms".toList, "--output-dir=-".toList, "bench".toList,
      "--".toList, "--help".toList, "--".toList, "-x".toList, []]
    arguments.Writable ∧ arguments.Spells all ∧ parse all = .ok arguments := by
  intro arguments all
  have hw : arguments.Writable := by
    refine ⟨?config, ?outputDir, fun limit hlimit => ⟨1500, by decide, ?timeout⟩⟩
    case config =>
      rintro path ⟨⟩
      exact ⟨"--a=b".toList, by decide, rfl⟩
    case outputDir =>
      rintro path ⟨⟩
      exact ⟨"-".toList, by decide, rfl⟩
    case timeout => exact (Option.mem_some.mp hlimit).symm
  let flags : List Flag := [.parameter .logLevel, .parameter .config, .switch .dryRun,
    .parameter .timeout, .parameter .outputDir]
  have hflags : ∀ flag, flag ∈ flags ↔ arguments.Chooses flag := by
    rintro (⟨⟨⟩⟩ | ⟨⟨⟩⟩) <;> simp [flags, Chooses, has, arguments]
  have hoptions : flags.map (fun flag => '-' :: '-' :: arguments.body flag) =
      ["--log-level=warn".toList, "--config=--a=b".toList, "--dry-run".toList,
        "--timeout=1500ms".toList, "--output-dir=-".toList] := by decide +kernel
  have hmixed : Merged (flags.map fun flag => '-' :: '-' :: arguments.body flag)
      ["make".toList, "bench".toList] (all.take 7) := by
    rw [hoptions]
    exact .left _ (.right _ (.left _ (.left _ (.left _ (.left _ (.right _ .nil))))))
  have hspells : arguments.Spells (all.take 7 ++ "--".toList :: all.drop 8) :=
    .intro (by decide +kernel) hflags rfl (by decide +kernel) hmixed
  exact ⟨hw, hspells, parse_of_spells hw hspells⟩

end Runbook.Arguments
