import Runbook.Files
import Runbook.Shell.Activity
import Runbook.Shell.Format.Number
import Runbook.Shell.Quotation
import Runbook.Text.Numeral

/-!
# Programs with arguments

A `Job` is a program that is about to start, with its arguments and the files it finds. A `Utility`
says what such a program does. Options may stand anywhere among the operands, and two hyphens end
them.
-/

namespace Runbook.Shell

/-- A program that is about to start. -/
structure Job where
  name : Text
  arguments : List Text
  exports : List (Text × Text)
  files : Files
  /-- The files together with those that the system makes up. -/
  visible : Files
  dir : Path
  /-- The permissions that new files are not given. -/
  mask : Nat
  /-- The file that the standard input is, if it is one, and the place in it where reading begins.
  -/
  input : Option (Nat × Nat)
  /-- The file that the standard output is, if it is one, and the place in it where writing begins.
  -/
  output : Option (Nat × Nat)
  /-- Whether there is a standard output. -/
  hasOutput : Bool

/-- What a program does. -/
abbrev Utility := Job → Activity

namespace Job

/-- Writes a text and ends well. -/
def answers (_job : Job) (text : Text) : Activity := .say text (.finish 0)

/-- A complaint of the program, before something else. -/
def complain (job : Job) (text : Text) (next : Activity) : Activity :=
  .complain (job.name ++ ": " ++ text) next

/-- A complaint about the arguments, at which the program ends. -/
def misused (job : Job) (status : Nat) (text : Text) : Activity :=
  (job.complain text (.complain
    ("Try '" ++ job.name ++ " --help' for more information.") (.finish status)))

end Job

/-! ## Options -/

/-- Arguments by their kind: options with their values, and operands. -/
structure Given where
  options : List (Char × Text)
  operands : List Text

/-- Whether an option was given. -/
def Given.has (given : Given) (option : Char) : Bool := given.options.any (·.1 = option)

/-- The last value that was given for an option. -/
def Given.value? (given : Given) (option : Char) : Option Text :=
  (given.options.reverse.find? (·.1 = option)).map (·.2)

/-- All values that were given for an option. -/
def Given.values (given : Given) (option : Char) : List Text :=
  (given.options.filter (·.1 = option)).map (·.2)

/-- The last of several options that was given. -/
def Given.lastOf? (given : Given) (letters : Text) : Option Char :=
  (given.options.reverse.find? fun (letter, _) => letters.elem letter).map (·.1)

/-- The options that a program knows by their letters: those without a value, those with one, and
those whose value stands right behind them if there is one. Long names are given with the letters
that they stand for; a letter above all bytes can only be meant by its long name. -/
structure Switches where
  plain : Text
  valued : Text := []
  optional : Text := []
  long : List (String × Char) := []
  /-- Whether there are no options behind the first operand. -/
  areLeading : Bool := false
  /-- What is said of a letter that is none of the options. -/
  foreign : Char → Text := fun c => "invalid option -- '" ++ [c] ++ "'"

/-- The options that one argument gives after its hyphen; the last of them may want its value from
the next argument. -/
def Switches.readLetters (switches : Switches) :
    Text → Except Text (List (Char × Text) × Option Char)
  | [] => return ([], none)
  | c :: rest =>
    if switches.plain.elem c then do
      let (options, wanting) ← readLetters switches rest
      return ((c, []) :: options, wanting)
    else if switches.optional.elem c then return ([(c, rest)], none)
    else if switches.valued.elem c then
      if rest.isEmpty then return ([], some c) else return ([(c, rest)], none)
    else throw (switches.foreign c)

/-- The long name that a text stands for, which may be the start of a name. -/
def Switches.findLong (switches : Switches) (text : Text) : Except Text (Text × Char) :=
  let found := (switches.long.map fun (name, letter) => (name.toList, letter)).filter
    fun (name, _) => text.isPrefixOf name
  match found.find? (·.1 = text), found with
  | some exact, _ => .ok exact
  | none, [] => .error ("unrecognized option '--" ++ text ++ "'")
  | none, first :: others =>
    if others.all (·.2 = first.2) then .ok first
    else .error ("option '--" ++ text ++ "' is ambiguous; possibilities:" ++
      found.flatMap fun (name, _) => (" '--" ++ name ++ "'" : Text))

/-- Reads an argument behind two hyphens: the option with its value, or the long name and the letter
of one that wants its value from the next argument. -/
def Switches.readLong (switches : Switches) (text : Text) :
    Except Text ((Char × Text) ⊕ (Text × Char)) := do
  let given := text.takeWhile (· ≠ '=')
  let (name, letter) ← switches.findLong given
  let value := if given.length < text.length then some (text.drop (given.length + 1)) else none
  match value with
  | some value =>
    if switches.plain.elem letter then
      throw ("option '--" ++ name ++ "' doesn't allow an argument")
    return .inl (letter, value)
  | none => if switches.valued.elem letter then return .inr (name, letter) else
      return .inl (letter, [])

/-- Sorts arguments. -/
def Switches.read (switches : Switches) : List Text → Except Text Given
  | [] => return ⟨[], []⟩
  | ['-', '-'] :: rest => return ⟨[], rest⟩
  | ('-' :: '-' :: text) :: rest => do
    match ← switches.readLong text, rest with
    | .inl option, rest =>
      let given ← read switches rest
      return { given with options := option :: given.options }
    | .inr (_, letter), value :: rest =>
      let given ← read switches rest
      return { given with options := (letter, value) :: given.options }
    | .inr (name, _), [] => throw ("option '--" ++ name ++ "' requires an argument")
  | ('-' :: c :: more) :: rest => do
    match ← switches.readLetters (c :: more), rest with
    | (options, none), rest =>
      let given ← read switches rest
      return { given with options := options ++ given.options }
    | (options, some c), value :: rest =>
      let given ← read switches rest
      return { given with options := options ++ (c, value) :: given.options }
    | (_, some c), [] => throw ("option requires an argument -- '" ++ [c] ++ "'")
  | operand :: rest => do
    if switches.areLeading then return ⟨[], operand :: rest⟩
    let given ← read switches rest
    return { given with operands := operand :: given.operands }

/-- A program that takes options, and ends with `status` if they are not its own. -/
def withSwitches (switches : Switches) (status : Nat) (run : Job → Given → Activity) :
    Utility := fun job =>
  match switches.read job.arguments with
  | .ok given => run job given
  | .error text => job.misused status text

/-- A program that takes options without long names. -/
def withOptions (plain valued : Text) (status : Nat) (run : Job → Given → Activity) :
    Utility := withSwitches { plain, valued } status run

/-- A whole number without a sign. -/
def natural? (text : Text) : Option Nat :=
  if !text.isEmpty && text.all Char.isDigit then some (Text.numeralValue text) else none

/-- A number that may have a unit after it. -/
def amount? (text : Text) : Option Nat :=
  let digits := text.takeWhile Char.isDigit
  let unit := text.drop digits.length
  let scale : Option Nat :=
    if unit.isEmpty then some 1
    else if unit = "b" then some 512
    else if unit = "kB" then some 1000
    else if unit = "k" || unit = "K" || unit = "KiB" then some 1024
    else if unit = "MB" then some 1000000
    else if unit = "m" || unit = "M" || unit = "MiB" then some 1048576
    else if unit = "GB" then some 1000000000
    else if unit = "G" || unit = "GiB" then some 1073741824
    else none
  if digits.isEmpty then none else scale.map (Text.numeralValue digits * ·)

/-- A length of time, which is one in seconds if it has no unit, in nanoseconds; the inner `none`
stands for ever. -/
def span? (text : Text) : Option (Option Nat) :=
  let bare := (Format.splitSign text).2.map Char.toLower
  match Format.readDecimal text with
  | none => if bare = "infinity" || bare = "inf" then some none else none
  | some (number, unit) =>
    let seconds : Option Nat := match unit with
      | [] | ['s'] => some 1
      | ['m'] => some 60
      | ['h'] => some 3600
      | ['d'] => some 86400
      | _ => none
    if number.negative && number.digits ≠ 0 then none
    else seconds.map fun seconds =>
      some (number.digits * seconds * 1000000000 / Nat.pow 10 number.places)

/-- A text with another one in the place of each `mark` in it; `bound` is how long it is. -/
def replaceMark (mark value : Text) : Nat → Text → Text
  | 0, text => text
  | _, [] => []
  | bound + 1, c :: rest =>
    if !mark.isEmpty && mark.isPrefixOf (c :: rest) then
      value ++ replaceMark mark value bound ((c :: rest).drop mark.length)
    else c :: replaceMark mark value bound rest

/-! ## Operands -/

/-- The directory in which a process sees what it has open. -/
def descriptorPlace : Path := ["proc", "self", "fd"]

/-- The descriptor that a path means to a process. -/
def descriptorAt? (path : Path) : Option Nat :=
  if path.dropLast = descriptorPlace then natural? (path.getLast?.getD []) else none

/-- What is read from an operand; a hyphen stands for the standard input. -/
def Job.source (job : Job) (operand : Text) : Except SystemError Source := do
  if operand = "-" then return .descriptor 0
  let (path, node) ← job.visible.find job.dir operand
  match node.kind with
  | .pipe => match descriptorAt? path with
    | some descriptor => return .descriptor descriptor
    | none => return .content ByteArray.empty
  | .file content => return .content content
  | .directory => throw .isDirectory
  | .device .zero | .device .full => return .zeros
  | .device .terminal => throw .noDevice
  | _ => return .content ByteArray.empty

/-- What is read from operands, or from the standard input if there are none. -/
def Job.sources (job : Job) (operands : List Text) : List (Text × Except SystemError Source) :=
  if operands.isEmpty then [(['-'], .ok (.descriptor 0))]
  else operands.map fun operand => (operand, job.source operand)

/-- Complains that an operand cannot be read, and about `closing` as well if that is so because
there is no standard input. -/
def Job.unread (job : Job) (closing operand reason : Text) (next : Activity) : Activity :=
  job.complain (shown operand ++ ": " ++ reason)
    (if reason = badDescriptor then job.complain (closing ++ ": " ++ reason) next else next)

/-- Reads sources one after another through one filter, and complains about those that cannot be
read. After each source is written what `flush` makes of what the filter remembers. What comes at
the end is told that too, and the status so far. -/
def Job.through {σ : Type} (job : Job) (closing : Text) (filter : Filter σ) (flush : σ → σ × Text)
    (close : σ → Nat → Activity) : List (Text × Except SystemError Source) → Nat → σ → Activity
  | [], status, state => close state status
  | (operand, .ok source) :: rest, status, state =>
    .pump source [1] filter state
      (fun state reason => job.unread closing operand reason
        (through job closing filter flush close rest 1 state))
      fun state =>
        let (state, text) := flush state
        .say text (through job closing filter flush close rest status state)
  | (operand, .error error) :: rest, _, state =>
    job.complain (shown operand ++ ": " ++ error.reason)
      (through job closing filter flush close rest 1 state)

/-- Deals with lines as they come; the last line of a file counts as one even if it has no line
feed. What `deal` makes of what is remembered and of lines is what is remembered then, a text, and
whether more is wanted. What comes at the end is told what is remembered, and the status so far. -/
def Job.lineByLine {σ : Type} (job : Job) (deal : σ → List Text → σ × Text × Bool) (initial : σ)
    (close : σ → Nat → Activity) (operands : List Text) : Activity :=
  let flush (state : Filter.LineState σ) : Filter.LineState σ × Text :=
    if state.unfinished.isEmpty then (state, [])
    else
      let (after, text, _) := deal state.state (Filter.linesOf state.unfinished)
      (⟨.empty, after⟩, text)
  job.through ['-'] (.byLines deal) flush (fun state => close state.state) (job.sources operands) 0
    ⟨.empty, initial⟩

/-- Deals with every line by itself. -/
def Job.eachLine (job : Job) (change : Text → Option Text) (operands : List Text) :
    Activity :=
  (job.lineByLine (fun _ lines => ((), Text.unlines (lines.filterMap change), true)) ()
    (fun _ => .finish) operands)

/-- Reads all sources, each of them as a whole. What comes then is told their contents. One that
cannot be read ends that with what `failed` makes of the reason. -/
def gather (failed : Text → Text → Activity) (next : List (Text × ByteArray) → Activity) :
    List (Text × Except SystemError Source) → List (Text × ByteArray) → Activity
  | [], found => next found.reverse
  | (operand, .error error) :: _, _ => failed operand error.reason
  | (operand, .ok source) :: rest, found =>
    .pump source [1] .collect .empty (fun _ reason => failed operand reason) fun bytes =>
      gather failed next rest ((operand, bytes) :: found)

end Runbook.Shell
