import Runbook.Text.Basic

/-!
# What may be switched on in a shell

A `Switch` is known by a name, and most of them by a letter too. `Switching.ofArguments` reads
what arguments switch on and off, both when a shell is started and when it runs `set`.
-/

namespace Runbook.Shell

/-- What may be switched on in a shell. Those whose doc says nothing change nothing either. -/
inductive Switch where
  /-- A failing command ends the shell. -/
  | stopOnFailure
  /-- Words are not matched against names of files. -/
  | noMatching
  | ignoreEnd
  | interactive
  | monitor
  /-- Commands are read but not run. -/
  | noRunning
  /-- Commands are read from the standard input. -/
  | fromInput
  /-- Commands are shown as they are run. -/
  | trace
  | verbose
  | vi
  | emacs
  /-- A file that exists is not overwritten by a redirection. -/
  | noClobber
  /-- Whatever is assigned is exported. -/
  | exportAll
  | notify
  /-- To use a variable without a value is an error. -/
  | needValues
  | privileged
  | noLog
  | debug
  deriving DecidableEq

namespace Switch

/-- All switches with their names and letters. -/
def table : List (Switch × String × Option Char) := [
  (.stopOnFailure, "errexit", some 'e'), (.noMatching, "noglob", some 'f'),
  (.ignoreEnd, "ignoreeof", some 'I'), (.interactive, "interactive", some 'i'),
  (.monitor, "monitor", some 'm'), (.noRunning, "noexec", some 'n'),
  (.fromInput, "stdin", some 's'), (.trace, "xtrace", some 'x'), (.verbose, "verbose", some 'v'),
  (.vi, "vi", some 'V'), (.emacs, "emacs", some 'E'), (.noClobber, "noclobber", some 'C'),
  (.exportAll, "allexport", some 'a'), (.notify, "notify", some 'b'),
  (.needValues, "nounset", some 'u'), (.privileged, "privileged", some 'p'),
  (.noLog, "nolog", none), (.debug, "debug", none)]

/-- The switch of a letter. -/
def ofLetter? (letter : Char) : Option Switch :=
  (table.find? fun (_, _, known) => known = some letter).map (·.1)

/-- The switch of a name. -/
def ofName? (name : Text) : Option Switch :=
  (table.find? fun (_, known, _) => known.toList = name).map (·.1)

/-- The letters of switches, the last one of the table first. -/
def letters (on : List Switch) : Text :=
  (table.filterMap fun (switch, _, letter) => if on.elem switch then letter else none).reverse

/-- A line for each switch that says whether it is on: in words, or as the command that would make
it so. -/
def listing (on : List Switch) (inWords : Bool) : Text :=
  let start : Text := if inWords then "Current option settings\n" else []
  start ++ Text.unlines (table.map fun (switch, name, _) =>
    let name := name.toList
    let isOn := on.elem switch
    if inWords then name ++ List.replicate (16 - name.length) ' ' ++ (if isOn then "on" else "off")
    else "set " ++ (if isOn then "-o " else "+o ") ++ name)

/-- Switches with one of them turned on or off. -/
def turn (on : List Switch) (switch : Switch) (isOn : Bool) : List Switch :=
  if isOn then (if on.elem switch then on else switch :: on) else on.filter (· ≠ switch)

end Switch

/-- What arguments ask for. -/
structure Switching where
  on : List Switch
  /-- The switches that a listing shows as on. -/
  shown : List Switch
  /-- Letters that are no switches. -/
  others : Text
  /-- The listings that were wanted on the way. -/
  listings : Text
  rest : List Text
  /-- Whether a mark has ended the options. -/
  isMarked : Bool

namespace Switching

/-- A text that refuses arguments, with what was asked for before it. -/
structure Refusal where
  text : Text
  before : Switching

/-- Refuses arguments. -/
def refused {α : Type} (switching : Switching) (text : Text) : Except Refusal α :=
  .error ⟨text, switching⟩

/-- Turns a switch on or off. -/
def turn (switching : Switching) (isOn : Bool) (switch : Switch) : Switching :=
  { switching with
    on := Switch.turn switching.on switch isOn, shown := Switch.turn switching.shown switch isOn }

/-- Turns the switch of a name. -/
def turnName (switching : Switching) (isOn : Bool) (name : Text) : Except Refusal Switching :=
  match Switch.ofName? name with
  | some switch => .ok (switching.turn isOn switch)
  | none => switching.refused ("Illegal option -o " ++ name)

/-- Turns the switches of letters. One of the letters stands for the name of a switch, which is
taken from the arguments behind the letters; if there is none all switches are listed. -/
def turnLetters (known : Text) (isOn : Bool) :
    Text → List Text → Switching → Except Refusal (Switching × List Text)
  | [], arguments, switching => .ok (switching, arguments)
  | letter :: more, arguments, switching =>
    if known.elem letter then
      turnLetters known isOn more arguments
        { switching with others := switching.others ++ [letter] }
    else if letter = 'o' then
      match arguments with
      | name :: arguments =>
        (switching.turnName isOn name).bind (turnLetters known isOn more arguments)
      | [] => turnLetters known isOn more []
          { switching with listings := switching.listings ++ Switch.listing switching.shown isOn }
    else match Switch.ofLetter? letter with
      | some switch => turnLetters known isOn more arguments (switching.turn isOn switch)
      | none => switching.refused ("Illegal option -" ++ [letter])

/-- Reads the options at the start of at most `bound` arguments; letters that are `known` are no
switches. -/
def read (known : Text) : Nat → List Text → Switching → Except Refusal Switching
  | bound + 1, (sign :: letters) :: rest, switching =>
    if sign = '-' && letters.isEmpty then
      let isKept (switch : Switch) : Bool := switch ≠ .trace && switch ≠ .verbose
      .ok { switching with
        rest, isMarked := !rest.isEmpty
        on := if known.isEmpty then switching.on.filter isKept else switching.on }
    else if sign = '-' && letters = ['-'] then .ok { switching with rest, isMarked := true }
    else if sign = '-' || sign = '+' then do
      let (switching, rest) ← turnLetters known (sign = '-') letters rest switching
      read known bound rest switching
    else .ok { switching with rest := (sign :: letters) :: rest }
  | _, rest, switching => .ok { switching with rest }

end Switching

/-- What arguments ask for, given what is on before. -/
def Switching.ofArguments (on : List Switch) (arguments : List Text) : Except Refusal Switching :=
  read [] arguments.length arguments ⟨on, on, [], [], [], false⟩

/-- What the arguments of a shell that starts ask for; letters that are `known` are no switches. A
listing shows all as on that has not been turned off. -/
def Switching.atStart (known : Text) (arguments : List Text) : Except Refusal Switching :=
  read known arguments.length arguments ⟨[], Switch.table.map (·.1), [], [], [], false⟩

end Runbook.Shell
