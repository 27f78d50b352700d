import Runbook.Shell.Regex

/-!
# Scripts that edit lines

A `Script` is a list of commands, each for the lines that its `Selection` says. What a command does
is its `Action`. Blocks and labels are places in the list: a block says where to go on if its lines
are not selected, and a branch names a label.
-/

namespace Runbook.Shell.Editing

/-! ## Selections -/

/-- A place that a line may be at. -/
inductive Address where
  | line (n : Nat)
  /-- Every line from the first on with so many steps between any two. -/
  | every (first step : Nat)
  | last
  /-- A line in which something is found; without an expression the last one that was used counts.
  -/
  | matching (regex : Option Regex)

/-- Where a range of lines ends. -/
inductive Stop where
  | address (address : Address)
  /-- So many lines after the first one. -/
  | after (count : Nat)
  /-- The next line whose number is a multiple. -/
  | multiple (n : Nat)

/-- The lines that a command is for. -/
structure Selection where
  start : Option Address
  stop : Option Stop
  /-- The command is for all other lines. -/
  negated : Bool

/-! ## Actions -/

/-- What becomes of letters in a replacement. -/
inductive Casing where
  | same
  | upper
  | lower
  deriving DecidableEq

/-- A piece of a replacement: a text and then what a group has taken; `first` is what becomes of the
first letter of them. -/
structure Part where
  text : Text
  group : Option Nat
  casing : Casing
  first : Option Casing

/-- What is put in the place of matches. -/
structure Substitution where
  /-- Without an expression the last one that was used counts. -/
  regex : Option Regex
  replacement : List Part
  /-- The first match that is replaced, counted from one. -/
  number : Nat
  /-- All matches after that are replaced too. -/
  everywhere : Bool
  /-- The line is shown if something was replaced. -/
  shows : Bool
  /-- The line is run as a command if something was replaced. -/
  runs : Bool
  /-- The file that the line is written to if something was replaced. -/
  file : Option Text

/-- What a command does. -/
inductive Action where
  /-- Goes on at another place if the line is not selected. -/
  | block (stop : Nat)
  /-- Goes on behind a label, or at the end if there is none; perhaps only if something was replaced
  since the line was read, or only if nothing was. -/
  | branch (onReplaced : Option Bool) (label : Text)
  | append (text : Text)
  | insert (text : Text)
  | change (text : Text)
  | delete
  /-- Deletes the first of several lines, and starts over with the others. -/
  | deleteFirst
  /-- Runs a command, or the line itself if there is none. -/
  | run (command : Text)
  | showName
  | showNumber
  | take
  | takeMore
  | hold
  | holdMore
  | exchange
  /-- Shows the line unmistakably, with the given width. -/
  | list (width : Option Nat)
  | next
  | nextMore
  | print
  | printFirst
  | quit (status : Nat) (silently : Bool)
  | readFile (name : Text)
  | readLine (name : Text)
  | writeFile (name : Text)
  | writeFirst (name : Text)
  | substitute (substitution : Substitution)
  | translate (pairs : List (Char × Char))
  | clear

/-- Whether an action fetches a line. -/
def Action.needsLine : Action → Bool
  | .next | .nextMore => true
  | _ => false

/-- A command. -/
structure Command where
  selection : Selection
  action : Action

/-- A script, with the places of its labels and the files that it writes to. -/
structure Script where
  commands : Array Command
  labels : List (Text × Nat)
  outputs : List Text
  /-- Lines are not shown unless a command does so. -/
  isSilent : Bool
  /-- The number of parts that the script was given in as arguments. -/
  parts : Nat

/-! ## Replacements -/

/-- A text in a casing. -/
def Casing.apply (casing : Casing) (text : Text) : Text :=
  match casing with
  | .same => text
  | .upper => text.map Char.toUpper
  | .lower => text.map Char.toLower

/-- A text in a casing, its first letter in another one. -/
def cased (casing : Casing) (first : Option Casing) (text : Text) : Text :=
  match first, text with
  | some first, c :: rest => first.apply [c] ++ casing.apply rest
  | _, text => casing.apply text

/-- What a replacement stands for, given what the groups have taken and what is still to become of
the first letter. A group that has taken nothing leaves that to the next piece. -/
def filled (groups : List (Nat × Text)) : Option Casing → List Part → Text
  | _, [] => []
  | owed, part :: rest =>
    let first := part.first.orElse fun _ => owed
    let start := cased part.casing first part.text
    let first := if part.text.isEmpty then first else none
    match part.group with
    | none => start ++ filled groups none rest
    | some n =>
      let taken := (groups.lookup n).getD []
      if taken.isEmpty then
        start ++ filled groups (if part.first.isSome then first else none) rest
      else start ++ cased part.casing first taken ++ filled groups none rest

/-- What replacing has come to: the text so far, and whether something was replaced. -/
structure Replaced where
  text : Text
  hasMatch : Bool

/-- Replaces matches from a spot on, given how many there were before it and where the last one
ended; `bound` is more than how many characters are left. A match that takes nothing does not count
right behind another match. -/
def Substitution.replaceFrom (substitution : Substitution) (regex : Regex) :
    Nat → Nat → Option Nat → Spot → Replaced
  | 0, _, _, spot => ⟨spot.rest, false⟩
  | bound + 1, count, lastEnd, spot =>
    match regex.findFrom spot with
    | none => ⟨spot.rest, false⟩
    | some found =>
      let start := spot.offset + found.before.length
      let isVoid := found.text.isEmpty
      let skipped := isVoid && lastEnd = some start
      let isWanted := !skipped && substitution.number ≤ count + 1
      let written := if skipped then []
        else if isWanted then filled ((0, found.text) :: found.groups) none substitution.replacement
        else found.text
      let (passed, spot) := if isVoid then (found.spot.rest.take 1, found.spot.next)
        else ([], found.spot)
      let text := found.before ++ written ++ passed
      if isWanted && !substitution.everywhere then ⟨text ++ spot.rest, true⟩
      else if isVoid && found.spot.rest.isEmpty then ⟨text, isWanted⟩
      else
        let more := replaceFrom substitution regex bound (if skipped then count else count + 1)
          (some (start + found.text.length)) spot
        ⟨text ++ more.text, isWanted || more.hasMatch⟩

/-- A text with matches replaced. -/
def Substitution.replace (substitution : Substitution) (regex : Regex) (text : Text) : Replaced :=
  substitution.replaceFrom regex (text.length + 2) 0 none (.start text)

end Runbook.Shell.Editing
