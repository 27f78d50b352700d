import Runbook.Shell.Pattern

/-!
# Fields

What a word turns into is a list of `Span`s: its characters, of which some have come out of values.
`fields` splits them at the separators in those values. A separator that is blank belongs together
with other blanks next to it, and counts for nothing at the start; every other separator ends a
field of its own. Where all arguments are asked for, a null character stands between two of them,
and separates like a blank outside quotes.

A limit on the number of fields leaves the rest of the characters to the last one, as for the
variables that a line is read into.
-/

namespace Runbook.Shell

/-- A part of a word that has been worked out. -/
inductive Cell where
  /-- A character, and whether it is guarded from matching. -/
  | char (c : Char) (guarded : Bool)
  /-- Quotes, which make a field even if nothing is between them. -/
  | quotes

/-- Which separators count in a span. -/
inductive Region where
  /-- None: the characters have not come out of a value. -/
  | fixed
  | split
  /-- Only the null characters between arguments. -/
  | arguments
  deriving DecidableEq

/-- Characters that have come out of one place. -/
structure Span where
  cells : List Cell
  region : Region

/-- The characters of spans. -/
def guardedChars (spans : List Span) : List Guarded :=
  spans.flatMap fun span => span.cells.filterMap fun
    | .char c guarded => some (c, guarded)
    | .quotes => none

/-- The text of spans. -/
def spanText (spans : List Span) : Text := (guardedChars spans).map (·.1)

/-- Fields that have been split off so far. -/
structure Splitting where
  /-- The finished fields, last first. -/
  fields : List (List Cell)
  /-- The field under way, last cell first. -/
  current : List Cell
  /-- Whether the last field ended at a blank, so that another separator may still belong to its
  end. -/
  afterBlank : Bool
  /-- How many more fields may be begun, if there is a limit. -/
  left : Option Nat
  /-- How much of the last field is kept, if separators at its end are dropped. -/
  kept : Option Nat
  /-- What the last span was. -/
  region : Region

namespace Splitting

/-- Nothing split off yet. -/
def start (limit : Option Nat) : Splitting := ⟨[], [], false, limit, none, .fixed⟩

/-- Adds a cell to the field under way. -/
def push (splitting : Splitting) (cell : Cell) : Splitting :=
  { splitting with current := cell :: splitting.current }

/-- Takes a cell of the last field. -/
def takeLast (splitting : Splitting) (cell : Cell) (isSeparator isBlank : Bool) : Splitting :=
  let kept := if isBlank then splitting.kept.or (some splitting.current.length)
    else if isSeparator && splitting.afterBlank then splitting.kept
    else none
  { splitting with kept, afterBlank := isBlank && splitting.afterBlank }.push cell

/-- Ends the field under way at a separator, unless it is the last one. -/
def separate (splitting : Splitting) (cell : Cell) : Splitting :=
  match splitting.left with
  | some 1 => { splitting with left := some 0, kept := some splitting.current.length }.push cell
  | left => { splitting with
      left := left.map (· - 1)
      fields := splitting.current.reverse :: splitting.fields
      current := [] }

/-- Takes a cell, given whether it is a separator and whether it is a blank one. Blanks do not join
separators if `apart`. -/
def take (apart : Bool) (splitting : Splitting) (cell : Cell) (isSeparator isBlank : Bool) :
    Splitting :=
  if splitting.left = some 0 then splitting.takeLast cell isSeparator isBlank
  else if splitting.afterBlank then
    let splitting := { splitting with current := [], afterBlank := isBlank }
    if isSeparator then splitting else splitting.push cell
  else if !isSeparator then splitting.push cell
  else
    let joins := isBlank && !apart
    if joins && splitting.current.isEmpty then splitting
    else { splitting with afterBlank := joins }.separate cell

/-- Takes a span. -/
def takeSpan (separators : Text) (splitting : Splitting) (span : Span) : Splitting :=
  if span.region = .fixed then span.cells.foldl push splitting
  else
    let isSeparator (c : Char) : Bool :=
      c = Text.null || (span.region = .split && separators.elem c)
    let isBlank (c : Char) : Bool :=
      isSeparator c && (c = Text.null || c = ' ' || c = '\t' || c = '\n')
    let apart := splitting.region = .arguments || span.region = .arguments
    span.cells.foldl (fun splitting cell => match cell with
        | .char c _ => splitting.take apart cell (isSeparator c) (isBlank c)
        | .quotes => splitting.take apart cell false false)
      { splitting with afterBlank := false, region := span.region }

/-- The fields once everything has been taken. -/
def finish (splitting : Splitting) : List (List Cell) :=
  let cells := splitting.current.reverse
  let last :=
    if splitting.region = .arguments then [cells]
    else
      let cells := match splitting.kept with
        | some count => cells.take count
        | none => cells
      if cells.isEmpty then [] else [cells]
  splitting.fields.reverse ++ last

end Splitting

/-- Splits spans into fields, of which there are at most as many as the limit. -/
def fields (separators : Text) (limit : Option Nat) (spans : List Span) : List (List Guarded) :=
  let cells := (spans.foldl (Splitting.takeSpan separators) (.start limit)).finish
  cells.map fun field => guardedChars [⟨field, .fixed⟩]

end Runbook.Shell
