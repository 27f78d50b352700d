import Runbook.Shell.Utility.Basic

/-!
# Programs that work on lines

`cut`, `uniq`, `rev` and `nl` deal with one line after another and write while they read; `tac` has
to see all lines of a file first.
-/

namespace Runbook.Shell.Utility

/-- Deals with all lines at once. -/
def allLines (job : Job) (change : List Text → Text) (operands : List Text) : Activity :=
  job.through ['-'] .collect (fun state => (state, []))
    (fun bytes status => .say (change (Filter.linesOf bytes)) (.finish status))
    (job.sources operands) 0 .empty

/-- `rev` turns each line round. -/
def rev : Utility := withOptions "" "" 1 fun job given =>
  job.eachLine (fun line => some line.reverse) given.operands

/-- The parts of a text between marks; `skipped` is how many characters of a mark are left, and
`part` is what has been read since, the last first. -/
def partsBetween (mark : Text) (skipped : Nat) (part : Text) : Text → List Text
  | [] => [part.reverse]
  | c :: rest =>
    match skipped with
    | n + 1 => partsBetween mark n part rest
    | 0 =>
      if !mark.isEmpty && mark.isPrefixOf (c :: rest) then
        part.reverse :: partsBetween mark (mark.length - 1) [] rest
      else partsBetween mark 0 (c :: part) rest

/-- A text with its parts from the last to the first, where each part goes with the mark behind it
or before it. -/
def turnedRound (mark : Text) (isBefore : Bool) (text : Text) : Text :=
  let parts := partsBetween mark 0 [] text
  let marked := if isBefore then parts.take 1 ++ (parts.drop 1).map (mark ++ ·)
    else parts.dropLast.map (· ++ mark) ++ parts.drop (parts.length - 1)
  marked.reverse.flatten

/-- The options of `tac`. -/
def turningSwitches : Switches where
  plain := "b"
  valued := "s"
  long := [("before", 'b'), ("separator", 's')]

/-- `tac` writes the lines of each file from the last to the first. -/
def tac : Utility := withSwitches turningSwitches 1 fun job given =>
  let mark := (given.value? 's').getD ['\n']
  if mark.isEmpty then job.complain "separator cannot be empty" (.finish 1)
  else turn job (turnedRound mark (given.has 'b')) (job.sources given.operands) 0
where
  /-- Turns sources round one after another. -/
  turn (job : Job) (change : Text → Text) :
      List (Text × Except SystemError Source) → Nat → Activity
    | [], status => .finish status
    | (operand, .ok source) :: rest, status =>
      let name : Text := if operand = "-" then "'standard input'" else shown operand
      .pump source [1] .collect .empty
        (fun _ reason => job.complain (name ++ ": read error: " ++ reason)
          (if reason = badDescriptor then job.complain ("-: " ++ reason) (turn job change rest 1)
          else turn job change rest 1))
        fun bytes => .say (change (ofBytes bytes)) (turn job change rest status)
    | (operand, .error error) :: rest, _ =>
      let reason := if error = .isDirectory then shown operand ++ ": read error: Invalid argument"
        else "failed to open " ++ quoted operand ++ " for reading: " ++ error.reason
      job.complain reason (turn job change rest 1)

/-! ## Parts of lines -/

/-- Positions from the first number to the second, counted from one; without a second one they go on
for ever. -/
structure Span where
  first : Nat
  last : Option Nat

/-- What a list of positions is about. -/
inductive Positions where
  | fields
  | bytes
  deriving DecidableEq

/-- The complaint about a position zero. -/
def Positions.fromOne : Positions → Text
  | .fields => "fields are numbered from 1"
  | .bytes => "byte/character positions are numbered from 1"

/-- Reads one item of a list of positions; what stands behind it belongs to what is wrong with it.
-/
def readSpan (positions : Positions) (item behind : Text) : Except Text Span := do
  let isOdd (c : Char) : Bool := !(c.isDigit || c == '-')
  let rest := item.dropWhile (!isOdd ·)
  let digits := item.take (item.length - rest.length)
  let number (digits : Text) : Except Text Nat :=
    if Text.numeralValue digits < UInt64.size - 1 then .ok (Text.numeralValue digits)
    else .error ((match positions with
      | .fields => "field number "
      | .bytes => "byte/character offset " : Text) ++ quoted digits ++ " is too large")
  let check (n : Nat) : Except Text Nat := if n = 0 then .error positions.fromOne else .ok n
  let span ← match Text.pieces '-' digits with
    | [n] => do
      if !rest.isEmpty then pure ⟨1, none⟩
      else
        let n ← check (← number n)
        pure ⟨n, some n⟩
    | [[], []] =>
      if rest.isEmpty then .error "invalid range with no endpoint: -" else pure ⟨1, none⟩
    | [[], b] => do pure ⟨1, some (← number b)⟩
    | [a, []] => do pure ⟨← check (← number a), none⟩
    | [a, b] => do
      let first ← check (← number a)
      let last ← number b
      if last < first && rest.isEmpty then .error "invalid decreasing range"
      pure ⟨first, some last⟩
    | _ => .error (match positions with
      | .fields => "invalid field range"
      | .bytes => "invalid byte or character range")
  if rest.isEmpty then return span
  else .error ((match positions with
    | .fields => "invalid field value "
    | .bytes => "invalid byte/character position " : Text) ++ quoted (rest ++ behind))

/-- Reads a list such as `1,3-5,7-`. -/
def readSpans (positions : Positions) (text : Text) : Except Text (List Span) :=
  readFrom (text.length + 1) text
where
  /-- Reads the items of a list, of which there are fewer than `bound`. -/
  readFrom : Nat → Text → Except Text (List Span)
    | 0, _ => .ok []
    | bound + 1, text => do
      let item := text.takeWhile fun c => c ≠ ',' && c ≠ ' ' && c ≠ '\t'
      let behind := text.drop item.length
      let span ← readSpan positions item behind
      match behind with
      | [] => return [span]
      | _ :: rest => return span :: (← readFrom bound rest)

/-- Whether a span starts before another one does or at the same position. -/
def Span.before (a b : Span) : Bool := a.first ≤ b.first

/-- Spans in order, those that overlap made one. -/
def joinSpans : List Span → List Span
  | a :: b :: rest =>
    match a.last with
    | none => [a]
    | some last =>
      if b.first ≤ last then
        joinSpans (⟨a.first, b.last.map (max last)⟩ :: rest)
      else a :: joinSpans (b :: rest)
  | spans => spans
termination_by spans => spans.length

/-- The spans between spans, from a position on. -/
def otherSpans (start : Nat) : List Span → List Span
  | [] => [⟨start, none⟩]
  | span :: rest =>
    let before : List Span := if start < span.first then [⟨start, some (span.first - 1)⟩] else []
    match span.last with
    | none => before
    | some last => before ++ otherSpans (last + 1) rest

/-- The members of a list that a span covers. -/
def Span.members {α : Type} (span : Span) (list : List α) : List α :=
  let rest := list.drop (span.first - 1)
  match span.last with
  | none => rest
  | some last => rest.take (last + 1 - span.first)

/-- `cut` keeps parts of lines. -/
structure Cut where
  spans : List Span
  /-- What stands between fields; there is none if bytes are meant. -/
  separator : Option Char
  /-- What is written between parts, if that is something else. -/
  joint : Option Text
  /-- Lines without a separator are left out. -/
  onlySeparated : Bool

/-- What is kept of a line. -/
def Cut.line (cut : Cut) (line : Text) : Option Text :=
  match cut.separator with
  | some separator =>
    if line.elem separator then
      let fields := Text.pieces separator line
      some (List.intercalate (cut.joint.getD [separator]) (cut.spans.flatMap (·.members fields)))
    else if cut.onlySeparated then none else some line
  | none =>
    let parts := (cut.spans.map (·.members line)).filter (!·.isEmpty)
    some (List.intercalate (cut.joint.getD []) parts)

/-- The options of `cut`. -/
def cutSwitches : Switches where
  plain := "snzκ"
  valued := "dfcbω"
  long := [("bytes", 'b'), ("characters", 'c'), ("fields", 'f'), ("delimiter", 'd'),
    ("only-delimited", 's'), ("output-delimiter", 'ω'), ("complement", 'κ'),
    ("zero-terminated", 'z')]

/-- The list of parts that the options of `cut` give, with its letter; `found` is the one before
them. -/
def partsGiven (found : Option (Char × Text)) : List (Char × Text) → Except Text (Char × Text)
  | [] => match found with
    | none => .error "you must specify a list of bytes, characters, or fields"
    | some list => .ok list
  | ('d', _ :: _ :: _) :: _ => .error "the delimiter must be a single character"
  | (letter, text) :: rest =>
    if !("bcf" : Text).elem letter then partsGiven found rest
    else if found.isSome then .error "only one list may be specified"
    else partsGiven (some (letter, text)) rest

/-- What the options of `cut` ask for. -/
def readCut (given : Given) : Except Text Cut := do
  let (letter, list) ← partsGiven none given.options
  let byFields := letter = 'f'
  let separator := (given.value? 'd').map (·.headD Text.null)
  if separator.isSome && !byFields then
    .error "an input delimiter may be specified only when operating on fields"
  else if given.has 's' && !byFields then
    .error "suppressing non-delimited lines makes sense\n\tonly when operating on fields"
  else
    let spans ← readSpans (if byFields then .fields else .bytes) list
    let spans := joinSpans (spans.mergeSort Span.before)
    let spans := if given.has 'κ' then otherSpans 1 spans else spans
    return ⟨spans, if byFields then some (separator.getD '\t') else none, given.value? 'ω',
      given.has 's'⟩

/-- `cut` keeps parts of lines. -/
def cut : Utility := withSwitches cutSwitches 1 fun job given =>
  match readCut given with
  | .error text => job.misused 1 text
  | .ok cut => job.eachLine cut.line given.operands

/-! ## Repeated lines -/

/-- How lines are compared with those before them. -/
structure Likeness where
  fields : Nat
  skipped : Nat
  most : Option Nat
  ignoreCase : Bool

/-- What is left of a line after some fields, each of which may start with blanks. -/
def dropFields : Nat → Text → Text
  | 0, line => line
  | n + 1, line =>
    let isBlank (c : Char) : Bool := c == ' ' || c == '\t'
    dropFields n ((line.dropWhile isBlank).dropWhile (!isBlank ·))

/-- The part of a line that is compared. -/
def Likeness.part (likeness : Likeness) (line : Text) : Text :=
  let rest := (dropFields likeness.fields line).drop likeness.skipped
  let rest := match likeness.most with
    | some n => rest.take n
    | none => rest
  if likeness.ignoreCase then rest.map Char.toUpper else rest

/-- Runs of lines that are alike. -/
def Likeness.runs (likeness : Likeness) (lines : List Text) : List (List Text) :=
  lines.foldr (fun line runs => match runs with
    | (next :: run) :: rest =>
      if likeness.part line == likeness.part next then (line :: next :: run) :: rest
      else [line] :: (next :: run) :: rest
    | runs => [line] :: runs) []

/-- The options of `uniq`. -/
def uniqSwitches : Switches where
  plain := "cdDuiz0123456789"
  valued := "fsw"
  optional := "αγ"
  long := [("count", 'c'), ("repeated", 'd'), ("all-repeated", 'α'), ("skip-fields", 'f'),
    ("group", 'γ'), ("ignore-case", 'i'), ("skip-chars", 's'), ("unique", 'u'),
    ("zero-terminated", 'z'), ("check-chars", 'w')]

/-- The line that `uniq` writes for a run, if it writes one. -/
def runLine (given : Given) (run : List Text) : Option Text :=
  let n := run.length
  if (given.has 'd' && n = 1) || (given.has 'u' && 1 < n) then none
  else if given.has 'c' then
    let digits := Text.ofNat n
    some (List.replicate (7 - digits.length) ' ' ++ digits ++ ' ' :: run.headD [])
  else run.head?

/-- What `uniq` writes for all runs. -/
def writeRuns (given : Given) (runs : List (List Text)) : Text :=
  let separated (way : Text) (runs : List (List Text)) : Text :=
    let blocks := runs.map Text.unlines
    if way = "prepend" then blocks.flatMap ('\n' :: ·)
    else if way = "append" then blocks.flatMap (· ++ ['\n'])
    else if way = "both" then '\n' :: blocks.flatMap (· ++ ['\n'])
    else if way = "none" then blocks.flatten
    else List.intercalate ['\n'] blocks
  match given.lastOf? "γαD" with
  | some 'γ' => separated ((given.value? 'γ').getD []) runs
  | some letter =>
    let way : Text := if letter = 'D' || given.value? 'α' = some [] then "none"
      else (given.value? 'α').getD []
    separated way (if given.has 'u' then [] else runs.filter (1 < ·.length))
  | none => Text.unlines (runs.filterMap (runLine given))

/-- `uniq` keeps one of equal lines that follow one another. -/
def uniq : Utility := withSwitches uniqSwitches 1 fun job given =>
  let number (letter : Char) (what : Text) : Except Text (Option Nat) :=
    match given.value? letter with
    | none => .ok none
    | some text => match natural? text with
      | some n => .ok (some n)
      | none => .error (text ++ ": invalid number of " ++ what)
  let likeness : Except Text Likeness := do
    let fields ← number 'f' "fields to skip"
    let skipped ← number 's' "bytes to skip"
    let most ← number 'w' "bytes to compare"
    let digits := (given.options.map (·.1)).filter Char.isDigit
    let fields := fields.getD (Text.numeralValue digits)
    return ⟨fields, skipped.getD 0, most, given.has 'i'⟩
  match likeness, given.operands with
  | .error text, _ => (job.complain text (.finish 1))
  | .ok _, _ :: _ :: extra :: _ => job.misused 1 ("extra operand " ++ quoted extra)
  | .ok likeness, operands =>
    if given.has 'c' && (given.has 'D' || given.has 'α') then
      job.misused 1 "printing all duplicated lines and repeat counts is meaningless"
    else if given.has 'γ' && (given.lastOf? "cdDuα").isSome then
      job.misused 1 "--group is mutually exclusive with -c/-d/-D/-u"
    else
      let failed (operand reason : Text) : Activity :=
        if reason = SystemError.isDirectory.reason || reason = badDescriptor then
          job.complain ("error reading " ++ named operand ++ ": " ++ reason) (.finish 1)
        else job.complain (shown operand ++ ": " ++ reason) (.finish 1)
      let write (found : List (Text × ByteArray)) : Activity :=
        let lines := found.flatMap fun (_, bytes) => Filter.linesOf bytes
        let bytes := toBytes (writeRuns given (likeness.runs lines))
        match operands with
        | [_, output] => .create output false fun
          | .ok descriptor => .write descriptor bytes (.finish 0)
          | .error error => job.complain (shown output ++ ": " ++ error.reason) (.finish 1)
        | _ => Activity.writeAll [1] bytes (.finish 0)
      gather failed write (job.sources (operands.take 1)) []

end Runbook.Shell.Utility
