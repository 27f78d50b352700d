import Runbook.Shell.Format
import Runbook.Shell.Pattern
import Runbook.Shell.Utility.Basic

/-!
# Programs that pass bytes on

`cat`, `head`, `tail` and `wc` read their operands or the standard input; `seq`, `yes`, `echo`
and `printf` make up what they write. Those that can do so write while they read, so that they work
in the middle of a pipeline whose start never ends.
-/

namespace Runbook.Shell.Utility

/-! ## Files one after another -/

/-- How `cat` shows what it reads. -/
structure Display where
  /-- Whether all lines are numbered, or only those that are not empty. -/
  numbers : Option Bool
  /-- Whether empty lines behind an empty line are left out. -/
  isSqueezed : Bool
  /-- Whether the ends of lines are marked. -/
  showsEnds : Bool
  showsTabs : Bool
  showsControls : Bool

/-- What `cat` remembers. -/
structure Displayed where
  /-- How many lines have been numbered. -/
  count : Nat
  isLineStart : Bool
  /-- Whether the last whole line was empty. -/
  afterEmpty : Bool
  /-- Whether a carriage return is still to be shown, in one way or another. -/
  owesReturn : Bool

/-- A character that is not part of a line end, as it is shown. -/
def Display.sign (display : Display) (c : Char) : Text :=
  let low (n : Nat) : Text :=
    if n < 32 then ['^', Char.ofNat (n + 64)] else if n = 127 then "^?" else [Char.ofNat n]
  if c = '\t' then (if display.showsTabs then "^I" else ['\t'])
  else if !display.showsControls then [c]
  else if c.toNat < 128 then low c.toNat
  else "M-" ++ low (c.toNat - 128)

/-- What is shown before a character at the start of a line. -/
def Display.number (display : Display) (c : Char) (state : Displayed) : Text × Displayed :=
  match display.numbers with
  | some all =>
    if state.isLineStart && (all || c ≠ '\n') then
      let count := state.count + 1
      (padded 6 (Text.ofNat count) ++ ['\t'], { state with count })
    else ([], state)
  | none => ([], state)
where
  /-- A text with spaces before it up to a width. -/
  padded (width : Nat) (text : Text) : Text := List.replicate (width - text.length) ' ' ++ text

/-- Shows a character. -/
def Display.show (display : Display) (state : Displayed) (c : Char) : Displayed × Text :=
  if c = '\n' then
    if state.isLineStart && state.afterEmpty && display.isSqueezed then (state, [])
    else
      let (number, state) := display.number c state
      let ending : Text := if !display.showsEnds then [] else
        (if state.owesReturn then ['^', 'M'] else []) ++ ['$']
      ({ state with isLineStart := true, afterEmpty := state.isLineStart, owesReturn := false },
        number ++ ending ++ ['\n'])
  else
    let owed : Text := if state.owesReturn then ['\r'] else []
    let (number, state) := display.number c state
    let isOwed := c = '\r' && display.showsEnds && !display.showsControls
    ({ state with isLineStart := false, owesReturn := isOwed },
      owed ++ number ++ if isOwed then [] else display.sign c)

/-- Shows bytes. -/
def Display.filter (display : Display) : Filter Displayed := fun state chunk =>
  let (state, shown) := (ofBytes chunk).foldl (fun (state, shown) c =>
    let (state, text) := display.show state c
    (state, text.foldl .push shown)) (state, #[])
  ⟨state, toBytes shown.toList, true, 0⟩

/-- What is owed at the end of a file. -/
def Displayed.flush (state : Displayed) : Displayed × Text :=
  ({ state with owesReturn := false }, if state.owesReturn then ['\r'] else [])

/-- The options of `cat`. -/
def catSwitches : Switches where
  plain := "benstuvAET"
  long := [("show-all", 'A'), ("number-nonblank", 'b'), ("show-ends", 'E'), ("number", 'n'),
    ("squeeze-blank", 's'), ("show-tabs", 'T'), ("show-nonprinting", 'v')]

/-- Whether an operand is the file that is also written, and would be read from a place before
`written`. -/
def readsOutput (job : Job) (written : Nat) (operand : Text) : Bool :=
  let place? : Option (Nat × Nat) :=
    if operand = "-" then job.input
    else ((job.visible.resolve job.dir operand).toOption.bind job.visible.number?).map (·, 0)
  match place?, job.output with
  | some (number, place), some (output, _) => number = output && place < written
  | _, _ => false

/-- The sources of `cat`, given how far the output has been written. One that would read what is
written there is left out. -/
def catSources (job : Job) :
    Nat → List (Text × Except SystemError Source) → List (Text × Except SystemError Source)
  | _, [] => []
  | written, (operand, source) :: rest =>
    if readsOutput job written operand then
      (operand, .error .isOutput) :: catSources job written rest
    else
      let size := match source with
        | .ok (.content bytes) => bytes.size
        | _ => 0
      (operand, source) :: catSources job (written + size) rest

/-- `cat` passes on what it reads. -/
def cat : Utility := withSwitches catSwitches 1 fun job given =>
  let hasOne (letters : Text) : Bool := letters.any given.has
  let display : Display := {
    numbers := if given.has 'b' then some false else if given.has 'n' then some true else none
    isSqueezed := given.has 's'
    showsEnds := hasOne "AeE"
    showsTabs := hasOne "AtT"
    showsControls := hasOne "Aetv" }
  let sources := catSources job ((job.output.map (·.2)).getD 0) (job.sources given.operands)
  let closing := "closing standard input"
  if !job.hasOutput then job.complain ("standard output: " ++ badDescriptor) (.finish 1)
  else if hasOne "AbeEnstTv" then
    job.through closing display.filter (·.flush) (fun _ => .finish) sources 0
      ⟨0, true, false, false⟩
  else job.through closing .copy (fun _ => ((), [])) (fun _ => .finish) sources 0 ()

/-- `tee` passes on what it reads, and keeps it in files too. -/
def tee : Utility := withOptions "ai" "" 1 fun job given =>
  let pass (targets : List Nat) (status : Nat) : Activity :=
    .pump (.descriptor 0) targets .copy ()
      (fun _ reason =>
        let failed : Activity := .finish 1
        job.complain ("read error: " ++ reason) (if reason = badDescriptor then
          job.complain ("standard input: " ++ reason) failed else failed))
      fun _ => .finish status
  let opened := given.operands.foldr (fun name next targets status =>
    Activity.create name (given.has 'a') fun
      | .ok descriptor => next (targets ++ [descriptor]) status
      | .error error => job.complain (name ++ ": " ++ error.reason) (next targets 1)) pass
  (opened [1] 0)

/-! ## Starts and ends -/

/-- The arguments of `head`, where the first one may be a number with a hyphen before it and letters
behind it; the letter that may not stand there if one does. -/
def spellStart : List Text → Except Char (List Text)
  | ('-' :: c :: more) :: rest =>
    let digits := (c :: more).takeWhile Char.isDigit
    let letters := (c :: more).drop digits.length
    if digits.isEmpty then .ok (('-' :: c :: more) :: rest)
    else match letters.find? (!("cbkmlqvz" : Text).elem ·) with
      | some letter => .error letter
      | none =>
        let lastOf (among : Text) : Option Char := (letters.filter among.elem).getLast?
        let unit := ((lastOf "cbkm").filter (· ≠ 'c')).toList
        let extent : Text := if ((lastOf "cbkml").getD 'l') = 'l' then "-n" else "-c"
        .ok (extent :: (digits ++ unit) ::
          (letters.filter ("qvz" : Text).elem).map (['-', ·]) ++ rest)
  | arguments => .ok arguments

/-- The arguments of `tail`, where the first one of few may be a number with a sign before it and
letters behind it. -/
def spellEnd (arguments : List Text) : List Text :=
  let isFew (rest : List Text) : Bool := match rest with
    | [] => true
    | [operand] => operand.head? ≠ some '-' || operand.length ≤ 1 || operand = "--"
    | rest => rest.head? = some "--" && rest.length = 2
  match arguments with
  | (sign :: text) :: rest =>
    let digits := text.takeWhile Char.isDigit
    let (unit, behind) := match text.drop digits.length with
      | c :: behind =>
        if c = 'b' || c = 'c' || c = 'l' then (some c, behind) else (none, c :: behind)
      | [] => (none, [])
    let isSign := sign = '+' || sign = '-' && !text.isEmpty && text ≠ "c"
    if isSign && isFew rest && (behind.isEmpty || behind = "f") then
      let digits := if digits.isEmpty then ['1', '0'] else digits
      let amount := digits ++ (unit.filter (· = 'b')).toList
      let extent : Text := if unit = some 'b' || unit = some 'c' then "-c" else "-n"
      extent :: ((if sign = '+' then ['+'] else []) ++ amount) ::
        (if behind.isEmpty then rest else "-f" :: rest)
    else arguments
  | arguments => arguments

/-- How much of its input a program shows. -/
structure Extent where
  /-- By bytes and not by lines. -/
  bytes : Bool
  /-- A sign before the number. -/
  sign : Option Char
  amount : Nat

/-- The extent that the last of several options asks for, all of which must make sense; ten lines by
default. -/
def extent? (given : Given) : Except Text Extent :=
  let read (bytes : Bool) (what text : Text) : Except Text Extent :=
    let (sign, digits) := match trimStart text with
      | '-' :: rest => (some '-', rest)
      | '+' :: rest => (some '+', rest)
      | rest => (none, rest)
    let shown := if sign = some '-' then digits else text
    match amount? digits with
    | some amount =>
      if amount < Nat.pow 2 64 then .ok ⟨bytes, sign, amount⟩
      else .error ("invalid number of " ++ what ++ ": " ++ quoted shown ++
        ": Value too large for defined data type")
    | none => .error ("invalid number of " ++ what ++ ": " ++ quoted shown)
  let asked := given.options.filter fun (letter, _) => letter = 'c' || letter = 'n'
  asked.foldlM (fun _ (letter, text) =>
    if letter = 'c' then read true "bytes" text else read false "lines" text) ⟨false, none, 10⟩

/-- The options of `head`. -/
def headSwitches : Switches where
  plain := "qvz"
  valued := "nc"
  long := [("lines", 'n'), ("bytes", 'c'), ("quiet", 'q'), ("silent", 'q'), ("verbose", 'v'),
    ("zero-terminated", 'z')]
  foreign c := if c.isDigit then "invalid trailing option -- " ++ [c]
    else "invalid option -- '" ++ [c] ++ "'"

/-- The options of `tail`. -/
def tailSwitches : Switches where
  plain := 'f' :: 'F' :: headSwitches.plain
  valued := 's' :: headSwitches.valued
  long := ("follow", 'f') :: ("sleep-interval", 's') :: headSwitches.long

/-- A digit among options, where it means nothing, unless something else is wrong before it. -/
def strayDigit? (switches : Switches) (arguments : List Text) : Option Char :=
  let marked := { switches with foreign := fun c => [c] }
  match marked.read arguments with
  | .error [c] => if c.isDigit then some c else none
  | _ => none

/-- Shows each source by itself, under a title if there are several: passes it through a filter, and
then writes what `close` makes of what the filter remembers. `unseen` is said of the standard input
if there is none. What comes at the end is told the status. -/
def showEach {σ : Type} (job : Job) (unseen : Text) (filter : Filter σ) (initial : σ)
    (close : σ → ByteArray) (titled : Bool) (atEnd : Nat → Activity) :
    Bool → List (Text × Except SystemError Source) → Nat → Activity
  | _, [], status => atEnd status
  | first, (operand, .ok source) :: rest, status =>
    let name : Text := if operand = "-" then "standard input" else operand
    let title : Text := (if first then [] else ['\n']) ++ "==> " ++ name ++ " <==\n"
    let go := showEach job unseen filter initial close titled atEnd false rest
    .say (if titled then title else []) <| .pump source [1] filter initial
      (fun _ reason =>
        if reason = badDescriptor then
          job.complain (unseen ++ named name ++ ": " ++ reason)
            (job.complain ("-: " ++ reason) (go 1))
        else job.complain ("error reading " ++ named name ++ ": " ++ reason) (go 1))
      fun state => Activity.writeAll [1] (close state) (go status)
  | first, (operand, .error error) :: rest, _ =>
    let title : Text := (if first then [] else ['\n']) ++ "==> " ++ operand ++ " <==\n"
    match error with
    | .isDirectory =>
      .say (if titled then title else []) <|
        job.complain ("error reading " ++ named operand ++ ": " ++ error.reason)
          (showEach job unseen filter initial close titled atEnd false rest 1)
    | _ =>
      job.complain ("cannot open " ++ named operand ++ " for reading: " ++ error.reason)
        (showEach job unseen filter initial close titled atEnd first rest 1)

/-- Shows some of each operand. A program that follows its operands never ends. -/
def showOperands {σ : Type} (job : Job) (given : Given) (unseen : Text) (filter : Filter σ)
    (initial : σ) (close : σ → ByteArray) : Activity :=
  let titled := match given.lastOf? "qv" with
    | some letter => letter = 'v'
    | none => given.operands.length > 1
  let follows := (given.has 'f' || given.has 'F') && !given.operands.isEmpty
  let sources := job.sources given.operands
  let atEnd (status : Nat) : Activity :=
    if !follows then .finish status
    else if sources.any (·.2.isOk) then .pause none (fun _ => .finish status)
    else job.complain "no files remaining" (.finish 1)
  showEach job unseen filter initial close titled atEnd true sources 0

/-- The position where the last `wanted` lines start, looking back from position `i`. -/
def lastLinesStart (bytes : ByteArray) : Nat → Nat → Nat
  | 0, _ => 0
  | i + 1, wanted =>
    if bytes[i]? = some 10 && i + 1 ≠ bytes.size then
      if wanted ≤ 1 then i + 1 else lastLinesStart bytes i (wanted - 1)
    else lastLinesStart bytes i wanted

/-- The position where the last `wanted` lines start. -/
def lastLines (bytes : ByteArray) (wanted : Nat) : Nat :=
  if wanted = 0 then bytes.size else lastLinesStart bytes bytes.size wanted

/-- `head` shows the start of its input, or all but its end. -/
def head : Utility := fun job =>
  let run : Utility := withSwitches headSwitches 1 fun job given =>
    match extent? given with
    | .error text => job.complain text (.finish 1)
    | .ok extent =>
      if extent.sign = some '-' then
        showOperands job given "cannot fstat " .collect .empty fun bytes =>
          bytes.extract 0 (if extent.bytes then bytes.size - extent.amount
            else lastLines bytes extent.amount)
      else if extent.amount = 0 then .finish 0
      else showOperands job given "error reading "
        (if extent.bytes then .firstBytes extent.amount else .firstLines extent.amount) 0
        fun _ => .empty
  match spellStart job.arguments with
  | .ok arguments => run { job with arguments }
  | .error letter => job.misused 1 ("invalid trailing option -- " ++ [letter])

/-- `tail` shows the end of its input, or all from a place on. -/
def tail : Utility := fun job =>
  let arguments := spellEnd job.arguments
  let run : Utility := withSwitches tailSwitches 1 fun job given =>
    match extent? given with
    | .error text => (job.complain text (.finish 1))
    | .ok extent => showOperands job given "cannot fstat " .collect .empty fun bytes =>
      let start :=
        if extent.sign = some '+' then
          if extent.bytes then extent.amount - 1
          else (Filter.lineEndFrom bytes (bytes.size + 1) 0 (extent.amount - 1)).1
        else if extent.bytes then bytes.size - extent.amount
        else lastLines bytes extent.amount
      bytes.extract start bytes.size
  match strayDigit? tailSwitches arguments with
  | some digit =>
    (job.complain ("option used in invalid context -- " ++ [digit]) (.finish 1))
  | none => run { job with arguments }

/-! ## Counting -/

/-- Whether a byte is a blank. -/
def isBlankByte (b : UInt8) : Bool := b == 32 || (9 ≤ b && b ≤ 13)

/-- What has been counted. -/
structure Counts where
  lines : Nat
  words : Nat
  characters : Nat
  bytes : Nat
  inWord : Bool

/-- The counts with one more byte. -/
def Counts.add (counts : Counts) (b : UInt8) : Counts := {
  lines := if b = 10 then counts.lines + 1 else counts.lines
  words := if !isBlankByte b && !counts.inWord then counts.words + 1 else counts.words
  characters := if 128 ≤ b && b < 192 then counts.characters else counts.characters + 1
  bytes := counts.bytes + 1
  inWord := !isBlankByte b }

/-- Nothing counted yet. -/
def Counts.zero : Counts := ⟨0, 0, 0, 0, false⟩

/-- Counts everything and passes nothing on. -/
def counting : Filter Counts := fun counts chunk =>
  ⟨chunk.foldl Counts.add counts, .empty, true, 0⟩

/-- The counts that options ask for. -/
def Counts.wanted (given : Given) (counts : Counts) : List Nat :=
  let all := given.options.isEmpty
  (if all || given.has 'l' then [counts.lines] else []) ++
    (if all || given.has 'w' then [counts.words] else []) ++
    (if given.has 'm' then [counts.characters] else []) ++
    (if all || given.has 'c' then [counts.bytes] else [])

/-- A line of counts. -/
def countLine (given : Given) (width : Nat) (counts : Counts) (name : Text) : Text :=
  let columns := (counts.wanted given).map fun n =>
    let digits := Text.ofNat n
    List.replicate (width - digits.length) ' ' ++ digits
  List.intercalate [' '] columns ++ (if name.isEmpty then [] else ' ' :: name) ++ ['\n']

/-- Counts each source, and all together at the end if there are several. -/
def countEach (job : Job) (given : Given) (width : Nat) :
    Counts → List (Text × Except SystemError Source) → Nat → Activity
  | total, [], status =>
    .say (if given.operands.length > 1 then countLine given width total "total" else [])
      (.finish status)
  | total, (operand, .ok source) :: rest, status =>
    let failed (_ : Counts) (reason : Text) : Activity :=
      let name : Text := if operand = "-" then "standard input" else operand
      job.complain (named name ++ ": " ++ reason)
        (.say (countLine given width .zero (if given.operands.isEmpty then [] else operand))
          (if reason = badDescriptor then
            job.complain ("-: " ++ reason) (countEach job given width total rest 1)
          else countEach job given width total rest 1))
    .pump source [1] counting .zero failed fun counts =>
      let sum : Counts := ⟨total.lines + counts.lines, total.words + counts.words,
        total.characters + counts.characters, total.bytes + counts.bytes, false⟩
      let name := if given.operands.isEmpty then [] else operand
      .say (countLine given width counts name) (countEach job given width sum rest status)
  | total, (operand, .error error) :: rest, _ =>
    job.complain (shown operand ++ ": " ++ error.reason) (countEach job given width total rest 1)

/-- `wc` counts lines, words and bytes. -/
def wc : Utility := withOptions "lwcm" "" 1 fun job given =>
  let sources := job.sources given.operands
  let size : Option Nat := sources.foldl (fun sum (_, source) => match source, sum with
    | .ok (.content bytes), some n => some (n + bytes.size)
    | .error _, some n => some n
    | _, _ => none) (some 0)
  let single := (Counts.zero.wanted given).length = 1 && sources.length = 1
  let width := if single then 1 else match size with
    | some n => (Text.ofNat n).length
    | none => 7
  (countEach job given width .zero sources 0)

/-! ## Making up output -/

/-- `yes` repeats a line for ever. -/
def yes : Utility := fun job =>
  let line : Text :=
    if job.arguments.isEmpty then "y" else List.intercalate [' '] job.arguments
  let lines := toBytes (List.replicate (4096 / (line.length + 1) + 1) (line ++ ['\n'])).flatten
  (.produce (fun _ => some lines) 0 (.finish 0))

/-- A number with a fixed count of decimal places, as a whole number of its last place. -/
def decimal? (places : Nat) (text : Text) : Option Int :=
  match Format.readDecimal text with
  | some (fraction, []) =>
    let n : Int := fraction.digits * Nat.pow 10 (places - fraction.places)
    some (if fraction.negative then -n else n)
  | _ => none

/-- The text of a number with a fixed count of decimal places. -/
def decimalText (places : Nat) (n : Int) : Text :=
  (if n < 0 then ['-'] else []) ++ (Format.Fraction.mk false n.natAbs places).write false places

/-- The numbers that are written at once. -/
def numbersAtOnce : Nat := 1024

/-- `seq` counts from one number to another. -/
def seq : Utility := fun job =>
  let isNumber (text : Text) : Bool := match text with
    | '-' :: c :: _ => c.isDigit || c = '.'
    | '-' :: _ => false
    | _ => true
  let options := job.arguments.takeWhile (!isNumber ·)
  let valued := options.getLast? = some "-s"
  let rest := job.arguments.drop options.length
  let (options, operands) :=
    if valued then (options ++ rest.take 1, rest.drop 1) else (options, rest)
  match ({ plain := "w", valued := "s" } : Switches).read options with
  | .error text => job.misused 1 text
  | .ok given =>
    let places := operands.foldl (fun n text =>
      max n (((Format.readDecimal text).map (·.1.places)).getD 0)) 0
    let wrong := operands.find? fun text => (decimal? places text).isNone
    match operands.map (decimal? places), wrong with
    | [], _ => job.misused 1 "missing operand"
    | _ :: _ :: _ :: _ :: _, _ =>
      job.misused 1 ("extra operand " ++ quoted ((operands[3]?).getD []))
    | _, some wrong => job.misused 1 ("invalid floating point argument: " ++ quoted wrong)
    | numbers, none =>
      let unit : Int := Nat.pow 10 places
      let (first, step, last) : Int × Int × Int := match numbers.map (·.getD 0) with
        | [first, last] => (first, unit, last)
        | [first, step, last] => (first, step, last)
        | numbers => (unit, unit, numbers.headD 0)
      if step = 0 then
        job.misused 1 ("invalid Zero increment value: " ++ quoted ((operands[1]?).getD []))
      else
        let count := (Int.fdiv (last - first) step + 1).toNat
        let number (i : Nat) : Text :=
          let text := decimalText places (first + step * i)
          if given.has 'w' then
            let width := max (decimalText places first).length (decimalText places last).length
            match text with
            | '-' :: digits => '-' :: List.replicate (width - text.length) '0' ++ digits
            | digits => List.replicate (width - text.length) '0' ++ digits
          else text
        let separator := (given.value? 's').getD ['\n']
        let chunk (i : Nat) : Option ByteArray :=
          let start := i * numbersAtOnce
          if start < count then
            some (toBytes ((List.range (min numbersAtOnce (count - start))).flatMap fun k =>
              number (start + k) ++ if start + k + 1 = count then ['\n'] else separator))
          else none
        (.produce chunk 0 (.finish 0))

/-- The program `echo`, which replaces escapes only if it is asked to. -/
def echo : Utility := fun job =>
  let isOption (text : Text) : Bool := match text with
    | '-' :: c :: more => (c :: more).all ("neE" : Text).elem
    | _ => false
  let letters := (job.arguments.takeWhile isOption).flatten
  let words := List.intercalate [' '] (job.arguments.dropWhile isOption)
  let (text, stopped) := if letters.elem 'e' then unescape words else (words, false)
  job.answers (if stopped || letters.elem 'n' then text else text ++ ['\n'])

/-- The program `printf`. -/
def printf : Utility := fun job =>
  match job.arguments with
  | [] => job.misused 1 "missing operand"
  | format :: arguments =>
    let printed := Format.print format arguments
    (.say printed.text (printed.complaints.foldr job.complain
      (.finish (if printed.complaints.isEmpty then 0 else 1))))

/-- `sleep` waits for the sum of its arguments. -/
def sleep : Utility := withOptions [] [] 1 fun job given =>
  if job.arguments.isEmpty then job.misused 1 "missing operand"
  else
    let wrong := given.operands.filter fun text => (span? text).isNone
    let complaints := wrong.map fun text => "invalid time interval " ++ quoted text
    if wrong.isEmpty then
      let spans := given.operands.map fun text => (span? text).getD none
      let total := spans.foldl (fun n span => n + span.getD 0) 0
      let total := if spans.any Option.isNone then none else some total
      (.pause total fun _ => .finish 0)
    else complaints.dropLast.foldr job.complain (job.misused 1 (complaints.getLastD []))

end Runbook.Shell.Utility
