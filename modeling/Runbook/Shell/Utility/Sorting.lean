import Runbook.Shell.Utility.Basic
import Runbook.Text.Version

/-!
# Putting lines in order

`sort` compares lines by keys. A `Key` says which part of a line it looks at and how it compares
such parts; the key of a line becomes a `Rank` once, and lines are compared by their ranks. Lines
whose ranks are equal are compared as texts in the end.
-/

namespace Runbook.Shell.Utility

namespace Sorting

/-! ## Keys -/

/-- How parts of lines are compared. -/
inductive Measure where
  | text
  | number
  /-- A number that may have an exponent. -/
  | anyNumber
  /-- A number with a unit. -/
  | size
  | month
  | version
  deriving DecidableEq

/-- A way of comparing parts of lines. -/
structure Manner where
  measures : List Measure
  reverse : Bool
  /-- Small letters count as capitals. -/
  foldCase : Bool
  /-- Only letters, digits and blanks count. -/
  dictionary : Bool
  /-- Only characters that can be printed count. -/
  printable : Bool
  /-- Blanks at the start of a key do not belong to it. -/
  skipsStart : Bool
  /-- Blanks at the start of the last field do not count for the end of a key. -/
  skipsEnd : Bool
  deriving DecidableEq

/-- The manner that nothing was said about. -/
def Manner.plain : Manner := ⟨[], false, false, false, false, false, false⟩

/-- The manner with a letter of the options taken into account; blanks are skipped at the start of a
key, at its end, or at both. -/
def Manner.with? (manner : Manner) (atStart atEnd : Bool) (letter : Char) : Option Manner :=
  let measured (measure : Measure) : Option Manner :=
    some { manner with measures := measure :: manner.measures.filter (· ≠ measure) }
  match letter with
  | 'n' => measured .number
  | 'g' => measured .anyNumber
  | 'h' => measured .size
  | 'M' => measured .month
  | 'V' => measured .version
  | 'R' => some manner
  | 'r' => some { manner with reverse := true }
  | 'f' => some { manner with foldCase := true }
  | 'd' => some { manner with dictionary := true }
  | 'i' => some { manner with printable := true }
  | 'b' => some { manner with
      skipsStart := manner.skipsStart || atStart, skipsEnd := manner.skipsEnd || atEnd }
  | _ => none

/-- The measure of a manner. -/
def Manner.measure (manner : Manner) : Measure := manner.measures.headD .text

/-- The letters of a manner that go against each other, if any do. -/
def Manner.conflict? (manner : Manner) : Option Text :=
  let ignores := manner.dictionary || manner.printable
  let count := manner.measures.length + if ignores && !manner.measures.elem .version then 1 else 0
  let letters : List (Char × Bool) := [('d', manner.dictionary), ('f', manner.foldCase),
    ('g', manner.measures.elem .anyNumber), ('h', manner.measures.elem .size),
    ('i', manner.printable && !manner.dictionary), ('M', manner.measures.elem .month),
    ('n', manner.measures.elem .number), ('V', manner.measures.elem .version)]
  if 1 < count then some ((letters.filter (·.2)).map (·.1)) else none

/-- A key: the part of a line from one field and character to another, and how it is compared.
Fields and characters are counted from zero. Without an end the key goes up to the end of the line,
and without a character in its end up to the end of the field. -/
structure Key where
  start : Option (Nat × Nat)
  stop : Option (Nat × Nat)
  manner : Manner

/-- Whether a character stands between fields. -/
def isBlank (c : Char) : Bool := c == ' ' || c == '\t' || c == '\n'

/-- What is left of a line after some fields. -/
def afterFields (separator : Option Char) : Nat → Text → Text
  | 0, line => line
  | n + 1, line => match separator with
    | some separator => afterFields (some separator) n ((line.dropWhile (· ≠ separator)).drop 1)
    | none => afterFields none n ((line.dropWhile isBlank).dropWhile (!isBlank ·))

/-- What is left of a line behind a key. -/
def Key.after (key : Key) (separator : Option Char) (line : Text) : Text :=
  match key.stop with
  | none => []
  | some (field, 0) => match separator with
    | some separator =>
      (afterFields (some separator) field line).dropWhile (· ≠ separator)
    | none => afterFields none (field + 1) line
  | some (field, n) =>
    let rest := afterFields separator field line
    (if key.manner.skipsEnd then rest.dropWhile isBlank else rest).drop n

/-- The part of a line that a key looks at. -/
def Key.part (key : Key) (separator : Option Char) (line : Text) : Text :=
  let rest := match key.start with
    | none => if key.manner.skipsStart then line.dropWhile isBlank else line
    | some (field, n) =>
      let rest := afterFields separator field line
      (if key.manner.skipsStart then rest.dropWhile isBlank else rest).drop n
  rest.take (rest.length - (key.after separator line).length)

/-! ## Ranks -/

/-- A decimal fraction: its digits as a number, and how many of them stand behind the point. -/
structure Fraction where
  digits : Int
  places : Nat

/-- Compares fractions. -/
def Fraction.compare (a b : Fraction) : Ordering :=
  Ord.compare (a.digits * Nat.pow 10 b.places) (b.digits * Nat.pow 10 a.places)

/-- The fraction at the start of a text, and what comes after it. -/
def readFraction (text : Text) : Fraction × Text :=
  let text := text.dropWhile isBlank
  let (negative, digits) := match text with
    | '-' :: rest => (true, rest)
    | rest => (false, rest)
  let whole := digits.takeWhile Char.isDigit
  let rest := digits.drop whole.length
  let (part, rest) := match rest with
    | '.' :: rest => (rest.takeWhile Char.isDigit, rest.dropWhile Char.isDigit)
    | rest => ([], rest)
  let n : Int := Text.numeralValue (whole ++ part)
  (⟨if negative then -n else n, part.length⟩, rest)

/-- What a part of a line comes to when it is compared. -/
inductive Rank where
  | text (text : Text)
  | fraction (fraction : Fraction)
  /-- A number of a kind: kinds come before one another by their numbers. -/
  | kind (kind : Int) (fraction : Fraction)
  | version (text : Text)

/-- Compares ranks of one measure. -/
def Rank.compare : Rank → Rank → Ordering
  | .text a, .text b => Ord.compare a b
  | .fraction a, .fraction b => a.compare b
  | .kind m a, .kind n b => match Ord.compare m n with
    | .eq => a.compare b
    | order => order
  | .version a, .version b => Text.compareVersions a b
  | _, _ => .eq

/-- The units of sizes from the smallest on. -/
def units : Text := "KMGTPEZYRQ"

/-- The kind of a number with a unit, by its sign and its unit. -/
def sizeRank (text : Text) : Rank :=
  let (fraction, rest) := readFraction text
  let power : Int := match rest with
    | c :: _ => if c = 'k' then 1 else ((units.findIdx? (· = c)).map (Int.ofNat · + 1)).getD 0
    | [] => 0
  if fraction.digits = 0 then .kind 0 ⟨0, 0⟩
  else .kind (if fraction.digits < 0 then -power - 1 else power + 1) fraction

/-- The rank of any number. What is none comes first, then what is undefined, then the numbers. -/
def anyNumberRank (text : Text) : Rank :=
  let text := text.dropWhile isWhite
  let bare := match text with
    | '+' :: rest => rest
    | rest => rest
  let (negative, unsigned) := match bare with
    | '-' :: rest => (true, rest)
    | rest => (false, rest)
  let small := unsigned.map Char.toLower
  if ("nan" : Text).isPrefixOf small then .kind 1 ⟨0, 0⟩
  else if ("inf" : Text).isPrefixOf small then .kind (if negative then 2 else 4) ⟨0, 0⟩
  else match small with
    | '0' :: 'x' :: rest =>
      let digits := rest.takeWhile fun c => c.isDigit || ('a' ≤ c && c ≤ 'f')
      let n : Int := Text.numeralValueIn 16 digits
      .kind 3 ⟨if negative then -n else n, 0⟩
    | _ =>
      let isNumber := match unsigned with
        | '.' :: c :: _ => c.isDigit
        | c :: _ => c.isDigit
        | [] => false
      if !isNumber then .kind 0 ⟨0, 0⟩
      else
        let (fraction, rest) := readFraction bare
        let (power, digits) : Bool × Text := match rest with
          | e :: '-' :: digits => (true, if e = 'e' || e = 'E' then digits else [])
          | e :: '+' :: digits => (false, if e = 'e' || e = 'E' then digits else [])
          | e :: digits => (false, if e = 'e' || e = 'E' then digits else [])
          | [] => (false, [])
        let n := min (Text.numeralValue (digits.takeWhile Char.isDigit)) 5000
        .kind 3 (if power then ⟨fraction.digits, fraction.places + n⟩
          else ⟨fraction.digits * Nat.pow 10 n, fraction.places⟩)

/-- The names of the months. -/
def months : List Text := [
  "JAN", "FEB", "MAR", "APR", "MAY", "JUN", "JUL", "AUG", "SEP", "OCT", "NOV", "DEC"]

/-- The rank of a key. -/
def Key.rank (key : Key) (separator : Option Char) (line : Text) : Rank :=
  let part := key.part separator line
  let manner := key.manner
  let counts (c : Char) : Bool :=
    (!manner.dictionary || c.isAlphanum || isBlank c) &&
      (!manner.printable || (' ' ≤ c && c ≤ '~'))
  let text := (part.filter counts).map fun c => if manner.foldCase then c.toUpper else c
  match manner.measure with
  | .text => .text text
  | .number => .fraction (readFraction text).1
  | .anyNumber => anyNumberRank text
  | .size => sizeRank text
  | .month =>
    let name := ((text.dropWhile isBlank).take 3).map Char.toUpper
    .fraction ⟨((months.findIdx? (· = name)).map (Int.ofNat · + 1)).getD 0, 0⟩
  | .version => .version text

/-! ## Order -/

/-- The order that lines are put in. -/
structure Order where
  keys : List Key
  separator : Option Char
  /-- Lines with equal ranks stay as they are. -/
  stable : Bool
  /-- The order of lines with equal ranks is turned round. -/
  reverse : Bool

/-- A line with its ranks. -/
abbrev Ranked := Text × List Rank

/-- A line with its ranks. -/
def Order.ranked (order : Order) (line : Text) : Ranked :=
  (line, order.keys.map (·.rank order.separator line))

/-- Compares lines by their ranks. -/
def compareRanks : List Key → List Rank → List Rank → Ordering
  | key :: keys, a :: as, b :: bs => match a.compare b with
    | .eq => compareRanks keys as bs
    | order => if key.manner.reverse then order.swap else order
  | _, _, _ => .eq

/-- Compares lines. -/
def Order.compare (order : Order) (a b : Ranked) : Ordering :=
  match compareRanks order.keys a.2 b.2 with
  | .eq =>
    if order.stable then .eq
    else
      let last := Ord.compare a.1 b.1
      if order.reverse then last.swap else last
  | found => found

/-- Whether a line may stand before another one. -/
def Order.before (order : Order) (a b : Ranked) : Bool := order.compare a b != .gt

/-- Lines without those whose ranks equal those of the line before. -/
def Order.unique (order : Order) : List Ranked → List Ranked
  | a :: b :: rest =>
    if order.compare a b = .eq then unique order (a :: rest) else a :: unique order (b :: rest)
  | lines => lines
termination_by lines => lines.length

/-- The first line that is out of order, with its number, where the line before has the given one.
-/
def Order.disorder? (order : Order) (strict : Bool) : Nat → List Ranked → Option (Nat × Text)
  | n, a :: b :: rest =>
    let wrong := match order.compare a b with
      | .gt => true
      | .eq => strict
      | .lt => false
    if wrong then some (n + 1, b.1) else disorder? order strict (n + 1) (b :: rest)
  | _, _ => none

/-! ## Options -/

/-- The start of a text as a number, and what follows it. -/
def readCount (about text : Text) : Except Text (Nat × Text) :=
  let digits := text.takeWhile Char.isDigit
  if digits.isEmpty then
    .error (about ++ ": invalid count at start of " ++ quoted text)
  else .ok (Text.numeralValue digits, text.drop digits.length)

/-- Reads the letters behind a position in a key. -/
def readLetters (atStart atEnd : Bool) (manner : Manner) : Text → Manner × Text
  | [] => (manner, [])
  | c :: rest => match manner.with? atStart atEnd c with
    | some manner => readLetters atStart atEnd manner rest
    | none => (manner, c :: rest)

/-- Reads a key. -/
def readKey (text : Text) : Except Text Key := do
  let wrong {α : Type} (about : Text) : Except Text α :=
    .error (about ++ ": invalid field specification " ++ quoted text)
  let position (about : Text) (mayBeZero : Bool) (text : Text) : Except Text ((Nat × Nat) × Text) :=
    do
      let (field, rest) ← readCount about text
      if field = 0 then wrong "field number is zero"
      match rest with
      | '.' :: rest =>
        let (n, rest) ← readCount "invalid number after '.'" rest
        if n = 0 && !mayBeZero then wrong "character offset is zero"
        return ((field - 1, n), rest)
      | rest => return ((field - 1, if mayBeZero then 0 else 1), rest)
  let ((field, n), rest) ← position "invalid number at field start" false text
  let start := if field = 0 && n = 1 then none else some (field, n - 1)
  let (manner, rest) := readLetters true false .plain rest
  let (stop, manner, rest) ← match rest with
    | ',' :: rest => do
      let (stop, rest) ← position "invalid number after ','" true rest
      let (manner, rest) := readLetters false true manner rest
      pure (some stop, manner, rest)
    | rest => pure (none, manner, rest)
  if !rest.isEmpty then wrong "stray character in field spec"
  return ⟨start, stop, manner⟩

/-- The options of `sort`. -/
def switches : Switches where
  plain := "bdfghinMRrVcCmsuzδ"
  valued := "koStTαβγπ"
  optional := "χ"
  long := [("ignore-leading-blanks", 'b'), ("dictionary-order", 'd'), ("ignore-case", 'f'),
    ("general-numeric-sort", 'g'), ("human-numeric-sort", 'h'), ("ignore-nonprinting", 'i'),
    ("numeric-sort", 'n'), ("month-sort", 'M'), ("random-sort", 'R'), ("random-source", 'γ'),
    ("reverse", 'r'), ("sort", 'α'), ("version-sort", 'V'), ("batch-size", 'β'), ("check", 'χ'),
    ("merge", 'm'), ("output", 'o'), ("stable", 's'), ("buffer-size", 'S'),
    ("field-separator", 't'), ("parallel", 'π'), ("temporary-directory", 'T'), ("unique", 'u'),
    ("zero-terminated", 'z'), ("key", 'k'), ("debug", 'δ')]

/-- The letter of a manner that has a name. -/
def namedManners : List (String × Char) := [
  ("general-numeric", 'g'), ("human-numeric", 'h'), ("month", 'M'), ("numeric", 'n'),
  ("random", 'R'), ("version", 'V')]

/-- The separator that options give. -/
def separatorOf (given : Given) : Except Text (Option Char) := do
  let read (text : Text) : Except Text Char :=
    match text with
    | [] => .error "empty tab"
    | [c] => .ok c
    | ['\\', '0'] => .ok Text.null
    | _ => .error ("multi-character tab " ++ quoted text)
  let found ← (given.values 't').mapM read
  if found.any (some · ≠ found.head?) then .error "incompatible tabs" else return found.head?

/-- The manner that options ask for. -/
def mannerOf (given : Given) : Manner :=
  let named := (given.values 'α').filterMap fun name =>
    (namedManners.find? fun (known, _) => name.isPrefixOf known.toList).map (·.2)
  ((given.options.map (·.1)).filter ("bdfghinMRrV" : Text).elem ++ named).foldl
    (fun manner letter => (manner.with? true true letter).getD manner) .plain

/-- The order that options ask for. -/
def orderOf (given : Given) : Except Text Order := do
  let keys ← (given.values 'k').mapM readKey
  let separator ← separatorOf given
  let manner := mannerOf given
  let keys := keys.map fun key => if key.manner = .plain then { key with manner } else key
  let keys := if keys.isEmpty then [⟨none, none, manner⟩] else keys
  match keys.findSome? (·.manner.conflict?) with
  | some letters => throw ("options '-" ++ letters ++ "' are incompatible")
  | none => return ⟨keys, separator, given.has 's' || given.has 'u', manner.reverse⟩

/-- How lines are checked instead of being put in order: with or without a complaint. -/
def checkOf (given : Given) : Option Bool :=
  match given.lastOf? "cCχ" with
  | some 'c' => some true
  | some 'C' => some false
  | some _ => some (((given.value? 'χ').getD []).head? ≠ some 'q' &&
      ((given.value? 'χ').getD []).head? ≠ some 's')
  | none => none

/-- Runs `sort` with the options it was given. -/
def run (job : Job) (given : Given) (order : Order) : Activity :=
  let ending : Char := if given.has 'z' then Text.null else '\n'
  let linesOf (bytes : ByteArray) : List Text :=
    let pieces := Text.pieces ending (ofBytes bytes)
    if pieces.getLast? = some [] then pieces.dropLast else pieces
  let unreadable (what operand reason : Text) : Activity :=
    let what : Text := if reason = SystemError.isDirectory.reason then "read failed: "
      else if reason = badDescriptor then "stat failed: " else what
    job.complain (what ++ shown operand ++ ": " ++ reason) (.finish 2)
  match checkOf given with
  | some tells =>
    gather (unreadable "open failed: ") (fun found =>
      let lines := found.flatMap fun (_, bytes) => (linesOf bytes).map order.ranked
      match order.disorder? (given.has 'u') 1 lines with
      | none => .finish 0
      | some (n, line) =>
        let name := given.operands.headD ['-']
        if tells then
          job.complain (name ++ ':' :: Text.ofNat n ++ ": disorder: " ++ line) (.finish 1)
        else .finish 1) (job.sources given.operands) []
  | none =>
    gather (unreadable "cannot read: ") (fun found =>
      let lists := found.map fun (_, bytes) => (linesOf bytes).map order.ranked
      let sorted :=
        if given.has 'm' then lists.foldl (fun a b => List.merge a b order.before) []
        else lists.flatten.mergeSort order.before
      let kept := if given.has 'u' then order.unique sorted else sorted
      let bytes := toBytes (kept.flatMap fun (line, _) => line ++ [ending])
      match given.value? 'o' with
      | none => Activity.writeAll [1] bytes (.finish 0)
      | some name => .create name false fun
        | .ok descriptor => .write descriptor bytes (.finish 0)
        | .error error =>
          job.complain ("open failed: " ++ shown name ++ ": " ++ error.reason) (.finish 2))
      (job.sources given.operands) []

end Sorting

/-- `sort` puts lines in order. -/
def sort : Utility := withSwitches Sorting.switches 2 fun job given =>
  let failed (text : Text) : Activity := job.complain text (.finish 2)
  match Sorting.orderOf given with
  | .error text => failed text
  | .ok order =>
    match Sorting.checkOf given, given.operands with
    | some tells, _ :: extra :: _ => failed ("extra operand " ++ quoted extra ++
        " not allowed with " ++ if tells then "-c" else "-C")
    | _, _ =>
      if given.has 'c' && given.has 'C' then failed "options '-cC' are incompatible"
      else if (Sorting.checkOf given).isSome && given.has 'o' then
        failed "options '-co' are incompatible"
      else Sorting.run job given order

end Runbook.Shell.Utility
