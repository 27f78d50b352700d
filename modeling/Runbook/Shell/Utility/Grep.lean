import Runbook.Shell.Pattern
import Runbook.Shell.Regex.Notation
import Runbook.Shell.Utility.Basic

/-!
# Searching for lines

`grep` shows the lines in which something is found. A `Query` says which lines those are, a
`Display` what is shown of them, and a `Progress` what is remembered from one line of a file to the
next.
-/

namespace Runbook.Shell.Utility

namespace Grep

/-! ## Queries -/

/-- What is looked for in each line. -/
structure Query where
  /-- There is none if nothing is looked for. -/
  regex : Option Regex
  /-- Matches have to be whole words. -/
  words : Bool
  /-- Matches have to be whole lines. -/
  lines : Bool
  /-- Lines without a match are wanted. -/
  inverted : Bool

/-- Whether a match may go from one spot to another. -/
def Query.accepts (query : Query) (start stop : Spot) : Bool :=
  (!query.lines || start.before.isNone && stop.rest.isEmpty) &&
    (!query.words || query.lines || !start.isAfterWord && !stop.isBeforeWord)

/-- The first match in a line from a spot on. -/
def Query.findFrom (query : Query) (spot : Spot) : Option Regex.Found :=
  query.regex.bind (·.findWhere query.accepts spot)

/-- Whether a line is wanted. -/
def Query.wants (query : Query) (line : Text) : Bool :=
  (query.findFrom (.start line)).isSome != query.inverted

/-- The matches in a line that are not empty, with their positions; `bound` is more than the length
of the line. -/
def Query.matches (query : Query) : Nat → Spot → List (Nat × Text)
  | 0, _ => []
  | bound + 1, spot =>
    match query.findFrom spot with
    | none => []
    | some found =>
      if found.text.isEmpty then
        if found.spot.rest.isEmpty then [] else query.matches bound found.spot.next
      else (spot.offset + found.before.length, found.text) :: query.matches bound found.spot

/-! ## Display -/

/-- What is shown instead of lines. -/
inductive Summary where
  | count
  | names (withMatch : Bool)
  | nothing

/-- What is shown. -/
structure Display where
  titles : Bool
  numbers : Bool
  offsets : Bool
  /-- Only what has matched. -/
  onlyMatches : Bool
  /-- Lines around those that are wanted, before and after them. -/
  context : Option (Nat × Nat)
  /-- What stands between lines that do not follow one another, when context is shown. -/
  separator : Option Text
  /-- The most lines that are wanted. -/
  limit : Option Nat
  /-- What looks like no text is shown all the same. -/
  anyBytes : Bool
  summary : Option Summary
  /-- What ends the name of a file. -/
  afterName : Option Char
  highlight : Bool

/-- A line with its number and the position of its start. -/
structure Numbered where
  number : Nat
  offset : Nat
  text : Text

/-- What is known in the middle of a file. -/
structure Progress where
  number : Nat
  offset : Nat
  hits : Nat
  /-- How many lines of context are still to be shown. -/
  trailing : Nat
  /-- The lines before the current one that have not been shown, the last one first. -/
  recent : List Numbered
  /-- The number of the last line that was shown. -/
  shownTo : Nat
  /-- Whether anything was shown, here or in a file before. -/
  hasShown : Bool
  isBinary : Bool
  /-- The position behind the last wanted line. -/
  foundTo : Nat

/-- The start of a file. -/
def Progress.start (hasShown : Bool) : Progress := ⟨0, 0, 0, 0, [], 0, hasShown, false, 0⟩

/-- Marks a text as the part of a line with the given colour, if those are shown. -/
def Display.paint (display : Display) (color : Text) (text : Text) : Text :=
  if display.highlight then
    "\x1b[" ++ color ++ "m\x1b[K" ++ text ++ "\x1b[m\x1b[K"
  else text

/-- What stands before a line of a file, or before a match at the given position in it. -/
def Display.header (display : Display) (name : Text) (mark : Char) (line : Numbered)
    (position : Nat) : Text :=
  let mark := display.paint "36" [mark]
  (if display.titles then
      display.paint "35" name ++ (display.afterName.map (fun c => [c])).getD mark
    else []) ++
    (if display.numbers then display.paint "32" (Text.ofNat line.number) ++ mark else []) ++
    (if display.offsets then
      display.paint "32" (Text.ofNat (line.offset + position)) ++ mark else [])

/-- A line with its matches marked, given those matches and the position of what is left. -/
def Display.painted (display : Display) : List (Nat × Text) → Nat → Text → Text
  | [], _, rest => rest
  | (start, found) :: more, position, rest =>
    rest.take (start - position) ++ display.paint "01;31" found ++
      display.painted more (start + found.length) (rest.drop (start - position + found.length))

/-- A wanted line as it is shown. -/
def Display.wanted (display : Display) (query : Query) (name : Text) (line : Numbered) : Text :=
  let found := query.matches (line.text.length + 2) (.start line.text)
  if display.onlyMatches then
    if query.inverted then []
    else found.flatMap fun (position, text) =>
      display.header name ':' line position ++ display.paint "01;31" text ++ ['\n']
  else
    let shown := if display.highlight && !query.inverted then display.painted found 0 line.text
      else line.text
    display.header name ':' line 0 ++ shown ++ ['\n']

/-- A line of context as it is shown. -/
def Display.around (display : Display) (name : Text) (line : Numbered) : Text :=
  if display.onlyMatches then []
  else display.header name '-' line 0 ++ line.text ++ ['\n']

/-- What stands before a line with the given number if it does not follow the last one shown. -/
def Display.gap (display : Display) (progress : Progress) (number : Nat) : Text :=
  match display.context, display.separator with
  | some _, some separator =>
    if progress.hasShown && progress.shownTo + 1 < number || progress.hasShown &&
        progress.shownTo = 0 then display.paint "36" separator ++ ['\n'] else []
  | _, _ => []

/-- Whether enough lines have been found. -/
def Display.isEnough (display : Display) (hits : Nat) : Bool :=
  (display.limit.map (decide <| · ≤ hits)).getD false

/-- Deals with a line: what is known after it, what is shown, and whether more lines are wanted. -/
def Display.deal (display : Display) (query : Query) (name : Text) (progress : Progress)
    (text : Text) : Progress × Text × Bool :=
  let line : Numbered := ⟨progress.number + 1, progress.offset, text⟩
  let progress := { progress with
    number := line.number, offset := progress.offset + text.length + 1 }
  let isSilent := display.summary.isSome
  if !display.isEnough progress.hits && query.wants text then
    let hits := progress.hits + 1
    let progress := { progress with foundTo := progress.offset }
    let (before, after) := display.context.getD (0, 0)
    let goesOn := !display.isEnough hits || (!isSilent && 0 < after)
    if isSilent then ({ progress with hits }, [], goesOn)
    else if progress.isBinary && !display.anyBytes then
      ({ progress with hits, hasShown := true },
        "grep: " ++ name ++ ": binary file matches\n", false)
    else
      let lead := (progress.recent.take before).reverse
      let first := (lead.head?.map Numbered.number).getD line.number
      ({ progress with
          hits, trailing := after, recent := [], shownTo := line.number, hasShown := true },
        display.gap progress first ++ lead.flatMap (display.around name) ++
          display.wanted query name line, goesOn)
  else if 0 < progress.trailing then
    ({ progress with trailing := progress.trailing - 1, shownTo := line.number },
      display.around name line,
      1 < progress.trailing || !display.isEnough progress.hits)
  else
    let kept := (display.context.getD (0, 0)).1
    ({ progress with recent := (line :: progress.recent).take kept }, [],
      !display.isEnough progress.hits)

/-- Deals with lines. -/
def Display.dealAll (display : Display) (query : Query) (name : Text) (progress : Progress)
    (lines : List Text) : Progress × Text × Bool :=
  let isBinary := progress.isBinary || lines.any (·.elem Text.null)
  let (progress, shown, goesOn) := lines.foldl (fun (progress, shown, goesOn) line =>
    if goesOn then
      let (progress, more, goesOn) := display.deal query name progress line
      (progress, more.reverse ++ shown, goesOn)
    else (progress, shown, false)) ({ progress with isBinary }, [], true)
  (progress, shown.reverse, goesOn)

/-- Deals with what is read of a file. What is behind the last of a limited number of lines is left
to others. -/
def Display.filter (display : Display) (query : Query) (name : Text) :
    Filter (Filter.LineState Progress) := fun before chunk =>
  let passed := Filter.byLines (display.dealAll query name) before chunk
  let size := before.state.offset + before.unfinished.size + chunk.size
  let isLeft := !passed.wantsMore && display.isEnough passed.state.state.hits
  if isLeft then { passed with unused := size - passed.state.state.foundTo } else passed

/-! ## Files -/

/-- What has come of the files so far. -/
structure Outcome where
  found : Bool
  failed : Bool
  hasShown : Bool

/-- The status at the end. -/
def Outcome.status (outcome : Outcome) : Nat :=
  if outcome.failed then 2 else if outcome.found then 0 else 1

/-- Searches files one after another. -/
def searchEach (job : Job) (query : Query) (display : Display) (tellsErrors : Bool) :
    List (Text × Except SystemError Source) → Outcome → Activity
  | [], outcome => .finish outcome.status
  | (name, .error error) :: rest, outcome =>
    let next := searchEach job query display tellsErrors rest { outcome with failed := true }
    if tellsErrors then job.complain (name ++ ": " ++ error.reason) next else next
  | (name, .ok source) :: rest, outcome =>
    let start : Filter.LineState Progress := ⟨.empty, .start outcome.hasShown⟩
    let failed (_ : Filter.LineState Progress) (reason : Text) : Activity :=
      let next := searchEach job query display tellsErrors rest { outcome with failed := true }
      if tellsErrors then job.complain (name ++ ": " ++ reason) next else next
    if display.limit = some 0 then .finish 1
    else .pump source [1] (display.filter query name) start failed fun ⟨unfinished, progress⟩ =>
      let (progress, shown, _) :=
        if unfinished.isEmpty || display.isEnough progress.hits && progress.trailing = 0 then
          (progress, [], false)
        else display.dealAll query name progress (Filter.linesOf unfinished)
      let isFound := 0 < progress.hits
      let line (text : Text) : Text := display.paint "35" name ++ text
      let mark : Text := (display.afterName.map (fun c => [c])).getD (display.paint "36" ":")
      let summary : Text := match display.summary with
        | some .count => (if display.titles then line mark else []) ++
            Text.ofNat progress.hits ++ ['\n']
        | some (.names withMatch) =>
          if isFound = withMatch then line [display.afterName.getD '\n'] else []
        | some .nothing | none => []
      let goOn := Activity.say (shown ++ summary) (searchEach job query display tellsErrors rest
        { outcome with found := outcome.found || isFound, hasShown := progress.hasShown })
      match display.summary with
      | some .nothing => if isFound then .finish 0 else goOn
      | _ => goOn

/-- The files in and below a directory, under names that start with the given one; `depth` bounds
how far below they are. -/
def filesBelow (files : Files) (accepts : Bool → Text → Bool) : Nat → Path → Text → List Text
  | 0, _, _ => []
  | depth + 1, path, name =>
    (files.children path).flatMap fun child =>
      let text := if name.isEmpty then child
        else if name.getLast? = some '/' then name ++ child else name ++ '/' :: child
      match (files.get? (path ++ [child])).map FileNode.kind with
      | some .directory =>
        if accepts true child then filesBelow files accepts depth (path ++ [child]) text else []
      | some (.file _) => if accepts false child then [text] else []
      | _ => []

/-- The names of the files that an operand means to a search that goes into directories. -/
def operandFiles (job : Job) (accepts : Bool → Text → Bool) (operand : Text) : List Text :=
  match job.visible.find job.dir operand with
  | .ok (path, node) =>
    if node.isDirectory then filesBelow job.visible accepts 64 path operand else [operand]
  | .error _ => [operand]

/-! ## Options -/

/-- The options of `grep`. -/
def switches : Switches where
  plain := "EFGPivwxclLnoqshHabyrRUzTIu0123456789νσδ"
  valued := "efmABCdDλμικξ"
  optional := "ρ"
  long := [("extended-regexp", 'E'), ("fixed-strings", 'F'), ("basic-regexp", 'G'),
    ("perl-regexp", 'P'), ("ignore-case", 'i'), ("no-ignore-case", 'δ'), ("invert-match", 'v'),
    ("word-regexp", 'w'), ("line-regexp", 'x'), ("count", 'c'), ("files-with-matches", 'l'),
    ("files-without-match", 'L'), ("line-number", 'n'), ("only-matching", 'o'), ("quiet", 'q'),
    ("silent", 'q'), ("no-filename", 'h'), ("no-group-separator", 'ν'), ("no-messages", 's'),
    ("with-filename", 'H'), ("text", 'a'), ("byte-offset", 'b'), ("recursive", 'r'),
    ("dereference-recursive", 'R'), ("binary", 'U'), ("null-data", 'z'), ("null", 'σ'),
    ("initial-tab", 'T'), ("regexp", 'e'), ("file", 'f'), ("max-count", 'm'),
    ("after-context", 'A'), ("before-context", 'B'), ("context", 'C'), ("directories", 'd'),
    ("devices", 'D'), ("label", 'λ'), ("group-separator", 'μ'), ("include", 'ι'),
    ("exclude", 'κ'), ("exclude-dir", 'ξ'), ("color", 'ρ'), ("colour", 'ρ')]

/-- A complaint about the way `grep` was called. -/
def usage (complaint : Option Text) : Activity :=
  let rest : Activity := .complain "Usage: grep [OPTION]... PATTERNS [FILE]..."
    (.complain "Try 'grep --help' for more information." (.finish 2))
  (match complaint with
    | some text => .complain ("grep: " ++ text) rest
    | none => rest)

/-- The number of lines of context that an option asks for. -/
def contextLength? (text : Text) : Except Text Nat :=
  match natural? text with
  | some n => .ok n
  | none => .error (text ++ ": invalid context length argument")

/-- The number that digits among the options make. -/
def digitContext (given : Given) : Option Nat :=
  let digits := (given.options.map (·.1)).reverse.dropWhile (!·.isDigit) |>.takeWhile Char.isDigit
  if digits.isEmpty then none else some (Text.numeralValue digits.reverse)

/-- The lines of context that the options ask for, before and after. -/
def contextOf (given : Given) : Except Text (Option (Nat × Nat)) := do
  let around ← (given.value? 'C').mapM contextLength?
  let around := around.orElse fun _ => digitContext given
  let before ← (given.value? 'B').mapM contextLength?
  let after ← (given.value? 'A').mapM contextLength?
  match before.orElse fun _ => around, after.orElse fun _ => around with
  | none, none => return none
  | before, after => return some (before.getD 0, after.getD 0)

/-- The patterns that the options or the first operand give, one on each line, and the operands that
are left. There are none if neither gives any. -/
def patternsOf (job : Job) (given : Given) : Except Text (Option (List Text × List Text)) := do
  let listed := given.options.filter fun (letter, _) => letter = 'e' || letter = 'f'
  let lines ← listed.mapM fun (letter, value) =>
    if letter = 'e' then .ok (Text.pieces '\n' value)
    else match job.visible.read job.dir value with
      | .ok content => .ok (Filter.linesOf content)
      | .error error => .error (value ++ ": " ++ error.reason)
  match listed, given.operands with
  | [], [] => return none
  | [], first :: rest => return some (Text.pieces '\n' first, rest)
  | _, operands => return some (lines.flatten, operands)

/-- The expression of several patterns. -/
def expressionOf (given : Given) (patterns : List Text) : Except Text (Option Regex) := do
  let ignoreCase := given.lastOf? "iyδ" = some 'i' || given.lastOf? "iyδ" = some 'y'
  let extended := given.has 'E' || given.has 'P'
  let dialect : Regex.Dialect := ⟨extended, ignoreCase, false, true⟩
  let parts ← patterns.eraseDups.mapM fun pattern =>
    if given.has 'F' then .ok (Regex.ofText ignoreCase pattern)
    else (Regex.read dialect pattern).mapError Regex.Fault.message
  match parts.reverse with
  | [] => return none
  | last :: others => return some (others.foldl (fun rest part => .either part rest) last)

/-- What is shown, by the options. -/
def displayOf (given : Given) (titles : Bool) (context : Option (Nat × Nat)) (limit : Option Nat) :
    Display :=
  let summary : Option Summary :=
    if given.has 'q' then some .nothing
    else match given.lastOf? "lL" with
      | some letter => some (.names (letter = 'l'))
      | none => if given.has 'c' then some .count else none
  let limit := match summary with
    | some .nothing | some (.names _) => some (min (limit.getD 1) 1)
    | _ => limit
  { titles, context, limit, summary
    numbers := given.has 'n', offsets := given.has 'b', onlyMatches := given.has 'o'
    separator := match given.lastOf? "μν" with
      | some 'μ' => given.value? 'μ'
      | some _ => none
      | none => some "--"
    anyBytes := given.has 'a' || given.has 'z'
    afterName := if given.has 'σ' then some Text.null else none
    highlight := given.value? 'ρ' = some "always" }

/-- Whether a name matches one of the patterns of names that an option gives. -/
def isListed (given : Given) (letter : Char) (name : Text) : Bool :=
  (given.values letter).any fun pattern =>
    (Pattern.ofGuarded (pattern.map fun c => (c, false))).accepts name

/-- The sources that `grep` searches, under the names that it shows. -/
def sourcesOf (job : Job) (given : Given) (operands : List Text) :
    List (Text × Except SystemError Source) :=
  let recursive := given.has 'r' || given.has 'R'
  let accepts (isDirectory : Bool) (name : Text) : Bool :=
    if isDirectory then !isListed given 'ξ' name
    else ((given.values 'ι').isEmpty || isListed given 'ι' name) && !isListed given 'κ' name
  let names := if !recursive then operands
    else if operands.isEmpty then filesBelow job.visible accepts 64 job.dir []
    else operands.flatMap (operandFiles job accepts)
  let skips := given.value? 'd' = some "skip"
  let input := (given.value? 'λ').getD "(standard input)"
  (if names.isEmpty && !recursive then [['-']] else names).filterMap fun name =>
    match job.source name with
    | .error .isDirectory => if skips then none else some (name, .error .isDirectory)
    | source => some (if name = "-" then input else name, source)

/-- Runs `grep` with the options it was given. -/
def run (job : Job) (given : Given) : Activity :=
  let failed (text : Text) : Activity := (.complain ("grep: " ++ text) (.finish 2))
  let matchers := (given.options.map (·.1)).filter ("EFGP" : Text).elem
  let read : Except Text (Option (Query × Display × List (Text × Except SystemError Source))) := do
    let context ← contextOf given
    let limit ← match given.value? 'm' with
      | none => .ok none
      | some text => match natural? text with
        | some n => .ok (some n)
        | none => .error "invalid max count"
    if matchers.any (· ≠ matchers.headD 'G') then .error "conflicting matchers specified"
    match ← patternsOf job given with
    | none => return none
    | some (patterns, operands) =>
      let regex ← expressionOf given patterns
      let several := 1 < operands.length || given.has 'r' || given.has 'R'
      let titles := match given.lastOf? "hH" with
        | some letter => letter = 'H'
        | none => several
      return some (⟨regex, given.has 'w', given.has 'x', given.has 'v'⟩,
        displayOf given titles context limit, sourcesOf job given operands)
  match read with
  | .error text => failed text
  | .ok none => usage none
  | .ok (some (query, display, sources)) =>
    (searchEach job query display (!given.has 's') sources ⟨false, false, false⟩)

end Grep

/-- `grep` with an option that it has in any case. -/
def grepWith (options : List Text) : Utility := fun job =>
  let job := { job with name := "grep", arguments := options ++ job.arguments }
  match Grep.switches.read job.arguments with
  | .error text => Grep.usage (some text)
  | .ok given =>
    if given.has 'u' then
      job.complain "warning: --unix-byte-offsets (-u) is obsolete" (Grep.run job given)
    else Grep.run job given

/-- `grep` shows the lines in which something is found. -/
def grep : Utility := grepWith []

/-- `egrep` is `grep` in the extended notation. -/
def egrep : Utility := grepWith ["-E"]

/-- `fgrep` is `grep` for texts without any notation. -/
def fgrep : Utility := grepWith ["-F"]

end Runbook.Shell.Utility
