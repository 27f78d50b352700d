import Runbook.Shell.Utility.Basic

/-!
# Programs with arguments that are read

`xargs` runs a program with what it reads as further arguments. `marks` splits a text into arguments
and ends of lines: blanks separate arguments, and quotes and backslashes take that from them. A line
end behind a blank does not count, so that the line goes on.

The arguments are put together by number or by lines, or each line stands for a mark in the
arguments that were given.
-/

namespace Runbook.Shell.Utility

namespace Gathering

/-- What is met in a text of arguments. -/
inductive Mark where
  | argument (text : Text)
  | lineEnd
  /-- A quote that is not closed, at which reading ends. -/
  | unmatched (quote : Char)

/-- What a character of a text of arguments stands behind. -/
inductive Behind where
  /-- Space, or nothing. -/
  | space
  | argument
  | quote (quote : Char)
  | backslash

/-- What is met in a text, given what is known of the argument under way: its characters, last
first, and whether the last one was blank. If `isLine`, blanks separate nothing. -/
def marks (isLine : Bool) : Behind → Text → Bool → Text → List Mark
  | .quote quote, _, _, [] => [.unmatched quote]
  | _, chars, _, [] => if chars.isEmpty then [] else [.argument chars.reverse]
  | .quote quote, chars, _, c :: rest =>
    if c = '\n' then [.unmatched quote]
    else if c = quote then marks isLine .argument chars false rest
    else marks isLine (.quote quote) (c :: chars) false rest
  | .backslash, chars, _, c :: rest =>
    marks isLine .argument (c :: chars) (c = ' ' || c = '\t') rest
  | .space, chars, afterBlank, c :: rest =>
    if isWhite c then marks isLine .space chars afterBlank rest
    else marksWithin chars c rest
  | .argument, chars, afterBlank, c :: rest =>
    if c = '\n' then
      .argument chars.reverse ::
        (if afterBlank then [] else [Mark.lineEnd]) ++ marks isLine .space [] false rest
    else marksWithin chars c rest
where
  /-- What is met from a character on that stands in an argument. -/
  marksWithin (chars : Text) (c : Char) (rest : Text) : List Mark :=
    if (c = ' ' || c = '\t') && !isLine then
      .argument chars.reverse :: marks isLine .space [] false rest
    else if c = '\\' then marks isLine .backslash chars false rest
    else if c = '\'' || c = '"' then marks isLine (.quote c) chars false rest
    else marks isLine .argument (c :: chars) (c = ' ' || c = '\t') rest

/-- What is met in a text whose arguments end with a character; the last one need not. -/
def delimited (delimiter : Char) (text : Text) : List Mark :=
  let pieces := Text.pieces delimiter text
  let ended := pieces.dropLast.flatMap fun piece => [Mark.argument piece, .lineEnd]
  ended ++ match pieces.getLast? with
    | some [] | none => []
    | some last => [.argument last, .lineEnd]

/-- What is met before an argument that ends the text. -/
def before (ending : Text) : List Mark → List Mark := List.takeWhile fun
  | .argument text => text ≠ ending
  | _ => true

/-- How arguments are put together. -/
structure Plan where
  /-- The command with its first arguments. -/
  command : List Text
  /-- The most arguments that are added at once. -/
  most : Option Nat
  /-- The number of lines whose arguments are added at once. -/
  lines : Option Nat
  /-- The mark in the first arguments that stands for what is added. -/
  mark : Option Text

/-- A command with arguments that are added, which are given last first. -/
def Plan.filled (plan : Plan) (added : List Text) : List Text :=
  match plan.mark with
  | none => plan.command ++ added.reverse
  | some mark => added.reverse.flatMap fun value =>
    plan.command.take 1 ++
      (plan.command.drop 1).map fun word => replaceMark mark value word.length word

/-- The commands that come of a text, given the arguments that have been gathered, last first, and
from how many lines; and the quote that is not closed, if there is one. -/
def Plan.commands (plan : Plan) : List Mark → List Text → Nat → List (List Text) × Option Char
  | [], gathered, _ => (if gathered.isEmpty then [] else [plan.filled gathered], none)
  | .unmatched quote :: _, gathered, _ =>
    (if gathered.isEmpty then [] else [plan.filled gathered], some quote)
  | .argument text :: rest, gathered, met =>
    let gathered := text :: gathered
    if plan.mark.isSome || plan.most = some gathered.length then
      let (commands, fault) := plan.commands rest [] met
      (plan.filled gathered :: commands, fault)
    else plan.commands rest gathered met
  | .lineEnd :: rest, gathered, met =>
    match plan.lines with
    | some lines =>
      if met + 1 < lines || gathered.isEmpty then plan.commands rest gathered (met + 1)
      else
        let (commands, fault) := plan.commands rest [] 0
        (plan.filled gathered :: commands, fault)
    | none => plan.commands rest gathered met

/-! ## Options -/

/-- Which limit is in force, and what was said about those that it has put out of force. -/
structure Limits where
  most : Option Nat
  lines : Option Nat
  mark : Option Text
  said : List Text

/-- What is said if a limit puts another one out of force. -/
def ignoring (isSet : Bool) (old new : Text) : List Text :=
  if isSet then ["warning: options --" ++ old ++ " and " ++ new ++
    " are mutually exclusive, ignoring previous --" ++ old ++ " value"] else []

/-- The number that is the value of an option. -/
def positive (option : Char) (text : Text) : Except Text Nat :=
  let isNegative := text.head? = some '-'
  let digits := if isNegative || text.head? = some '+' then text.drop 1 else text
  match natural? digits with
  | none => .error ("invalid number \"" ++ text ++ "\" for -" ++ [option] ++ " option")
  | some n =>
    if isNegative || n = 0 then
      .error ("value " ++ text ++ " for -" ++ [option] ++ " option should be >= 1")
    else .ok n

/-- The limits after one more option. -/
def Limits.after (limits : Limits) : Char × Text → Except Text Limits
  | ('n', text) => do
    let n ← positive 'n' text
    let said := limits.said ++ ignoring limits.lines.isSome "max-lines" "--max-args/-n"
    if limits.mark.isSome && n = 1 then return { limits with lines := none, said }
    return ⟨some n, none, none,
      said ++ ignoring limits.mark.isSome "replace" "--max-args/-n"⟩
  | ('L', text) => do
    let n ← positive 'L' text
    return ⟨none, some n, none, limits.said ++ ignoring limits.most.isSome "max-args" "-L" ++
      ignoring limits.mark.isSome "replace" "-L"⟩
  | ('l', text) => do
    let n ← if text.isEmpty then pure 1 else positive 'l' text
    return ⟨none, some n, none,
      limits.said ++ ignoring limits.most.isSome "max-args" "--max-lines/-l" ++
        ignoring limits.mark.isSome "replace" "--max-lines/-l"⟩
  | ('s', text) | ('P', text) => do
    if text ≠ "0" then
      let _ ← positive 's' text
    return limits
  | (letter, text) =>
    if letter = 'I' || letter = 'i' then
      return ⟨none, none, some (if letter = 'i' && text.isEmpty then "\x7b\x7d" else text),
        limits.said ++ ignoring limits.most.isSome "max-args" "--replace/-I/-i" ++
          ignoring limits.lines.isSome "max-lines" "--replace/-I/-i"⟩
    else return limits

/-- The character that a text means as the end of arguments. -/
def delimiter? (text : Text) : Except Text Char :=
  match text with
  | [c] => .ok c
  | ['\\', c] =>
    let known : List (Char × Char) := [('a', '\x07'), ('b', '\x08'), ('f', '\x0c'), ('n', '\n'),
      ('r', '\r'), ('t', '\t'), ('v', '\x0b'), ('\\', '\\'), ('0', Text.null)]
    match known.lookup c with
    | some meant => .ok meant
    | none => .error ("Invalid escape sequence " ++ text ++
        " in input delimiter specification.")
  | '\\' :: 'x' :: digits => .ok (Char.ofNat (Text.numeralValueIn 16 digits))
  | '\\' :: '0' :: digits => .ok (Char.ofNat (Text.numeralValueIn 8 digits))
  | _ => .error ("Invalid input delimiter specification " ++ text ++
      ": the delimiter must be either a single character or an escape sequence starting with \\.")

/-- The options of `xargs`. -/
def switches : Switches where
  plain := "0rtxpo"
  valued := "aIdELnPs"
  optional := "eil"
  long := [("null", '0'), ("arg-file", 'a'), ("delimiter", 'd'), ("eof", 'e'), ("replace", 'i'),
    ("max-lines", 'l'), ("max-args", 'n'), ("no-run-if-empty", 'r'), ("max-chars", 's'),
    ("verbose", 't'), ("exit", 'x'), ("max-procs", 'P'), ("interactive", 'p'), ("open-tty", 'o')]
  areLeading := true

/-! ## Running -/

/-- Runs commands one after another. One that cannot be run is the last one, and so is one that asks
for that by its status; any other failure is remembered. -/
def runAll (job : Job) (isShown hasInput : Bool) (next : Nat → Activity) :
    List (List Text) → Nat → Activity
  | [], status => next status
  | command :: rest, status =>
    let name := command.headD []
    let run : Activity := .run command job.exports hasInput fun
      | .error error => job.complain (name ++ ": " ++ error.reason)
          (.finish (if error = .notFound then 127 else 126))
      | .ok (.exited 0) => runAll job isShown hasInput next rest status
      | .ok (.exited 255) =>
        job.complain (name ++ ": exited with status 255; aborting") (.finish 124)
      | .ok (.exited _) => runAll job isShown hasInput next rest 123
      | .ok (.signalled signal) =>
        job.complain (name ++ ": terminated by signal " ++ Text.ofNat signal) (.finish 125)
    if isShown then .complain (List.intercalate [' '] (command.map shown)) run else run

/-- Runs the commands that come of a text. -/
def runPlan (job : Job) (plan : Plan) (isShown hasInput needsSome : Bool) (marks : List Mark) :
    Activity :=
  match plan.commands marks [] 0 with
  | ([], none) =>
    if needsSome || plan.mark.isSome then .finish 0
    else runAll job isShown hasInput .finish [plan.command] 0
  | (commands, none) => runAll job isShown hasInput .finish commands 0
  | (commands, some quote) =>
    let kind : Text := if quote = '"' then "double" else "single"
    runAll job isShown hasInput
      (fun _ => job.complain ("unmatched " ++ kind ++ " quote; " ++
          "by default quotes are special to xargs unless you use the -0 option")
        (runAll job isShown hasInput (fun _ => .finish 1) (commands.drop (commands.length - 1)) 0))
      commands.dropLast 0

/-- Runs a program with what is read. -/
def run (job : Job) (given : Given) (limits : Limits) (delimiter : Option Char) : Activity :=
  let plan : Plan := ⟨if given.operands.isEmpty then [("echo" : Text)] else given.operands,
    limits.most, limits.lines, limits.mark⟩
  let ending := ((given.options.reverse.find? fun (letter, _) =>
    letter = 'E' || letter = 'e').map (·.2)).filter (!·.isEmpty)
  let file := given.value? 'a'
  let source := (file.map job.source).getD (.ok (.descriptor 0))
  let isIdle := ending.isSome && delimiter.isSome
  let idle : Text := "warning: the -E option has no effect if -0 or -d is used.\n"
  let said := limits.said ++ (if isIdle then [idle] else [])
  let start (bytes : ByteArray) (next : Nat) : Activity :=
    let marks := match delimiter, ending with
      | some delimiter, _ => delimited delimiter (ofBytes bytes)
      | none, some ending =>
        before ending (marks limits.mark.isSome .space [] false (ofBytes bytes))
      | none, none => marks limits.mark.isSome .space [] false (ofBytes bytes)
    if next = 0 then runPlan job plan (given.has 't') file.isSome (given.has 'r') marks
    else runAll job (given.has 't') file.isSome
      (fun _ => job.complain "error closing file: Bad file descriptor" (.finish 1)) [plan.command] 0
  said.foldr job.complain (match source with
    | .error error => job.complain ("Cannot open input file " ++ quoted (file.getD []) ++ ": " ++
        error.reason) (.finish 1)
    | .ok source => .pump source [1] .collect .empty (fun bytes _ => start bytes 1) (start · 0))

end Gathering

open Gathering in
/-- `xargs` runs a program with the words it reads as further arguments. -/
def xargs : Utility := withSwitches switches 1 fun job given =>
  match given.options.foldlM Limits.after ⟨none, none, none, []⟩ with
  | .error text => job.misused 1 text
  | .ok limits =>
    let wanted := given.options.reverse.find? fun (letter, _) => letter = '0' || letter = 'd'
    match wanted with
    | none => run job given limits none
    | some ('0', _) => run job given limits (some Text.null)
    | some (_, text) => match delimiter? text with
      | .ok delimiter => run job given limits (some delimiter)
      | .error text => job.complain text (.finish 1)

end Runbook.Shell.Utility
