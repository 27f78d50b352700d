import Runbook.Shell.Regex.Notation
import Runbook.Shell.Utility.Listing

/-!
# Searching for files

`find` goes through trees of files and decides for each place in them whether a `Criterion` holds,
which may do something with the place on the way. A criterion is read in two steps: arguments make
`Part`s, and parts make a criterion, in which `-a` binds closer than `-o` and that closer than a
comma.
-/

namespace Runbook.Shell.Utility

/-- A place that a search has come to. -/
structure Finding where
  /-- The place as it is shown, which begins with where the search has started. -/
  name : Text
  start : Text
  path : Path
  node : FileNode
  /-- How far it is from where the search has started. -/
  depth : Nat

/-- What is decided about a place, or done with it. -/
inductive Criterion where
  | holds (test : Files → Finding → Bool)
  | print (text : Files → Finding → Text)
  /-- Runs a program, perhaps only if that is wanted, and holds if that succeeds. -/
  | run (asks : Bool) (command : List Text)
  /-- Keeps the place for a program that is given many of them; that is known by a number. -/
  | keep (number : Nat)
  | delete
  /-- Does not go into a directory. -/
  | prune
  | quit
  | negated (criterion : Criterion)
  | both (first second : Criterion)
  | either (first second : Criterion)
  /-- Holds if the second one does. -/
  | sequence (first second : Criterion)

/-- How far a search has come. -/
structure Sweep where
  status : Nat
  isPruned : Bool
  hasQuit : Bool
  /-- What was kept for programs, by their numbers, the last first. -/
  kept : List (Nat × List Text)

/-- The mark for a place in a command. -/
def placeMark : Text := "\x7b\x7d"

/-- Decides about a place, and goes on with the answer. -/
def Criterion.decide (job : Job) (finding : Finding) :
    Criterion → Sweep → (Bool → Sweep → Activity) → Activity
  | .holds test, sweep, next => .change fun files => (files, next (test files finding) sweep)
  | .print text, sweep, next => .change fun files =>
    (files, .say (text files finding) (next true sweep))
  | .run false command, sweep, next =>
    let words := command.map fun word => replaceMark placeMark finding.name word.length word
    .run words job.exports true fun
      | .ok exit => next (exit.status == 0) sweep
      | .error error => job.complain (quoted (words.headD []) ++ ": " ++ error.reason)
          (next false sweep)
  | .run true command, sweep, next =>
    .write 2 (toBytes ("< " ++ command.headD [] ++ " ... " ++ finding.name ++ " > ? "))
      (next false sweep)
  | .keep number, sweep, next =>
    next true { sweep with kept := sweep.kept.map fun (other, names) =>
      if other = number then (other, finding.name :: names) else (other, names) }
  | .delete, sweep, next =>
    if finding.name = "." then next true sweep
    else .change fun files =>
      if finding.node.isDirectory && !(files.children finding.path).isEmpty then
        (files, job.complain ("cannot delete " ++ quoted finding.name ++ ": " ++
          SystemError.notEmpty.reason) (next false { sweep with status := 1 }))
      else (files.erase finding.path, next true sweep)
  | .prune, sweep, next => next true { sweep with isPruned := true }
  | .quit, sweep, next => next true { sweep with hasQuit := true }
  | .negated criterion, sweep, next =>
    criterion.decide job finding sweep fun answer sweep => next (!answer) sweep
  | .both first second, sweep, next =>
    first.decide job finding sweep fun answer sweep =>
      if answer && !sweep.hasQuit then second.decide job finding sweep next else next answer sweep
  | .either first second, sweep, next =>
    first.decide job finding sweep fun answer sweep =>
      if answer || sweep.hasQuit then next answer sweep else second.decide job finding sweep next
  | .sequence first second, sweep, next =>
    first.decide job finding sweep fun answer sweep =>
      if sweep.hasQuit then next answer sweep else second.decide job finding sweep next

/-! ## Reading criteria -/

/-- A part of what a search is asked for. -/
inductive Part where
  | criterion (criterion : Criterion)
  | opening
  | closing
  | not (name : Text)
  | and (name : Text)
  | or (name : Text)
  | comma

/-- What is read of the arguments of a search. -/
structure Request where
  /-- The parts, last first. -/
  parts : List Part
  least : Nat
  most : Option Nat
  /-- Whether directories come after what is in them. -/
  isInwards : Bool
  /-- Whether something is done with places, other than passing over them. -/
  acts : Bool
  /-- The programs that are given many places, the last first. -/
  programs : List (List Text)

/-- The pattern that a text means to a program, where a circumflex negates too. -/
def programPattern (text : Text) : Pattern :=
  let rec negations : Text → Text
    | '\\' :: c :: rest => '\\' :: c :: negations rest
    | '[' :: '^' :: rest => '[' :: '!' :: negations rest
    | c :: rest => c :: negations rest
    | [] => []
  Pattern.ofGuarded ((negations text).map fun c => (c, false))

/-- A comparison with a number, which is exact unless a sign says more or less. -/
def comparison? (text : Text) : Option (Nat → Bool) :=
  match text with
  | '+' :: digits => (natural? digits).map fun n m => n < m
  | '-' :: digits => (natural? digits).map fun n m => m < n
  | digits => (natural? digits).map fun n m => m == n

/-- A comparison with a size, which is counted in whole units. -/
def sizeComparison? (text : Text) : Option (Nat → Bool) :=
  let unit : Option Nat := match text.getLast? with
    | some 'c' => some 1
    | some 'w' => some 2
    | some 'k' => some 1024
    | some 'M' => some 1048576
    | some 'G' => some 1073741824
    | some c => if c = 'b' || c.isDigit then some 512 else none
    | none => none
  let digits := if (text.getLast?.map Char.isDigit).getD false then text else text.dropLast
  match unit, comparison? digits with
  | some unit, some compare => some fun size => compare ((size + unit - 1) / unit)
  | _, _ => none

/-- Whether permissions are as a mode says: exactly, at least with a hyphen before it, or in part
with a slash before it. -/
def permissionTest? (text : Text) : Option (Nat → Bool) :=
  let mode (text : Text) : Option Nat := (Permissions.readMode? text).map fun change => change 0 0
  match text with
  | '-' :: text => (mode text).map fun wanted permissions => permissions &&& wanted == wanted
  | '/' :: text => (mode text).map fun wanted permissions =>
    wanted == 0 || permissions &&& wanted != 0
  | text => (mode text).map fun wanted permissions => permissions == wanted

/-- The letter for what something is, as `find` knows it. -/
def findLetter (node : FileNode) : Char := match node.kind with
  | .file _ => 'f'
  | _ => kindLetter node

/-- The value of a letter in a format of `find`. -/
def findValue (files : Files) (finding : Finding) : Char → Text
  | 'p' => finding.name
  | 'f' => lastName finding.name
  | 'h' => parentName finding.name
  | 'P' => (finding.name.drop finding.start.length).dropWhile (· == '/')
  | 'H' => finding.start
  | 's' => Text.ofNat (sizeOf finding.node)
  | 'd' => Text.ofNat finding.depth
  | 'y' => [findLetter finding.node]
  | 'm' => statValue files finding.name finding.path finding.node 'a'
  | 'M' => statValue files finding.name finding.path finding.node 'A'
  | 'l' => match finding.node.kind with
    | .link target => target
    | _ => []
  | 'n' => Text.ofNat (namesOf files finding.path finding.node)
  | 'u' | 'g' => "root"
  | 'U' | 'G' => ['0']
  | 'i' => statValue files finding.name finding.path finding.node 'i'
  | 'k' => Text.ofNat (blocksOf finding.node)
  | 'b' => Text.ofNat (blocksOf finding.node * 2)
  | '%' => ['%']
  | c => ['%', c]

/-- A format of `find` filled in. -/
def findText (files : Files) (finding : Finding) : Text → Text
  | '%' :: c :: rest => findValue files finding c ++ findText files finding rest
  | '\\' :: 'n' :: rest => '\n' :: findText files finding rest
  | '\\' :: 't' :: rest => '\t' :: findText files finding rest
  | '\\' :: '0' :: rest => Text.null :: findText files finding rest
  | '\\' :: c :: rest => c :: findText files finding rest
  | c :: rest => c :: findText files finding rest
  | [] => []

/-- The kinds that an argument of `-type` names. -/
def kindsOf (text : Text) : Except Text (List Char) :=
  let known (c : Char) : Except Text Char :=
    if ("bcdpflsD" : Text).elem c then .ok c else .error ("Unknown argument to -type: " ++ [c])
  match text with
  | [] => .error "Arguments to -type should contain at least one letter"
  | c :: rest =>
    if !("bcdpflsD" : Text).elem c then .error ("Unknown argument to -type: " ++ [c])
    else match rest with
      | [] => .ok [c]
      | ',' :: next :: more =>
        (((next :: more).filter (· ≠ ',')).mapM known).map (c :: ·)
      | _ => .error "Must separate multiple arguments to -type using: ','"

/-- What a criterion with one argument is, if there is one of that name. -/
def valuedCriterion? (job : Job) (name value : Text) : Option (Except Text Criterion) :=
  let invalid : Text := "invalid argument \x60" ++ value ++ "' to \x60" ++ name ++ "'"
  let test (test : Finding → Bool) : Except Text Criterion := .ok (.holds fun _ => test)
  let compared (value? : Option (Nat → Bool)) (of : Finding → Nat) : Except Text Criterion :=
    match value? with
    | some compare => test fun finding => compare (of finding)
    | none => .error invalid
  let lower (text : Text) : Text := text.map Char.toLower
  let age (unit : Nat) (finding : Finding) : Nat :=
    (job.files.now - finding.node.modified) / 1000000000 / unit
  let pattern := programPattern value
  let newer (follows : Bool) : Except Text Criterion :=
    match job.visible.findLink follows job.dir value with
    | .ok (_, node) => test fun finding => node.modified < finding.node.modified
    | .error error => .error (quoted value ++ ": " ++ error.reason)
  if name = "-name" then some (test fun finding => pattern.accepts (lastName finding.name))
  else if name = "-iname" then
    let pattern := programPattern (lower value)
    some (test fun finding => pattern.accepts (lower (lastName finding.name)))
  else if name = "-path" || name = "-wholename" then
    some (test fun finding => pattern.accepts finding.name)
  else if name = "-ipath" || name = "-iwholename" then
    let pattern := programPattern (lower value)
    some (test fun finding => pattern.accepts (lower finding.name))
  else if name = "-lname" then
    some (test fun finding => match finding.node.kind with
      | .link target => pattern.accepts target
      | _ => false)
  else if name = "-regex" then
    some (match Regex.read ⟨false, false, false, true⟩ value with
      | .ok regex => test fun finding =>
        ((regex.matchStart? finding.name).map fun found => found.text.length) =
          some finding.name.length
      | .error fault => .error fault.message)
  else if name = "-type" || name = "-xtype" then
    some ((kindsOf value).bind fun kinds =>
      test fun finding => kinds.elem (findLetter finding.node))
  else if name = "-size" then
    some (match sizeComparison? value with
      | some compare => test fun finding => compare (sizeOf finding.node)
      | none => match value.getLast? with
        | some c => .error (if ("bcwkMG" : Text).elem c || c.isDigit then
            "Invalid argument \x60" ++ value ++ "' to -size"
          else "invalid -size type \x60" ++ [c] ++ "'")
        | none => .error "invalid null argument to -size")
  else if name = "-perm" then
    some (match permissionTest? value with
      | some accepts => test fun finding => accepts finding.node.permissions
      | none => .error ("invalid mode " ++ quoted value))
  else if name = "-newer" then some (newer true)
  else if name = "-mtime" || name = "-ctime" || name = "-atime" then
    some (compared (comparison? value) (age 86400))
  else if name = "-mmin" || name = "-cmin" || name = "-amin" then
    some (compared (comparison? value) (age 60))
  else if name = "-links" then some (match comparison? value with
    | some compare => .ok (.holds fun files finding =>
      compare (namesOf files finding.path finding.node))
    | none => .error invalid)
  else if name = "-inum" then some (match comparison? value with
    | some compare => .ok (.holds fun files finding =>
      compare ((files.number? finding.path).getD 0))
    | none => .error invalid)
  else if name = "-samefile" then some (match job.visible.findLink false job.dir value with
    | .ok (path, _) => .ok (.holds fun files finding =>
      files.number? path == files.number? finding.path)
    | .error error => .error (quoted value ++ ": " ++ error.reason))
  else if name = "-user" || name = "-uid" || name = "-group" || name = "-gid" then
    some (if value = "root" || value = "0" then test fun _ => true
      else if (natural? value).isSome then test fun _ => false
      else .error (quoted value ++ " is not the name of a known user"))
  else if name = "-printf" then
    some (.ok (.print fun files finding => findText files finding value))
  else none

/-- What a criterion without arguments is, if there is one of that name. -/
def plainCriterion? (name : Text) : Option Criterion :=
  let test (test : Finding → Bool) : Option Criterion := some (.holds fun _ => test)
  if name = "-print" then some (.print fun _ finding => finding.name ++ ['\n'])
  else if name = "-print0" then some (.print fun _ finding => finding.name ++ [Text.null])
  else if name = "-true" || name = "-noleaf" || name = "-xdev" || name = "-mount" ||
      name = "-daystart" || name = "-nowarn" || name = "-warn" then test fun _ => true
  else if name = "-false" || name = "-nouser" || name = "-nogroup" then test fun _ => false
  else if name = "-empty" then some (.holds fun files finding => match finding.node.kind with
    | .file content => content.isEmpty
    | .directory => (files.children finding.path).isEmpty
    | _ => false)
  else if name = "-readable" || name = "-writable" then test fun _ => true
  else if name = "-executable" then test fun finding =>
    finding.node.isDirectory || finding.node.isExecutable
  else if name = "-prune" then some .prune
  else if name = "-quit" then some .quit
  else if name = "-delete" then some .delete
  else none

/-- Whether an argument does not name a place where a search starts. -/
def isPartOfRequest (isFirst : Bool) (text : Text) : Bool := match text with
  | '-' :: _ :: _ => true
  | ['('] | ['!'] => true
  | [')'] | [','] => !isFirst
  | _ => false

/-- The complaint about an argument that is missing. -/
def lacking (name : Text) : Text := "missing argument to \x60" ++ name ++ "'"

/-- Stops with a complaint. -/
def wrong {α : Type} (text : Text) : Except Text α := .error text

/-- Reads the command of `-exec` and the like up to its end, and gives what comes after that. -/
def readCommandOf (name : Text) (rest : List Text) :
    Except Text (List Text × Bool × List Text) := do
  let rec split (before : Option Text) : List Text → Option (List Text × Bool × List Text)
    | [] => none
    | word :: rest =>
      if word = ";" then some ([], false, rest)
      else if word = "+" && before = some placeMark then some ([], true, rest)
      else (split (some word) rest).map fun (words, rest) => (word :: words, rest)
  match split none rest with
  | none => wrong (lacking name)
  | some ([], _, _) => wrong ("invalid argument \x60;' to \x60" ++ name ++ "'")
  | some found => return found

/-- Reads one part after another. -/
def readRequest (job : Job) : Nat → Request → List Text → Except Text Request
  | 0, request, _ => return request
  | _, request, [] => return request
  | bound + 1, request, name :: rest => do
    let go (request : Request) (rest : List Text) := readRequest job bound request rest
    let add (part : Part) : Request := { request with parts := part :: request.parts }
    let depth (use : Nat → Request) : Except Text Request := do
      match rest with
      | [] => wrong (lacking name)
      | value :: rest =>
        match natural? value with
        | some n => go (use n) rest
        | none =>
          let wanted : Text := "Expected a positive decimal integer argument to "
          wrong (wanted ++ name ++ ", but got " ++ quoted value)
    if name = "(" then go (add .opening) rest
    else if name = ")" then go (add .closing) rest
    else if name = "!" || name = "-not" then go (add (.not name)) rest
    else if name = "-a" || name = "-and" then go (add (.and name)) rest
    else if name = "-o" || name = "-or" then go (add (.or name)) rest
    else if name = "," then go (add .comma) rest
    else if name = "-maxdepth" then depth fun n => { add truth with most := some n }
    else if name = "-mindepth" then depth fun n => { add truth with least := n }
    else if name = "-depth" || name = "-d" then go { add truth with isInwards := true } rest
    else if name = "-exec" || name = "-execdir" || name = "-ok" then
      let (command, isMany, rest) ← readCommandOf name rest
      if isMany && name ≠ "-ok" then
        let others := command.dropLast.filter fun word =>
          replaceMark placeMark [] word.length word ≠ word
        if others.elem placeMark then
          wrong ("Only one instance of \x7b\x7d is supported with " ++ name ++ " ... +")
        let number := request.programs.length
        go { add (.criterion (.keep number)) with
          acts := true, programs := command.dropLast :: request.programs } rest
      else go { add (.criterion (.run (name = "-ok") command)) with acts := true } rest
    else match plainCriterion? name with
    | some criterion =>
      let acts := request.acts || (name.take 6 = "-print" || name = "-delete" || name = "-quit")
      go { add (.criterion criterion) with
        acts, isInwards := request.isInwards || name = "-delete" } rest
    | none =>
      if !isPartOfRequest false name then
        wrong ("paths must precede expression: \x60" ++ name ++ "'")
      match rest with
      | value :: rest =>
        match valuedCriterion? job name value with
        | some criterion =>
          go { add (.criterion (← criterion)) with
            acts := request.acts || name = "-printf" } rest
        | none => wrong ("unknown predicate \x60" ++ name ++ "'")
      | [] =>
        match valuedCriterion? job name [] with
        | some _ => wrong (lacking name)
        | none => wrong ("unknown predicate \x60" ++ name ++ "'")
where
  /-- A part that always holds. -/
  truth : Part := .criterion (.holds fun _ _ => true)

/-- The complaint about an operator with nothing before it. -/
def nothingBefore (name : Text) : Text :=
  "invalid expression; you have used a binary operator '" ++ name ++ "' with nothing before it."

mutual

/-- Reads criteria between commas; how closely those inside bind is counted by `bound`. -/
def readSequence : Nat → List Part → Except Text (Criterion × List Part)
  | 0, _ => wrong "invalid expression"
  | bound + 1, parts => do
    let (first, rest) ← readEither bound parts
    sequenceAfter bound first rest

/-- Reads what commas add to a criterion. -/
def sequenceAfter : Nat → Criterion → List Part → Except Text (Criterion × List Part)
  | 0, _, _ => wrong "invalid expression"
  | bound + 1, first, .comma :: rest => do
    let (second, rest) ← readEither bound rest
    sequenceAfter bound (.sequence first second) rest
  | _, first, rest => return (first, rest)

/-- Reads criteria of which one has to hold. -/
def readEither : Nat → List Part → Except Text (Criterion × List Part)
  | 0, _ => wrong "invalid expression"
  | bound + 1, parts => do
    let (first, rest) ← readBoth bound parts
    eitherAfter bound first rest

/-- Reads what `-o` adds to a criterion. -/
def eitherAfter : Nat → Criterion → List Part → Except Text (Criterion × List Part)
  | 0, _, _ => wrong "invalid expression"
  | bound + 1, first, .or name :: rest => do
    if rest.isEmpty then wrong ("expected an expression after '" ++ name ++ "'")
    let (second, rest) ← readBoth bound rest
    eitherAfter bound (.either first second) rest
  | _, first, rest => return (first, rest)

/-- Reads criteria all of which have to hold. -/
def readBoth : Nat → List Part → Except Text (Criterion × List Part)
  | 0, _ => wrong "invalid expression"
  | bound + 1, parts => do
    let (first, rest) ← readOne bound parts
    bothAfter bound first rest

/-- Reads what `-a`, or nothing at all, adds to a criterion. -/
def bothAfter : Nat → Criterion → List Part → Except Text (Criterion × List Part)
  | 0, _, _ => wrong "invalid expression"
  | bound + 1, first, parts => match parts with
    | .and name :: rest => do
      if rest.isEmpty then wrong ("expected an expression after '" ++ name ++ "'")
      let (second, rest) ← readOne bound rest
      bothAfter bound (.both first second) rest
    | .criterion _ :: _ | .opening :: _ | .not _ :: _ => do
      let (second, rest) ← readOne bound parts
      bothAfter bound (.both first second) rest
    | rest => return (first, rest)

/-- Reads one criterion. -/
def readOne : Nat → List Part → Except Text (Criterion × List Part)
  | 0, _ => wrong "invalid expression"
  | bound + 1, parts => match parts with
    | .criterion criterion :: rest => return (criterion, rest)
    | .not name :: rest => do
      if rest.isEmpty then wrong ("expected an expression after '" ++ name ++ "'")
      let (criterion, rest) ← readOne bound rest
      return (.negated criterion, rest)
    | [.opening] => wrong ("invalid expression; expected to find a ')' but didn't see one. " ++
        "Perhaps you need an extra predicate after '('")
    | .opening :: .closing :: _ =>
      wrong "invalid expression; empty parentheses are not allowed."
    | .opening :: rest => do
      match ← readSequence bound rest with
      | (criterion, .closing :: rest) => return (criterion, rest)
      | _ => wrong ("invalid expression; I was expecting to find a ')' somewhere but did not " ++
          "see one.")
    | .and name :: _ | .or name :: _ => wrong (nothingBefore name)
    | .comma :: _ => wrong (nothingBefore [','])
    | .closing :: _ => wrong "you have too many ')'"
    | [] => wrong "invalid expression"

end

/-- The criterion that parts make; places are shown if nothing else is done with them. -/
def Request.criterion (request : Request) : Except Text Criterion := do
  let shows : Criterion := .print fun _ finding => finding.name ++ ['\n']
  match request.parts.reverse with
  | [] => return shows
  | parts =>
    match ← readSequence (8 * parts.length + 8) parts with
    | (criterion, []) => return if request.acts then criterion else .both criterion shows
    | _ => wrong "you have too many ')'"

/-! ## The search -/

/-- What a search still has to do with a place. -/
inductive Visit where
  /-- To look at what stands there. -/
  | look (name start : Text) (depth : Nat)
  /-- To decide about it after all that is in it. -/
  | decide (finding : Finding)

/-- Runs the programs that were given many places. -/
def runKept (job : Job) : List (List Text × List Text) → Nat → Activity
  | [], status => .finish status
  | (_, []) :: rest, status => runKept job rest status
  | (command, names) :: rest, status =>
    .run (command ++ names.reverse) job.exports true fun
      | .ok exit => runKept job rest (if exit.status = 0 then status else 1)
      | .error error => job.complain (quoted (command.headD []) ++ ": " ++ error.reason)
          (runKept job rest 1)

/-- Visits one place after another. -/
def visitAll (job : Job) (follows : Bool) (request : Request) (criterion : Criterion) :
    Nat → List Visit → Sweep → Activity
  | 0, _, sweep => .finish sweep.status
  | bound + 1, visits, sweep =>
    let go := visitAll job follows request criterion bound
    let finish (sweep : Sweep) : Activity :=
      runKept job (sweep.kept.map fun (number, names) =>
        ((request.programs.reverse[number]?).getD [], names)) sweep.status
    match if sweep.hasQuit then [] else visits with
    | [] => finish sweep
    | .decide finding :: rest =>
      if finding.depth < request.least then go rest sweep
      else criterion.decide job finding sweep fun _ sweep => go rest sweep
    | .look name start depth :: rest =>
      .change fun files => (files, match files.findLink follows job.dir name with
        | .error error =>
          job.complain (quoted name ++ ": " ++ error.reason) (go rest { sweep with status := 1 })
        | .ok (path, node) =>
          let finding : Finding := ⟨name, start, path, node, depth⟩
          let isOpened := node.isDirectory &&
            (request.most.map fun most => decide (depth < most)).getD true
          let children := if !isOpened then [] else
            ((files.children path).mergeSort textBefore).map fun child =>
              Visit.look (inside name child) start (depth + 1)
          if request.isInwards then go (children ++ .decide finding :: rest) sweep
          else if depth < request.least then go (children ++ rest) sweep
          else criterion.decide job finding sweep fun _ sweep =>
            go (if sweep.isPruned then rest else children ++ rest) { sweep with isPruned := false })

/-- `find` searches for files. -/
def find : Utility := fun job =>
  let isLead (text : Text) : Bool := text = "-H" || text = "-L" || text = "-P"
  let leads := job.arguments.takeWhile isLead
  let arguments := job.arguments.drop leads.length
  let starts := arguments.takeWhile (!isPartOfRequest true ·)
  let request := do
    let request ← readRequest job (arguments.length + 1) ⟨[], 0, none, false, false, []⟩
      (arguments.drop starts.length)
    return (request, ← request.criterion)
  match request with
  | .error text => job.complain text (.finish 1)
  | .ok (request, criterion) =>
    let starts := if starts.isEmpty then [['.']] else starts
    let kept := (List.range request.programs.length).map fun number => (number, [])
    visitAll job (leads.getLast? = some "-L") request criterion Activity.readLimit
      (starts.map fun start => .look start start 0) ⟨0, false, false, kept⟩

end Runbook.Shell.Utility
