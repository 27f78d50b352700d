import Runbook.Shell.Format
import Runbook.Shell.OptionSearch
import Runbook.Shell.Permissions
import Runbook.Shell.Turn

/-!
# Commands of the shell itself

A `Builtin` is a command that the shell carries out in its own process, since it changes the shell
or because that is quicker. Some of them are special: assignments before them stay, and the shell
ends when one of them goes wrong. `Builtin.find?` gives the command of a name.
-/

namespace Runbook.Shell

/-- A command of the shell itself, which is given its arguments. -/
abbrev Builtin := List Text → Act Unit

namespace Builtin

open Act

/-- Refuses arguments: the command fails, or the shell gives up if the command is special. -/
def misused (name text : Text) : Act Unit := do
  let said ← message (name ++ ": " ++ text)
  push (writing 2 said ++ [if (← get).shell.isSpecial then .raise else .settle 2])

/-- The status after nothing went wrong. -/
def done : Act Unit := push [.settle 0]

/-- The letters of the options at the start of arguments, and the arguments after them; the text of
a refusal if a letter is not one of those `known`. -/
def leadingLetters (known : Text) : List Text → Except Text (Text × List Text)
  | ['-', '-'] :: rest => .ok ([], rest)
  | ('-' :: c :: more) :: rest =>
    match (c :: more).find? (!known.elem ·) with
    | some letter => .error ("Illegal option -" ++ [letter])
    | none => (leadingLetters known rest).map fun (letters, rest) => (c :: more ++ letters, rest)
  | rest => .ok ([], rest)

/-- A command with options, which are given to `use` apart from the other arguments. -/
def withOptions (name known : Text) (use : Text → List Text → Act Unit) : Builtin :=
  fun arguments => match leadingLetters known arguments with
  | .ok (letters, rest) => use letters rest
  | .error text => misused name text

/-- A command without options. -/
def withoutOptions (name : Text) (use : Builtin) : Builtin := withOptions name [] fun _ => use

/-- An argument as a name and the value that it assigns, if it does. -/
def splitAssignment (text : Text) : Text × Option Text :=
  let name := text.takeWhile (· ≠ '=')
  (name, if name.length < text.length then some (text.drop (name.length + 1)) else none)

/-- A text between single quotes, from which the shell reads it back. -/
def singleQuoted (text : Text) : Text :=
  '\'' :: text.flatMap (fun c => if c = '\'' then "'\"'\"'" else [c]) ++ ['\'']

/-- A variable as a line that assigns its value. -/
def assignmentLine (start name : Text) (value : Option Text) : Text :=
  start ++ name ++ ((value.map fun value => '=' :: singleQuoted value).getD []) ++ ['\n']

/-! ## Output and conditions -/

/-- `echo` writes its arguments. -/
def echo : Builtin := fun arguments => answer (echoed arguments) 0

/-- `printf` fills a format. -/
def printf : Builtin := withoutOptions "printf" fun arguments => do
  match arguments with
  | [] => misused "printf" "usage: printf format [arg ...]"
  | format :: arguments =>
    let printed := Format.print format arguments
    let messages ← printed.complaints.mapM fun complaint => message ("printf: " ++ complaint)
    let status :=
      if printed.course = .refused then 2 else if printed.complaints.isEmpty then 0 else 1
    push (messages.flatMap (writing 2) ++ writing 1 printed.text ++ [.settle status])

/-- Takes the status that a condition has, or says what is wrong with it. -/
def decided (name : Text) : Except Text Bool → Act Unit
  | .ok holds => push [.settle (if holds then 0 else 1)]
  | .error text => misused name text

/-- Where conditions look files up. -/
def place : Act Condition.Place := do
  let turn ← get
  return ⟨turn.world.visible turn.id, (← process).dir⟩

/-- `test` decides a condition. -/
def test : Builtin := fun arguments => do
  decided "test" (Condition.holds (← place) arguments)

/-- `[` decides a condition, up to a closing bracket. -/
def bracket : Builtin := fun arguments => do
  decided "[" (Condition.holdsBracketed (← place) arguments)

/-! ## Variables -/

/-- Deals with arguments that name or assign variables, up to one that is no name or may not be
changed. -/
def eachVariable (name : Text) (use : Text → Environment → Environment) : List Text → Act Unit
  | [] => done
  | argument :: rest => do
    let (variableName, value) := splitAssignment argument
    if !isName variableName then misused name (variableName ++ ": bad variable name")
    else match value.bind ((← env).refusal? variableName) with
      | some reason => misused name reason
      | none =>
        modifyEnv fun env => use variableName (match value with
          | some value => env.assign variableName value
          | none => env)
        eachVariable name use rest

/-- The lines for the variables that are `shown`. -/
def listing (start : Text) (shown : Variable → Bool) : Act Text := do
  let bindings := (← env).bindings.filter (shown ·.2)
  let sorted := bindings.mergeSort fun a b => textBefore a.1 b.1
  return sorted.flatMap fun (name, entry) => assignmentLine start name entry.value

/-- `export` lets programs see variables. -/
def exports : Builtin := withOptions "export" "p" fun letters names => do
  match (if letters.isEmpty then names else []) with
  | [] => answer (← listing "export " (·.exported)) 0
  | names => eachVariable "export" (fun name env => env.markExported name) names

/-- `readonly` keeps variables from being changed. -/
def readOnly : Builtin := withOptions "readonly" "p" fun letters names => do
  match (if letters.isEmpty then names else []) with
  | [] => answer (← listing "readonly " (·.readOnly)) 0
  | names => eachVariable "readonly" (fun name env =>
      env.put name { (env.find? name).getD ⟨none, false, false⟩ with readOnly := true }) names

/-- `local` keeps variables of a function apart from those outside. -/
def localVariables : Builtin := fun arguments => do
  let shell := (← get).shell
  if !shell.isInFunction && !shell.frames.any isFunction then misused "local" "not in a function"
  else
    let (marks, arguments) := arguments.partition fun argument => argument = ['-']
    let names := arguments.map fun argument => (splitAssignment argument).1
    let saved := names.map fun name => (name, shell.env.find? name)
    let before := shell.frames.takeWhile (!isFunction ·)
    let after := match shell.frames.drop before.length with
      | .leave arguments place others switches :: rest =>
        let kept := if marks.isEmpty then none else some shell.env.switches
        .leave arguments place (saved ++ others) (switches.or kept) :: rest
      | rest => rest
    modifyShell ({ · with frames := before ++ after })
    eachVariable "local" (fun _ env => env) arguments

/-- `unset` forgets variables or functions. -/
def unset : Builtin := withOptions "unset" "vf" fun letters names => do
  if letters.getLast? = some 'f' then
    modifyShell fun shell => { shell with
      functions := shell.functions.filter fun (name, _) => !names.elem name }
    done
  else unsetEach names
where
  /-- Forgets variables one after another, up to one that may not be forgotten. -/
  unsetEach : List Text → Act Unit
    | [] => done
    | argument :: rest => do
      let name := (splitAssignment argument).1
      if !isName name then misused "unset" (name ++ ": bad variable name")
      else match (← env).refusal? name [] with
        | some reason => misused "unset" reason
        | none =>
          modifyEnv (·.unset name)
          unsetEach rest

/-- `set` shows variables, or does what options say and gives the shell new arguments. -/
def set : Builtin := fun arguments => do
  if arguments.isEmpty then answer (← listing [] (·.value.isSome)) 0
  else
    let env ← env
    match Switching.ofArguments env.switches arguments with
    | .error ⟨text, before⟩ =>
      let said ← message ("set: " ++ text)
      modifyEnv ({ · with switches := before.on.filter (· ≠ .monitor) })
      push (writing 2 said ++ writing 1 before.listings ++
        [if (← get).shell.isSpecial then .raise else .settle 2])
    | .ok ⟨on, _, _, listings, rest, isMarked⟩ =>
      let isDenied := on.elem .monitor
      let denial ← message "set: can't access tty; job control turned off"
      modifyEnv fun env =>
        let env := { env with switches := on.filter (· ≠ .monitor) }
        if isMarked || !rest.isEmpty then env.withArguments rest else env
      push (writing 2 (if isDenied then denial else []) ++
        writing 1 listings ++ [.settle 0])

/-- `shift` drops arguments. -/
def shift : Builtin := fun arguments => do
  let env ← env
  match wholeNumber? (arguments.headD ['1']) with
  | none => misused "shift" ("Illegal number: " ++ arguments.headD [])
  | some n =>
    if n > env.arguments.length then misused "shift" "can't shift that many"
    else
      modifyEnv (·.withArguments (env.arguments.drop n))
      done

/-- `getopts` finds the next option among the arguments of the shell or among its own. -/
def nextOption : Builtin := fun given => do
  match given with
  | wanted :: name :: arguments =>
    let env ← env
    let arguments := if arguments.isEmpty then env.arguments else arguments
    let found := env.optionPlace.search wanted arguments
    modifyEnv fun env =>
      let env := if !found.isOption then env else match found.value with
        | some value => env.assign "OPTARG" value
        | none => env.unset "OPTARG"
      let env := env.assign Environment.optionIndex (Text.ofNat found.place.next)
      { env with optionPlace := found.place }
    let failed (reason : Text) : Act Unit := do
      modifyEnv ({ · with optionPlace := .start })
      misused "getopts" (name ++ reason)
    if !isName name then failed ": bad variable name"
    else if env.isReadOnly name then failed ": is read only"
    else modifyEnv fun env =>
      { env.assign name [found.letter] with optionPlace := env.optionPlace }
    push (writing 2 (found.complaint.getD []) ++ [.settle (if found.isOption then 0 else 1)])
  | _ => misused "getopts" "Usage: getopts optstring var [arg...]"

/-- The options of `read`: whether backslashes stand for themselves, and the names behind the
options. -/
def readOptions (raw : Bool) : List Text → Except Text (Bool × List Text)
  | ['-', '-'] :: rest => return (raw, rest)
  | ('-' :: c :: more) :: rest =>
    match (c :: more).find? fun letter => letter ≠ 'r' with
    | none => readOptions true rest
    | some 'p' =>
      let raw := raw || c = 'r'
      if (c :: more).getLast? ≠ some 'p' then readOptions raw rest
      else match rest with
        | _ :: rest => readOptions raw rest
        | [] => .error "No arg for -p option"
    | some letter => .error ("Illegal option -" ++ [letter])
  | rest => return (raw, rest)

/-- `read` reads a line into variables. -/
def read : Builtin := fun arguments =>
  match readOptions false arguments with
  | .error text => misused "read" text
  | .ok (_, []) => misused "read" "arg count"
  | .ok (raw, names) => push [.line names raw ByteArray.empty]

/-- The characters of a line, in which a backslash keeps the one behind it from separating fields
unless the line is `raw`. -/
def lineSpans (raw : Bool) : Text → List Span
  | [] => []
  | '\\' :: c :: rest =>
    if raw then joined '\\' (lineSpans raw (c :: rest))
    else
      let kept : List Span := if c = '\n' then [] else [⟨[.char c true], .fixed⟩]
      splitSpan [] ++ kept ++ splitSpan [] ++ lineSpans raw rest
  | c :: rest => if c = '\\' && !raw then lineSpans raw rest else joined c (lineSpans raw rest)
where
  /-- Spans with one more character at the start. -/
  joined (c : Char) : List Span → List Span
    | ⟨cells, .split⟩ :: rest => ⟨.char c false :: cells, .split⟩ :: rest
    | spans => splitSpan [c] ++ spans

/-- Assigns values to variables one after another, where those behind the last value get none, up to
one that may not be assigned to. What went wrong, if anything, comes last. -/
def fillIn : List Text → List Text → Environment → Environment × Option Text
  | [], _, env => (env, none)
  | name :: names, values, env =>
    let value := values.headD []
    let name := (splitAssignment name).1
    if !isName name then (env, some (name ++ ": bad variable name"))
    else match env.refusal? name value with
      | some reason => (env, some reason)
      | none => fillIn names (values.drop 1) (env.assign name value)

/-- Assigns the fields of a line to variables, and takes a status. -/
def assignLine (names : List Text) (raw : Bool) (line : Text) (status : Nat) : Act Unit := do
  let env ← env
  let found := fields env.separators (some names.length) (lineSpans raw line)
  let (env, fault) := fillIn names (found.map (·.map (·.1))) env
  modifyEnv fun _ => env
  match fault with
  | some reason => misused "read" reason
  | none => push [.settle status]

/-! ## Names of commands -/

/-- An alias as it is shown. -/
def aliasLine (name text : Text) : Text := name ++ '=' :: singleQuoted text ++ ['\n']

/-- Frames that write what `alias` says about each of its arguments, and those of them that it does
not know. -/
def aliasFrames (aliases : List (Text × Text)) : List Text → List Frame × List Text
  | [] => ([], [])
  | argument :: rest =>
    let (frames, missing) := aliasFrames aliases rest
    if (argument.drop 1).elem '=' then (frames, missing)
    else match aliases.lookup argument with
      | some text => (writing 1 (aliasLine argument text) ++ frames, missing)
      | none =>
        (writing 2 ("alias: " ++ argument ++ " not found\n") ++ frames, argument :: missing)

/-- The aliases with those that an argument defines. -/
def withAlias (aliases : List (Text × Text)) (argument : Text) : List (Text × Text) :=
  match argument with
  | [] => aliases
  | c :: rest =>
    if !rest.elem '=' then aliases
    else
      let name := c :: rest.takeWhile (· ≠ '=')
      let text := argument.drop (name.length + 1)
      if aliases.any (·.1 = name) then
        aliases.map fun entry => if entry.1 = name then (name, text) else entry
      else aliases ++ [(name, text)]

/-- `alias` shows aliases or defines them. -/
def defineAliases : Builtin := fun arguments => do
  if arguments.isEmpty then
    let aliases := inBuckets 39 (← get).shell.aliases
    answer (aliases.flatMap fun (name, text) => aliasLine name text) 0
  else
    modifyShell fun shell => { shell with aliases := arguments.foldl withAlias shell.aliases }
    let (frames, missing) := aliasFrames (← get).shell.aliases arguments
    push (frames ++ [.settle (if missing.isEmpty then 0 else 1)])

/-- `unalias` forgets aliases: those with the names that it is given, or all of them. -/
def unalias : Builtin := fun arguments => do
  match arguments with
  | ('-' :: 'a' :: _) :: _ =>
    modifyShell ({ · with aliases := [] })
    done
  | _ => withoutOptions "unalias" (fun names => do
    let missing ← names.filterM fun name => do
      let aliases := (← get).shell.aliases
      modifyShell ({ · with aliases := aliases.filter (·.1 ≠ name) })
      return (aliases.lookup name).isNone
    push (missing.flatMap (fun name => writing 2 ("unalias: " ++ name ++ " not found\n")) ++
      [.settle (if missing.isEmpty then 0 else 1)])) arguments

/-- The programs that are known for the places that are searched now. -/
def located : Act Located := do
  let shell := (← get).shell
  return shell.located.within ((shell.env.value? "PATH").getD [])

/-- Finds the program of a name, and remembers where it is. -/
def locate (name : Text) : Act (Option Text) := do
  let turn ← get
  let known ← located
  if name.elem '/' then return some name
  match turn.world.search? (← process).dir known.places name with
  | some path =>
    modifyShell ({ · with located := known.add name path })
    return some path
  | none => return none

/-! ## The shell -/

/-- The place that names lead to as they are written, from where the shell believes to be. -/
def wander (place : Path) (text : Text) : Path :=
  (Files.names text).foldl (fun (place : Path) (name : Text) =>
    if name = "." then place else if name = ".." then place.dropLast else place ++ [name])
    (Files.startOf place text)

/-- Goes to the directory that a text means, whose place is that of the directory itself if
`isPhysical`. Whether that has worked is told. -/
def goTo (isPhysical : Bool) (text : Text) : Act Bool := do
  let shell := (← get).shell
  let wanted := wander shell.place text
  let files ← visible
  let dir := (← process).dir
  match if isPhysical then files.find dir text else files.find [] (Files.pathText wanted) with
  | .ok (dir, ⟨.directory, _, _⟩) =>
    let place := if isPhysical then dir else wanted
    modifyProcess ({ · with dir })
    modifyShell fun shell => { shell with
      place
      env :=
        let env := (shell.env.assign "OLDPWD" (Files.pathText shell.place)).markExported "OLDPWD"
        (env.assign "PWD" (Files.pathText place)).markExported "PWD" }
    return true
  | _ => return false

/-- Whether a text means a place by itself, and not one in the places to look in. -/
def isDirect (text : Text) : Bool := match text with
  | '/' :: _ | ['.'] | '.' :: '/' :: _ | ['.', '.'] | '.' :: '.' :: '/' :: _ => true
  | _ => false

/-- `cd` goes to another directory, which may be in one of the places to look in. -/
def cd : Builtin := withOptions "cd" "LP" fun letters given => do
  let env ← env
  let isPhysical := letters.getLast? = some 'P'
  let isBack := given.head? = some "-"
  let wanted := if isBack then (env.value? "OLDPWD").getD []
    else given.headD ((env.value? "HOME").getD [])
  let wanted := if wanted.isEmpty then ['.'] else wanted
  let places := if isDirect wanted then []
    else ((env.value? "CDPATH").map (Text.pieces ':')).getD []
  let texts := places.map fun place =>
    (if place.isEmpty then wanted else place ++ '/' :: wanted, !place.isEmpty)
  let files ← visible
  let dir := (← process).dir
  let (text, isNamed) := (texts.find? fun (text, _) => files.isDirectory dir text).getD
    (wanted, false)
  if ← goTo isPhysical text then
    let place := (← get).shell.place
    answer (if isBack || isNamed then Files.pathText place ++ ['\n'] else []) 0
  else misused "cd" ("can't cd to " ++ wanted)

/-- `pwd` says in which directory the shell is. -/
def pwd : Builtin := withOptions "pwd" "LP" fun letters _ => do
  let dir := (← process).dir
  let place := (← get).shell.place
  let place := if letters.getLast? = some 'P' then dir else place
  answer (Files.pathText place ++ ['\n']) 0

/-- Frames that run commands for a command of the shell, whose errors are its own unless it is
special. -/
def running (frames : List Frame) : Act (List Frame) := do
  return if (← get).shell.isSpecial then frames else frames ++ [.shield]

/-- `eval` runs its arguments as a script. -/
def eval : Builtin := fun arguments => do
  let shell := (← get).shell
  let input := Input.ofText (List.intercalate [' '] arguments)
  match nextCommand input with
  | .ok none => done
  | _ =>
    modifyShell ({ · with within := "eval" })
    push (← running [.read input, .leaveText shell.within])

/-- `.` runs the commands in a file. A name without a slash is looked for where programs are. -/
def source : Builtin := withoutOptions "." fun arguments => do
  let places := ((← env).value? "PATH").getD []
  let process ← process
  let turn ← get
  match arguments with
  | [] => done
  | name :: _ =>
    let isHere := name.elem '/'
    let paths := if isHere then [name] else
      (World.candidates places name).filter (turn.world.files.isFile process.dir ·)
    let run (frame : Frame) : Act Unit := do
      modifyShell ({ · with within := name })
      enter (← running [frame, .leaveText turn.shell.within, .leaveFile])
    match paths.head?.map (turn.world.reading process) with
    | some (.ok (.descriptor descriptor)) => run (.load descriptor ByteArray.empty)
    | some (.ok (.text text)) =>
      match nextCommand (.ofText text) with
      | .ok none => done
      | _ => run (.read (.ofText text))
    | some (.error error) => misused "." (World.openingMessage false name error)
    | none => misused "." (name ++ ": not found")

/-- Reads the status that a command is given, if it is given one. -/
def statusArgument (name : Text) (arguments : List Text) (next : Nat → Act Unit) : Act Unit := do
  match arguments with
  | [] => next (← env).status
  | text :: _ => match wholeNumber? text with
    | some n => next n
    | none => misused name ("Illegal number: " ++ text)

/-- The status from before the action of a signal, or of the end, if one is under way. -/
def statusBefore? (frames : List Frame) : Option Nat := frames.findSome? fun
  | .handled status | .quit status => some status
  | _ => none

/-- `exit` ends the shell. -/
def exit : Builtin := fun arguments => do
  match arguments, statusBefore? (← get).shell.frames with
  | [], some status => leaveShell status
  | arguments, _ => statusArgument "exit" arguments leaveShell

/-- `return` leaves a function or a file of commands, or else the shell. -/
def leaveCall : Builtin := fun arguments => statusArgument "return" arguments fun status => do
  setStatus status
  unwind isCall

/-- Reads how many loops are meant. -/
def loopCount (name : Text) (arguments : List Text) (next : Nat → Act Unit) : Act Unit :=
  match arguments with
  | [] => next 1
  | text :: _ => match wholeNumber? text with
    | some (n + 1) => next (n + 1)
    | _ => misused name ("Illegal number: " ++ text)

/-- `break` leaves loops. -/
def leaveLoop : Builtin := fun arguments => loopCount "break" arguments fun n => do
  setStatus 0
  leaveLoops n

/-- `continue` starts a loop over again, after leaving those inside it. -/
def continueLoop : Builtin := fun arguments => loopCount "continue" arguments fun n => do
  setStatus 0
  leaveLoops (min n (loopsAround (← get).shell) - 1)
  let shell := (← get).shell
  if insideLoop shell.frames then
    unwind isLoop
    modifyShell fun shell => { shell with frames := match shell.frames with
      | .check untilTrue condition body last :: rest =>
        .run condition :: .check untilTrue condition body last :: rest
      | frames => frames }
  else if loopsAround shell > 0 then unwind fun _ => false

/-! ## Signals and processes -/

/-- The name of a signal, or of the end of the shell. -/
def signalName (signal : Nat) : Text :=
  if signal = 0 then "EXIT" else (signalNames[signal - 1]?).getD (Text.ofNat signal)

/-- Sets the actions of signals, or resets them if there is no action. -/
def setActions (action : Option Text) : List Text → Act Unit
  | [] => done
  | name :: rest => do
    match signalOf? name with
    | none => push (writing 2 ("trap: " ++ name ++ ": bad trap\n") ++ [.settle 1])
    | some signal =>
      modifyShell fun shell => { shell with traps := match action with
        | some text => setKey signal text shell.traps
        | none => dropKey signal shell.traps }
      modifyProcess fun process =>
        let others := process.ignored.filter (· ≠ signal)
        { process with ignored := if action = some [] then signal :: others else others }
      setActions action rest

/-- `trap` says what is done about signals. -/
def trap : Builtin := withoutOptions "trap" fun arguments => do
  match arguments with
  | [] =>
    let traps := (← get).shell.traps.mergeSort fun a b => a.1 ≤ b.1
    answer (traps.flatMap fun (signal, action) =>
      "trap -- " ++ singleQuoted action ++ " " ++ signalName signal ++ ['\n']) 0
  | [name] => setActions none [name]
  | action :: names =>
    if action = "-" then setActions none names
    else if !action.isEmpty && action.all Char.isDigit then setActions none (action :: names)
    else setActions (some action) names

/-- The job that a text means. -/
def jobOf (jobs : List BackgroundJob) (text : Text) : Except Text BackgroundJob :=
  let first (jobs : List BackgroundJob) (otherwise : Text) : Except Text BackgroundJob :=
    match jobs with
    | job :: _ => .ok job
    | [] => .error otherwise
  let missing : Text := "No such job: " ++ text
  match text with
  | ['%'] | ['%', '%'] | ['%', '+'] => first jobs "No current job"
  | ['%', '-'] => first (jobs.drop 1) "No previous job"
  | '%' :: digits => match natural? digits with
    | some n => first (jobs.filter (·.number = n)) missing
    | none => .error missing
  | _ => .error missing

/-- The process that a text means, or the group of processes if the number is negative: a number, or
a job behind a percent sign. -/
def targetOf (jobs : List BackgroundJob) (text : Text) : Except Text Int :=
  if text.head? = some '%' then
    (jobOf jobs text).map fun job => -(job.processes.headD 0 : Int)
  else match processNumber? text with
    | some n => .ok n
    | none => .error ("Illegal number: " ++ text.dropWhile (· == '-'))

/-- Sends a signal to processes one after another; `status` is that of those before. -/
def sendTo (signal : Nat) : List Text → Nat → List Frame → Act Unit
  | [], status, messages => push (messages ++ [.settle status])
  | target :: rest, status, messages => do
    let turn ← get
    let process ← process
    match targetOf turn.shell.jobs target with
    | .error text =>
      misused "kill" text
      push messages
    | .ok n =>
      let n := if n = 0 then -(process.group : Int) else n
      let found ← make (World.signalAll · n signal process.time)
      if found then sendTo signal rest status messages
      else sendTo signal rest 1 (messages ++ writing 2 (← message "kill: No such process\n"))

/-- What is asked of `kill`. -/
structure KillRequest where
  listing : Bool
  signal : Nat
  targets : List Text

/-- Reads the options of `kill`. -/
def readKill (request : KillRequest) : List Text → Except Text KillRequest
  | ['-', '-'] :: rest => return { request with targets := rest }
  | ('-' :: c :: more) :: rest =>
    let listing := request.listing || c = 'l'
    match (c :: more).dropWhile (· == 'l'), rest with
    | [], rest => readKill { request with listing } rest
    | ['s'], [] => .error "No arg for -s option"
    | ['s'], name :: rest => do
      readKill { request with listing, signal := ← signalGiven name } rest
    | 's' :: name, rest => do
      readKill { request with listing, signal := ← signalGiven name } rest
    | letter :: _, _ => .error ("Illegal option -" ++ [letter])
  | rest => return { request with targets := rest }
where
  /-- The signal of an option. -/
  signalGiven (name : Text) : Except Text Nat :=
    match signalOf? name with
    | some signal => .ok signal
    | none => .error ("invalid signal number or name: " ++ name)

/-- The name of a signal that is given by its number, or by the status of a process that it ended.
-/
def listedSignal (text : Text) : Except Text Text :=
  match wholeNumber? text with
  | none => .error ("Illegal number: " ++ text)
  | some n =>
    let signal := if n > 128 then n - 128 else n
    if 0 < signal && signal ≤ lastSignal then .ok (signalName signal ++ ['\n'])
    else .error ("invalid signal number or exit status: " ++ text)

/-- `kill` sends a signal to processes, or names signals. -/
def kill : Builtin := fun arguments => do
  let request : Except Text KillRequest := match arguments with
    | ('-' :: text) :: rest => match signalOf? text with
      | some signal => .ok ⟨false, signal, rest⟩
      | none => readKill ⟨false, sigTerm, []⟩ arguments
    | targets => .ok ⟨false, sigTerm, targets⟩
  match request with
  | .error text => misused "kill" text
  | .ok ⟨true, _, []⟩ => answer (Text.unlines (['0'] :: signalNames)) 0
  | .ok ⟨true, _, text :: _⟩ => match listedSignal text with
    | .ok name => answer name 0
    | .error text => misused "kill" text
  | .ok ⟨false, _, []⟩ =>
    misused "kill"
      "Usage: kill [-s sigspec | -signum | -sigspec] [pid | job]... or\nkill -l [exitstatus]"
  | .ok ⟨false, signal, targets⟩ => sendTo signal targets 0 []

/-- The job that `wait` is to wait for, if the text names one that is known. -/
def awaited (jobs : List BackgroundJob) (text : Text) : Except Text (Option BackgroundJob) :=
  if text.head? = some '%' then (jobOf jobs text).map some
  else match wholeNumber? text with
    | some n => .ok (jobs.find? (·.last = n))
    | none => .error ("Illegal number: " ++ text)

/-- `wait` waits for processes in the background. -/
def wait : Builtin := withoutOptions "wait" fun arguments => do
  let jobs := (← get).shell.jobs
  match arguments with
  | [] => push [.attend (jobs.flatMap (·.processes)) none]
  | targets =>
    match targets.mapM (awaited jobs) with
    | .error text => misused "wait" text
    | .ok found =>
      let last := (found.getLast?.bind fun job => job).map BackgroundJob.last
      push [.attend ((found.filterMap fun job => job).flatMap (·.processes)) (some (last.getD 0))]

/-- How a job stands. -/
def jobState (world : World) (job : BackgroundJob) : Text :=
  if job.processes.any fun id => (world.exit? id).isNone then "Running"
  else match world.exit? job.last with
    | some (.exited 0) | none => "Done"
    | some (.exited status) => "Done(" ++ Text.ofNat status ++ ")"
    | some (.signalled signal) => signalMessage signal

/-- A job as it is shown among all jobs: the first of them has a plus sign and the second one a
minus sign. -/
def jobLine (world : World) (jobs : List BackgroundJob) (withProcesses : Bool)
    (job : BackgroundJob) : Text :=
  let isAt (i : Nat) : Bool := (jobs[i]?.map (·.number)) = some job.number
  let mark := if isAt 0 then '+' else if isAt 1 then '-' else ' '
  let start : Text := "[" ++ Text.ofNat job.number ++ "] " ++ [mark, ' ']
  let named (id : Nat) : Text := Text.ofNat id ++ [' ']
  let shown := start ++ (if withProcesses then named (job.processes.headD 0) else []) ++
    jobState world job
  let padding := List.replicate (max 1 (33 - shown.length)) ' '
  let others := job.processes.drop 1
  let behind := if withProcesses then
      others.flatMap fun id =>
        let start := " |\n" ++ List.replicate start.length ' ' ++ named id
        start ++ List.replicate (max 1 (36 - start.length)) ' '
    else others.flatMap fun _ => " | "
  shown ++ padding ++ behind ++ ['\n']

/-- Shows jobs one after another, and forgets those that are over. -/
def showJobs (withProcesses : Bool) (said : Text) : List BackgroundJob → Act Text
  | [] => return said
  | job :: rest => do
    let turn ← get
    let line := jobLine turn.world turn.shell.jobs withProcesses job
    if job.processes.all fun id => (turn.world.exit? id).isSome then
      modifyWorld fun world => job.processes.foldl World.forget world
      modifyShell fun shell => { shell with
        jobs := shell.jobs.filter (·.number ≠ job.number) }
    showJobs withProcesses (said ++ line) rest

/-- `jobs` shows what was started in the background. -/
def showBackground : Builtin := withOptions "jobs" "lp" fun letters names => do
  noteEnds
  let jobs := (← get).shell.jobs
  match names.mapM (jobOf jobs) with
  | .error text => misused "jobs" text
  | .ok chosen =>
    let chosen := if names.isEmpty then jobs else chosen
    if letters.elem 'p' then
      answer (Text.unlines (chosen.map fun job => Text.ofNat (job.processes.headD 0))) 0
    else answer (← showJobs (letters.elem 'l') [] chosen) 0

/-! ## Odds and ends -/

/-- The permissions of one kind of user in words. -/
def permitted (mask : Nat) (user : User) : Text :=
  let bits := 7 - Permissions.ofUser mask user
  (if bits / 4 % 2 = 1 then ['r'] else []) ++ (if bits / 2 % 2 = 1 then ['w'] else []) ++
    (if bits % 2 = 1 then ['x'] else [])

/-- `umask` shows or sets the permissions that new files are not given. -/
def umask : Builtin := withOptions "umask" "S" fun letters arguments => do
  let mask := (← process).mask
  match arguments with
  | [] =>
    let inWords : Text := "u=" ++ permitted mask .owner ++ ",g=" ++ permitted mask .group ++
      ",o=" ++ permitted mask .others
    answer ((if letters.isEmpty then Permissions.digits mask else inWords) ++ ['\n']) 0
  | text :: _ =>
    if (text.head?.map Char.isDigit).getD false then
      if text.all isOctal then
        modifyProcess ({ · with mask := Text.numeralValueIn 8 text % 512 })
        done
      else misused "umask" ("Illegal number: " ++ text)
    else if text.isEmpty then done
    else
      let body := if text.getLast? = some ',' then text.dropLast else text
      match Permissions.readWords? body with
      | some amendments =>
        let permissions := Permissions.amendAll 0 amendments (511 - mask)
        modifyProcess ({ · with mask := 511 - (permissions &&& 511) })
        done
      | none => misused "umask" ("Illegal mode: " ++ text)

/-- `ulimit` shows a limit, or sets one. None of them is in force, but there are no core dumps. -/
def ulimit : Builtin := withOptions "ulimit" "HSatfdscmlpnvwr" fun letters arguments =>
  match arguments with
  | [] => answer (if letters.getLast? = some 'c' then "0\n" else "unlimited\n") 0
  | [limit] =>
    if limit.all Char.isDigit || limit = "unlimited" then done else misused "ulimit" "bad number"
  | _ => misused "ulimit" "too many arguments"

/-- `fg` and `bg` want a job of a terminal, of which there is none. -/
def resumeJob (name : Text) : Builtin := withoutOptions name fun arguments => do
  let jobs := (← get).shell.jobs
  match (jobOf jobs (arguments.headD ['%'])).map fun _ => arguments.headD "(null)" with
  | .ok called => misused name ("job " ++ called ++ " not created under job control")
  | .error text => misused name text

/-- `times` says how long the shell has been busy. -/
def times : Builtin := fun _ => answer "0m0.000000s 0m0.000000s\n0m0.000000s 0m0.000000s\n" 0

/-- The commands that end the shell when they go wrong. -/
def special : List (String × Builtin) := [
  (":", fun _ => done), (".", source), ("break", leaveLoop), ("continue", continueLoop),
  ("eval", eval), ("exit", exit), ("export", exports), ("local", localVariables),
  ("readonly", readOnly), ("return", leaveCall), ("set", set), ("shift", shift), ("times", times),
  ("trap", trap), ("unset", unset)]

/-- The commands that do not end the shell when they go wrong. -/
def regular : List (String × Builtin) := [
  ("[", bracket), ("alias", defineAliases), ("bg", resumeJob "bg"), ("cd", cd), ("chdir", cd),
  ("echo", echo), ("false", fun _ => push [.settle 1]), ("fg", resumeJob "fg"),
  ("getopts", nextOption), ("jobs", showBackground), ("kill", kill), ("printf", printf),
  ("pwd", pwd), ("read", read), ("test", test), ("true", fun _ => done), ("ulimit", ulimit),
  ("umask", umask), ("unalias", unalias), ("wait", wait)]

/-- The special command of a name. -/
def special? (name : Text) : Option Builtin :=
  (special.find? fun (known, _) => known.toList = name).map (·.2)

/-- The command of a name that is not a special one. -/
def regular? (name : Text) : Option Builtin :=
  (regular.find? fun (known, _) => known.toList = name).map (·.2)

/-- Whether a name is that of a command of the shell itself. -/
def isBuiltin (name : Text) : Bool :=
  (special? name).isSome || (regular? name).isSome ||
    (["command", "exec", "hash", "type"] : List Text).elem name

end Builtin

end Runbook.Shell
