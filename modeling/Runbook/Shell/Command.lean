import Runbook.Shell.Builtin

/-!
# Running scripts

`Act.begin` starts to run a script. The words of a simple command are worked out first, and so are
the targets of its redirections; `apply` puts these in force and works out what is assigned before
the command, and `launch` runs it. A simple command is then a command of the shell itself, a
function or a program, looked for in this order except that functions come before the commands that
are not special. Its first fields may say that it is to be looked for in another way: a `Lead`.

A program is run in a process of its own, unless the shell has nothing left to do but that.
-/

namespace Runbook.Shell.Act

open Builtin

/-! ## Words of a command -/

/-- What the first fields of a command say about how it is looked for. -/
structure Lead where
  /-- How many of the fields only say that. -/
  length : Nat
  /-- Whether functions are left out. -/
  isPlain : Bool
  /-- The places to search, if not those where the shell looks by itself. -/
  places : Option Text
  /-- Whether the field behind them is the name, whatever else follows. -/
  isClosed : Bool

/-- What comes of fields behind a word that changes how a command is looked for. -/
inductive LeadOptions where
  /-- So many fields are options, and a name is behind them. -/
  | named (length : Nat) (places : Option Text)
  /-- There is no name yet. -/
  | unnamed
  /-- Something else is asked for than to run a command. -/
  | others

/-- Reads the options behind a word that changes how a command is looked for; `length` is how many
have been read. -/
def readLeadOptions (length : Nat) (places : Option Text) : List Text → LeadOptions
  | [] => .unnamed
  | ['-', '-'] :: rest => if rest.isEmpty then .unnamed else .named (length + 1) places
  | ('-' :: c :: more) :: rest =>
    if (c :: more).all (· == 'p') then
      readLeadOptions (length + 1) (some World.defaultSearch) rest
    else .others
  | _ :: _ => .named length places

/-- What fields say about how a command is looked for, given what those before them say. There are
at most `bound` fields. -/
def Lead.read (isFunction : Text → Bool) : Nat → Lead → List Text → Lead
  | bound + 1, lead, name :: rest =>
    if name ≠ "command" || (!lead.isPlain && isFunction name) then { lead with isClosed := true }
    else match readLeadOptions 0 lead.places rest with
      | .others => { lead with isClosed := true }
      | .unnamed => lead
      | .named length places =>
        read isFunction bound ⟨lead.length + 1 + length, true, places, false⟩ (rest.drop length)
  | _, lead, _ => lead

/-- What the fields of a command say about how it is looked for. -/
def Lead.ofFields (isFunction : Text → Bool) (fields : List Text) : Lead :=
  read isFunction fields.length ⟨0, false, none, false⟩ fields

/-- Whether the arguments of a command may assign variables. -/
def declares (name : Text) : Bool :=
  (["alias", "export", "local", "readonly"] : List Text).elem name

/-- The fields of the words of a command, of which some are known. -/
def expandCommand (isFunction : Text → Bool) (fields : List Text) :
    List Word → Expansion (List Text)
  | [] => return fields
  | word :: rest => do
    let lead := Lead.ofFields isFunction fields
    if lead.isClosed then
      let name := (fields.drop lead.length).headD []
      let isHidden := !lead.isPlain && isFunction name
      let more ← if declares name && !isHidden then expandDeclared assignment? (word :: rest)
        else expandWords (word :: rest)
      return fields ++ more
    else expandCommand isFunction (fields ++ (← expandWord word)) rest

/-! ## Redirections -/

/-- The target of a redirection: a copy of a descriptor wants its number. -/
def expandTarget (kind : RedirectKind) (word : Word) : Expansion Text := do
  match kind with
  | .duplicate =>
    match (← expandWord word).headD [] with
    | [c] => if c.isDigit || c = '-' then return [c] else Expansion.misread badNumber
    | _ => Expansion.misread badNumber
  | _ => expandText word
where
  /-- Why a text means no descriptor. -/
  badNumber : Text := "Syntax error: Bad fd number"

/-- The changes of descriptors that redirections ask for. -/
def expandRedirects : List Redirect → Expansion (List Change)
  | [] => return []
  | .mk descriptor .document word :: rest =>
    return ⟨descriptor, .document, [], false, some word⟩ :: (← expandRedirects rest)
  | .mk descriptor kind target :: rest => do
    let text ← expandTarget kind target
    let keeps := (← Expansion.env).isOn .noClobber
    return ⟨descriptor, kind, text, keeps, none⟩ :: (← expandRedirects rest)

/-- A frame that undoes redirections, if there is something to undo. -/
def restoring (saved : Saved) : List Frame := if saved.isEmpty then [] else [.restore saved]

/-! ## Assignments -/

/-- Assigns values to variables one after another, which are exported if so wanted, and gives the
values. -/
def assignAll (isExported : Bool) : List (Text × Word) → Expansion (List (Text × Text))
  | [] => return []
  | (name, word) :: rest => do
    let value ← expandText word
    assign name value
    if isExported then Expansion.modifyEnv (·.markExported name)
    return (name, value) :: (← assignAll isExported rest)

/-- What stands before everything that the shell shows of commands, and the fault for which it
stands for itself, if there is one. Nothing is shown of what it takes to work it out. -/
def traceMark : Expansion (Text × Option Text) := do
  let text := ((← Expansion.env).value? "PS4").getD []
  match documentWord text with
  | .error error => return (text, some ("Syntax error: " ++ error.problem.message))
  | .ok word =>
    let before := (← Expansion.env).switches
    Expansion.modifyEnv fun env => { env with switches := Switch.turn env.switches .trace false }
    let mark ← Expansion.attempt (expandText word)
    Expansion.modifyEnv ({ · with switches := before })
    match mark with
    | .ok mark => return (mark, none)
    | .error fault => return (text, some fault.reason)

/-- What the shell shows of a command before it runs it, if it does, to the descriptor `shown`;
`remarkOn` makes a message of a fault. -/
def traceFrames (remarkOn : Text → Text) (shown : Nat) (values : List (Text × Text))
    (words : List Text) : Expansion (List Frame) := do
  if !(← Expansion.env).isOn .trace then return []
  let (mark, fault) ← traceMark
  let assigned := values.map fun (name, value) => name ++ '=' :: value
  let line := mark ++ List.intercalate [' '] (assigned ++ words) ++ ['\n']
  return writing 2 ((fault.map remarkOn).getD []) ++ writing shown line

/-! ## Programs -/

/-- What the shell says if the program of a name cannot be run. -/
def notRun (name : Text) (error : SystemError) : Text :=
  if error = .notFound || error = .notDirectory then name ++ ": not found"
  else name ++ ": " ++ error.reason

/-- The places where the shell looks for programs. -/
def places (command : Simple) : Act Text := do
  return command.places.getD (((← env).value? "PATH").getD [])

/-- What becomes of a process that is to run a program; `start` is how a message begins. -/
def programBody (start : Text) (places : Text) (words : List Text) : Act Body := do
  let exports := (← env).exports
  return .program words exports (some places) fun error =>
    start ++ notRun (words.headD []) error

/-- Runs a program in a process of its own, unless the shell has nothing left to do but that. Where
a name without a directory is looked for is known to the shell, which says itself that there is no
such program. -/
def runProgram (command : Simple) : Act Unit := do
  let name := command.words.headD []
  if command.places.isNone then
    let _ ← locate name
  let places ← places command
  let process ← process
  let found := (← get).world.program? process.dir places name
  match found, name.elem '/' with
  | .error error, false =>
    push (writing 2 (← remark (notRun name error)) ++ [.settle (World.failureStatus name error)])
  | _, _ =>
    let body ← programBody ((← remark []).dropLast) places command.words
    let delay := if found.isOk then loadTime else 0
    if ← isLast then turnInto body delay
    else
      let _ ← takeNumber
      let start := World.Start.ofParent process (spawnTime + delay) body
      let child ← make (World.addProcess · { start with
        descriptors := World.passed start.descriptors })
      push [.await [child]]

/-- Turns the shell into a program, or ends it if there is none. -/
def runInPlace (command : Simple) (words : List Text) : Act Unit := do
  let places ← places command
  let name := words.headD []
  let turn ← get
  match turn.world.program? (← process).dir places name with
  | .ok _ => turnInto (← programBody ((← message "exec: ").dropLast) places words) loadTime
  | .error error =>
    let said ← message ("exec: " ++ notRun name error)
    let isMissing := error = .notFound || error = .notDirectory
    push (writing 2 said ++ [.quit (if isMissing then 127 else 126)])

/-! ## What names mean -/

/-- What a name means where a command begins. -/
inductive Meaning where
  | reserved
  | aliased (text : Text)
  | special
  | function
  | builtin
  /-- A program at a path, which the shell may have known before. -/
  | program (path : Text) (known : Bool)

/-- What a name means, if anything; a program is remembered. -/
def meaning? (name : Text) : Act (Option Meaning) := do
  let shell := (← get).shell
  if reservedWords.elem name then return some .reserved
  if let some text := shell.aliases.lookup name then return some (.aliased text)
  if specialNames.elem name then return some .special
  if (shell.functions.lookup name).isSome then return some .function
  if isBuiltin name then return some .builtin
  let known := ((← located).paths.lookup name).isSome
  return (← locate name).map fun path => .program path known

/-- What a name means, in words. -/
def Meaning.inWords (name : Text) : Meaning → Text
  | .reserved => name ++ " is a shell keyword"
  | .aliased text => name ++ " is an alias for " ++ text
  | .special => name ++ " is a special shell builtin"
  | .function => name ++ " is a shell function"
  | .builtin => name ++ " is a shell builtin"
  | .program path known => name ++ (if known then " is a tracked alias for " else " is ") ++ path

/-- What a name means, as a command that means the same. -/
def Meaning.asCommand (name : Text) : Meaning → Text
  | .aliased text => "alias " ++ name ++ '=' :: singleQuoted text
  | .program path _ => path
  | _ => name

/-- `type` says what names mean. -/
def describeNames : Builtin := fun names => do
  let meanings ← names.mapM fun name => return (name, ← meaning? name)
  let line : Text × Option Meaning → Text
    | (name, some meaning) => meaning.inWords name
    | (name, none) => name ++ ": not found"
  answer (Text.unlines (meanings.map line)) (if meanings.all (·.2.isSome) then 0 else 127)

/-- `command -v` and `command -V` say what a name means, the second one `inWords`. -/
def describeName (inWords : Bool) (name : Text) : Act Unit := do
  match ← meaning? name with
  | some meaning =>
    answer ((if inWords then meaning.inWords name else meaning.asCommand name) ++ ['\n']) 0
  | none => answer (if inWords then name ++ ": not found\n" else []) 127

/-- `command`, if it is not there to run another one, says what a name means. -/
def describing : Builtin := Builtin.withOptions "command" "pvV" fun letters names =>
  match names with
  | [] => done
  | name :: _ => describeName (letters.elem 'V') name

/-- Finds programs, and says which names are not those of any. -/
def locateAll : List Text → Act (List Text)
  | [] => return []
  | name :: rest => do
    let shell := (← get).shell
    let isFound ←
      if isBuiltin name || (shell.functions.lookup name).isSome then pure true
      else pure (← locate name).isSome
    let missing ← locateAll rest
    return if isFound then missing else name :: missing

/-- `hash` shows which programs have been found, or finds some. -/
def hashed : Builtin := Builtin.withOptions "hash" "r" fun letters names => do
  if !letters.isEmpty then
    modifyShell ({ · with located := ⟨[], []⟩ })
    done
  else if names.isEmpty then
    answer (Text.unlines ((inBuckets 31 (← located).paths).map (·.2))) 0
  else
    let missing ← locateAll names
    let said ← missing.mapM fun name => message ("hash: " ++ name ++ ": not found")
    push (said.flatMap (writing 2) ++ [.settle (if missing.isEmpty then 0 else 1)])

/-- The commands about names of commands. -/
def naming? (name : Text) : Option Builtin :=
  if name = "type" then some describeNames
  else if name = "hash" then some hashed
  else if name = "command" then some describing
  else none

/-! ## Simple commands -/

/-- Runs a simple command whose redirections and assignments are in force. -/
def launch (command : Simple) : Act Unit := do
  let shell := (← get).shell
  match command.words with
  | [] => push [.settle shell.outputStatus]
  | name :: arguments =>
    let run (builtin : Builtin) : Act Unit := do
      modifyShell ({ · with command := name, isSpecial := command.isSpecial })
      builtin arguments
    if name = "exec" then
      if arguments.isEmpty then
        match shell.frames with
        | .restore saved :: rest =>
          modifyWorld (World.release · (← get).id saved)
          modifyShell ({ · with frames := rest })
        | _ => pure ()
        push [.settle 0]
      else runInPlace command arguments
    else match special? name, if command.isPlain then none else shell.functions.lookup name with
      | some builtin, _ => run builtin
      | none, some body =>
        enter [.run body, .leave shell.env.arguments shell.env.optionPlace [] none]
        modifyEnv (·.withArguments arguments)
      | none, none => match (naming? name).or (regular? name) with
        | some builtin => run builtin
        | none => runProgram command

/-- Works out what is assigned before a simple command whose redirections are in force. What is
assigned before a command that is not special holds for that command only. -/
def prepare (command : Simple) (saved : Saved) : Act Unit := do
  let isKept := command.words.isEmpty || command.isSpecial
  let isExported := !isKept || (command.words.head? = some "exec" && command.words.length > 1)
  let env ← env
  let replaced := command.assignments.map fun (name, _) => (name, env.find? name)
  let undoing := if isKept || replaced.isEmpty then [] else [Frame.unassign replaced]
  push (undoing ++ restoring saved)
  let shown := ((saved.lookup 2).bind fun keeper => keeper).getD 2
  let start := (← remark []).dropLast
  workOut do
    let values ← assignAll isExported command.assignments
    let traced ← traceFrames (fun fault => start ++ fault ++ ['\n']) shown values command.shown
    return traced ++ [.launch command]

/-! ## Redirections in force -/

/-- Goes on once all redirections have been made. -/
def redirected (purpose : Purpose) (saved : Saved) : Act Unit := do
  match purpose with
  | .command command => prepare command saved
  | .script script => push (.run script :: restoring saved)
  | .process script =>
    modifyWorld (World.release · (← get).id saved)
    push [.run script]

/-- What is done when a redirection cannot be made. -/
def giveUp (purpose : Purpose) (saved : Saved) : List Frame :=
  match purpose with
  | .command command =>
    if command.isSpecial then [.raise, .restore saved] else [.restore saved, .settle 2]
  | .script _ | .process _ => [.restore saved, .settle 2, .judge]

/-- Says why a redirection cannot be made, and undoes those before it. -/
def refuse (purpose : Purpose) (reason : Text) (saved : Saved) : Act Unit := do
  push (writing 2 (← remark reason) ++ giveUp purpose saved)

/-- Whether nothing can be said of a copy of a descriptor that cannot be made: the one for messages
has been put aside for it. -/
def isSilent (purpose : Purpose) (change : Change) (saved : Saved) : Bool :=
  match purpose, change.kind with
  | .process _, _ => false
  | _, .duplicate => change.descriptor = 2 && (saved.lookup 2).isNone
  | _, _ => false

/-- Makes redirections one after another. A document is worked out when its turn comes, so that it
sees those before it. -/
def redirect (purpose : Purpose) : List Change → Saved → Act Unit
  | [], saved => redirected purpose saved
  | change :: rest, saved => do
    match change.document with
    | some word => workOut do
      match ← Expansion.attempt (expandText word) with
      | .ok target =>
        return [.redirect purpose ({ change with target, document := none } :: rest) saved]
      | .error fault => return [.refuse purpose fault.reason saved]
    | none =>
      let turn ← get
      match turn.world.redirect turn.id change saved with
      | .error reason =>
        if isSilent purpose change saved then push (giveUp purpose saved)
        else refuse purpose reason saved
      | .ok (saved, world) =>
        Act.modifyWorld fun _ => world
        redirect purpose rest saved

/-- Runs a simple command. -/
def runSimple (line : Nat) (assignments : List (Text × Word)) (words : List Word)
    (redirects : List Redirect) : Act Unit := do
  modifyShell ({ · with line, outputStatus := 0 })
  let functions := (← get).shell.functions
  let isFunction (name : Text) : Bool := (functions.lookup name).isSome
  workOut do
    let fields ← expandCommand isFunction [] words
    let changes ← expandRedirects redirects
    let lead := Lead.ofFields isFunction fields
    let command : Simple := {
      shown := fields
      words := fields.drop lead.length
      isSpecial := (fields.head?.map specialNames.elem).getD false
      isPlain := lead.isPlain
      places := lead.places
      assignments }
    return [.redirect (.command command) changes [], .judge]

/-! ## Scripts -/

/-- Runs frames in a process of their own, unless the shell has nothing left to do but that. -/
def runSubshell (frames : List Frame) : Act Unit := do
  let shell := (← get).shell
  if ← isLast then modifyShell (subshell · (isTested shell) frames)
  else
    push [.judge]
    runApart frames

/-- Whether one of the patterns of an arm matches a text. -/
def anyMatches (text : Text) : List Word → Expansion Bool
  | [] => return false
  | word :: rest => do
    let pattern ← expandPattern word
    if pattern.accepts text then return true else anyMatches text rest

/-- The script of the first arm that matches a text. -/
def chosenArm (text : Text) : List (List Word × Script) → Expansion (Option Script)
  | [] => return none
  | (patterns, body) :: rest => do
    if ← anyMatches text patterns then return some body else chosenArm text rest

/-- The name that a simple command begins with, if that is written out. -/
def plainName? : Script → Option Text
  | .simple _ _ ([.plain name] :: _) _ => if isName name then some name else none
  | _ => none

/-- Starts to run a script. -/
def begin (script : Script) : Act Unit := do
  match script with
  | .nothing => return ()
  | .simple line assignments words redirects => runSimple line assignments words redirects
  | .pipeline negated parts =>
    if negated then push [.negate]
    match parts with
    | [part] => push [.run part]
    | parts =>
      let _ ← locateAll (parts.filterMap plainName?)
      let _ ← takeNumber
      let tested := isTested (← get).shell
      push [.await (← forkParts tested [] none (parts.map fun part => [.run part])), .judge]
  | .andThen first second => push [.run first, .andThen second]
  | .orElse first second => push [.run first, .orElse second]
  | .sequence first second => push [.run first, .run second]
  | .background (.pipeline false parts) =>
    let _ ← locateAll (parts.filterMap plainName?)
    forkBackground (parts.map fun part => [.run part])
  | .background (.redirected line (.subshell body) redirects) =>
    forkBackground [[.run (.redirected line (.subshell body) redirects)]]
  | .background (.redirected line body redirects) =>
    modifyShell ({ · with line })
    workOut do return [.detach body (← expandRedirects redirects)]
  | .background script => forkBackground [[.run script]]
  | .subshell script => runSubshell [.run script]
  | .redirected line (.subshell body) redirects =>
    modifyShell ({ · with line })
    workOut do return [.apart body (← expandRedirects redirects)]
  | .redirected line script redirects =>
    modifyShell ({ · with line })
    workOut do return [.redirect (.script script) (← expandRedirects redirects) []]
  | .branch condition yes no => push [.run condition, .branch yes no]
  | .loop untilTrue condition body => push [.run condition, .check untilTrue condition body 0]
  | .each line name words body =>
    modifyShell ({ · with line })
    match words with
    | none => push [.each name (← env).arguments body false]
    | some words => workOut do return [.each name (← expandWords words) body false]
  | .choose line word arms =>
    modifyShell ({ · with line })
    workOut do
      match ← chosenArm (← expandText word) arms with
      | some .nothing | none => return [.settle 0]
      | some body => return [.run body]
  | .define name body =>
    modifyShell fun shell => { shell with
      functions := (name, body) :: shell.functions.filter (·.1 ≠ name) }
    setStatus 0

end Runbook.Shell.Act
