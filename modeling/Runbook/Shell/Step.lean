import Runbook.Shell.Command

/-!
# Steps of processes

`World.step` lets one process take its next step: a shell deals with the frame on top of its stack,
and another program with the next of its reads and writes. A process that cannot go on keeps what it
was about to do, and waits.
-/

namespace Runbook.Shell

namespace Act

open Builtin

/-! ## Frames -/

/-- Puts a frame in the place of the one on top. -/
def replace (frame : Frame) : Act Unit := do
  pop
  push [frame]

/-- Reads from a descriptor: deals with bytes, or with the end, or waits. -/
def reading (descriptor limit : Nat) (use : ByteArray → Act Unit) (atEnd : Act Unit) :
    Act Unit := do
  let process ← process
  match ← make (World.read · process descriptor limit) with
  | .bytes bytes => use bytes
  | .finished | .refused _ => atEnd
  | .blocked wait => waitFor wait

/-- The output of a script as it stands in the place of the script: without null characters, and
without line feeds at its end. -/
def outputText (bytes : ByteArray) : Text :=
  let text := (ofBytes bytes).filter (· ≠ Text.null)
  (text.reverse.dropWhile (· == '\n')).reverse

/-- Forgets processes that nobody will ask about any more. -/
def forget (ids : List Nat) : Act Unit := modifyWorld fun world => ids.foldl World.forget world

/-- The processes whose end the shell has not taken note of. -/
def unnoted (ids : List Nat) : Act (List Nat) := do
  let world := (← get).world
  return ids.filter fun id => ((world.process? id).map (!·.noted)).getD false

/-- Whether processes have all ended; if not, the shell waits for them. -/
def allEnded (ids : List Nat) (attentive : Bool) : Act Bool := do
  let world := (← get).world
  if ids.all fun id => (world.exit? id).isSome then return true
  else
    waitFor (.children ids attentive)
    return false

/-- Whether a line that is being read goes on in the next one. -/
def goesOn (raw : Bool) (text : ByteArray) : Bool :=
  !raw && (text.toList.reverse.takeWhile (· == 92)).length % 2 == 1

/-- Reads on in a line, one byte at a time, so that what follows is left to others. -/
def stepLine (names : List Text) (raw : Bool) (text : ByteArray) : Act Unit := do
  let finish (status : Nat) : Act Unit := do
    pop
    assignLine names raw (ofBytes text) status
  reading 0 1 (fun byte =>
    if byte[0]? = some 10 then
      if goesOn raw text then replace (.line names raw (text ++ byte)) else finish 0
    else if byte[0]? = some 0 then return ()
    else replace (.line names raw (text ++ byte))) (finish 1)

/-- The message of a command of the shell itself that cannot write. -/
def writeError : Act Text := do
  let name := (← get).shell.command
  message (name ++ ": " ++ name ++ ": I/O error")

/-- Writes bytes, or some of them. A shell that may not write fails in its current command. -/
def stepWrite (descriptor : Nat) (bytes : ByteArray) : Act Unit := do
  let process ← process
  let failed : Act Unit := do
    pop
    let said ← if descriptor = 2 then pure [] else pure (writing 2 (← writeError))
    modifyShell fun shell => { shell with frames := match shell.frames with
      | .settle _ :: rest => .settle 1 :: rest
      | frames => frames }
    push said
  match ← make (World.write · process descriptor bytes) with
  | .taken count =>
    modifyProcess fun process => { process with time := process.time + count * 20 }
    if count < bytes.size then replace (.write descriptor (bytes.extract count bytes.size)) else pop
  | .blocked wait => waitFor wait
  | .refused _ => failed
  | .broken =>
    modifyWorld (World.signal · process.id sigPipe process.time)
    failed

/-- Starts over a loop over values, or ends it. -/
def stepEach (name : Text) (values : List Text) (body : Script) (begun : Bool) : Act Unit := do
  match values with
  | [] => if !begun then setStatus 0
  | value :: rest =>
    match (← env).refusal? name value with
    | some reason => interrupt reason
    | none =>
      modifyEnv (·.assign name value)
      push [.run body, .each name rest body true]

/-- Collects the output of a process, and goes on with it once there is no more. -/
def stepCollect (descriptor child : Nat) (output : ByteArray)
    (next : Text → Scene → Working (List Frame)) : Act Unit :=
  reading descriptor Activity.chunkSize
    (fun bytes => replace (.collect descriptor child (output ++ bytes) next)) do
      if ← allEnded [child] false then
        pop
        let status ← statusOf child
        modifyShell ({ · with outputStatus := status })
        modifyProcess fun process =>
          { process with descriptors := dropKey descriptor process.descriptors }
        modifyWorld World.tidy
        let said ← obituary [child]
        forget [child]
        noteEnds
        proceed (next (outputText output) (← scene))
        push (writing 2 said)

/-- Deals with the frame on top of the stack, once that has been taken off. -/
def stepFrame : Frame → Act Unit
  | .read input => do
    match nextCommand { input with aliases := (← get).shell.aliases } with
    | .error error =>
      modifyShell ({ · with line := error.line })
      interrupt ("Syntax error: " ++ error.problem.message)
    | .ok none => return ()
    | .ok (some (script, rest)) => push [.run script, .read rest]
  | .run script => do if !(← env).isOn .noRunning then begin script
  | .redirect purpose changes saved => redirect purpose changes saved
  | .refuse purpose reason saved => refuse purpose reason saved
  | .launch command => launch command
  | .apart script changes => runSubshell [.redirect (.process script) changes []]
  | .detach script changes => forkBackground [[.redirect (.process script) changes []]]
  | .ignoreInterrupts =>
    modifyProcess fun process => { process with ignored := sigInt :: sigQuit :: process.ignored }
  | .judge => judge
  | .raise => raise
  | .andThen second => do if (← env).status = 0 then push [.run second]
  | .orElse second => do if (← env).status ≠ 0 then push [.run second]
  | .negate => do setStatus (if (← env).status = 0 then 1 else 0)
  | .branch yes no => do
    if (← env).status = 0 then push [.run yes]
    else match no with
      | .nothing => setStatus 0
      | no => push [.run no]
  | .check untilTrue condition body last => do
    if ((← env).status == 0) != untilTrue then push [.run body, .again untilTrue condition body]
    else setStatus last
  | .again untilTrue condition body => do
    push [.run condition, .check untilTrue condition body (← env).status]
  | .each name values body begun => stepEach name values body begun
  | .settle status => setStatus status
  | .handled status => setStatus status
  | .quit status => leaveShell status
  | frame => undo frame

/-- Deals with a frame on top of the stack that stays there until something has happened; whether it
was one of those is told. -/
def stepWaiting : Frame → Act Bool
  | .await ids => do
    if ← allEnded ids false then
      pop
      let status ← match ids.getLast? with
        | some id => statusOf id
        | none => pure 0
      push (writing 2 (← obituary ids) ++ [.settle status])
      forget ids
      noteEnds
    return true
  | .attend ids report => do
    if ← allEnded ids true then
      pop
      let status ← match report with
        | some id => statusOf id
        | none => pure 0
      let said ← if report.isSome then obituary (← unnoted ids) else pure []
      push (writing 2 said ++ [.settle status])
      noteEnds
      modifyShell fun shell => { shell with jobs := shell.jobs.map fun job =>
        { job with waited := job.waited || job.processes.all ids.elem } }
    return true
  | .collect descriptor child output next => do
    stepCollect descriptor child output next
    return true
  | .load descriptor text => do
    reading descriptor Activity.chunkSize (fun bytes => replace (.load descriptor (text ++ bytes)))
      (replace (.read (.ofText (ofBytes text))))
    return true
  | .line names raw text => do
    stepLine names raw text
    return true
  | .write descriptor bytes => do
    stepWrite descriptor bytes
    return true
  | _ => return false

/-- Whether the action of a signal may be run before a frame. -/
def givesWay : Frame → Bool
  | .await _ | .collect _ _ _ _ | .load _ _ | .line _ _ _ | .write _ _ | .settle _ | .restore _
  | .unassign _ | .redirect _ _ _ | .refuse _ _ _ | .launch _ | .judge | .raise | .handled _
  | .quit _ => false
  | _ => true

/-- Starts the action of a signal. -/
def beginAction (signal : Nat) : Act Unit := do
  modifyProcess fun process => { process with pending := process.pending.drop 1 }
  let shell := (← get).shell
  match shell.frames with
  | .attend _ _ :: rest =>
    modifyShell fun shell => { shell with
      frames := rest, env := { shell.env with status := 128 + signal } }
  | _ => pure ()
  let shell := (← get).shell
  match shell.traps.lookup signal with
  | some action => push [.read (.ofText action), .handled shell.env.status]
  | none => return ()

/-- Takes one step of a shell. -/
def step : Act Unit := do
  let shell := (← get).shell
  match (← process).pending.head?, shell.frames with
  | some signal, [] => beginAction signal
  | none, [] => leaveShell shell.env.status
  | signal?, frame :: _ =>
    match signal?.filter fun _ => givesWay frame with
    | some signal => beginAction signal
    | none =>
      if !(← stepWaiting frame) then
        pop
        stepFrame frame

end Act

/-! ## Shells as programs -/

/-- The variables of a new shell: those that it is given, those that it gives itself unless it is
given them, and those that it sets in any case. -/
def startVariables (exports : List (Text × Text)) (parent : Nat) (place : Path) :
    List (Text × Variable) :=
  let fixed : List (Text × Variable) := [
    ("IFS", ⟨some " \t\n".toList, false, false⟩),
    ("PPID", ⟨some (Text.ofNat parent), false, false⟩),
    ("PWD", ⟨some (Files.pathText place), true, false⟩)]
  let default : List (Text × Text) := [
    ("OPTIND", "1"), ("PATH", World.defaultSearch), ("PS1", "# "), ("PS2", "> "), ("PS4", "+ ")]
  fixed ++ (exports.filter fun (name, _) => !fixed.any (·.1 = name)).map
      (fun (name, value) => (name, ⟨some value, true, false⟩)) ++
    (default.filter fun (name, _) => !exports.any (·.1 = name)).map
      fun (name, value) => (name, ⟨some value, false, false⟩)

/-- The place where a shell believes to be that starts in a directory: what it is told, if that
means the directory. -/
def startPlace (files : Files) (exports : List (Text × Text)) (dir : Path) : Path :=
  match exports.lookup ("PWD" : Text) with
  | some text =>
    if text.head? = some '/' && ((files.find [] text).map (·.1)).toOption = some dir then
      Files.names text
    else dir
  | none => dir

/-- A shell that is about to run a script, or to read one, in a process. -/
def Interpreter.start (name : Text) (arguments : List Text) (exports : List (Text × Text))
    (id parent : Nat) (place : Path) (frames : List Frame) : Interpreter where
  env := {
    bindings := startVariables exports parent place
    arguments, name, status := 0, shellId := id, lastBackground := none
    optionPlace := .start, switches := [] }
  functions := []
  aliases := []
  located := ⟨[], []⟩
  traps := []
  jobs := []
  frames
  line := 1
  outputStatus := 0
  within := []
  command := []
  isSpecial := false
  place
  tested := false
  outerLoops := 0
  isInFunction := false
  depth := 0

/-- The frames of a script given as a text. -/
def scriptFrames (text : Text) : List Frame := [.read (.ofText text)]

/-- The letters that have a meaning only when a shell is started: `c` wants a script as the next
argument. -/
def startLetters : Text := "cl"

namespace World

/-- A shell with the arguments that it was started with, unless they are refused or name a script
that it cannot read. -/
def startShell (world : World) (process : Process) (arguments : List Text)
    (exports : List (Text × Text)) : Except Switching.Refusal Interpreter := do
  let name := arguments.headD []
  let wrong (text : Text) : Text := name ++ ": 0: " ++ text ++ ['\n']
  let switching ← (Switching.atStart startLetters (arguments.drop 1)).mapError fun refusal =>
    { refusal with text := wrong refusal.text }
  let ⟨switches, _, letters, listings, rest, _⟩ := switching
  let isInput := !letters.elem 'c' && (rest.isEmpty || switches.elem .fromInput)
  let start (name : Text) (arguments : List Text) (frames : List Frame) : Interpreter :=
    let place := startPlace world.files exports process.dir
    let shell := Interpreter.start name arguments exports process.id process.parent place
      (Act.writing 1 listings ++ frames)
    { shell with env := { shell.env with
        switches := (Switch.turn switches .fromInput isInput).filter (· ≠ .monitor) } }
  match letters.elem 'c', rest with
  | true, text :: called :: arguments => .ok (start called arguments (scriptFrames text))
  | true, [text] => .ok (start name [] (scriptFrames text))
  | true, [] => .error ⟨wrong "-c requires an argument", switching⟩
  | false, script :: arguments =>
    if isInput then .ok (start name (script :: arguments) [.load 0 ByteArray.empty])
    else match world.reading process script with
      | .ok (.text text) => .ok (start script arguments (scriptFrames text))
      | .ok (.descriptor descriptor) =>
        .ok (start script arguments [.load descriptor ByteArray.empty])
      | .error error => .error ⟨wrong (openingMessage false script error), switching⟩
  | false, [] => .ok (start name [] [.load 0 ByteArray.empty])

/-- The file behind a descriptor of a process, if it is one, and the place in it where reading or
writing begins. -/
def fileAt? (world : World) (process : Process) (descriptor : Nat) : Option (Nat × Nat) := do
  let (_, file) ← world.openFile? process descriptor
  match file.target with
  | .file number => match (← world.files.node? number).kind with
    | .file content => return (number, if file.mode = .append then content.size else file.offset)
    | _ => none
  | _ => none

/-- What a process does once the program that its arguments name has been loaded. -/
def load (world : World) (process : Process) (arguments : List Text)
    (exports : List (Text × Text)) (places : Option Text) (failed : SystemError → Text) : World :=
  let become (body : Body) : World := world.modifyProcess process.id ({ · with body })
  let name := arguments.headD []
  let say (text : Text) (status : Nat) : World :=
    become (.active name (.write 2 (toBytes text) (.finish status)))
  let places := places.getD ((exports.lookup ("PATH" : Text)).getD defaultSearch)
  match world.program? process.dir places name with
  | .error error => say (failed error ++ ['\n']) (failureStatus name error)
  | .ok .shell =>
    match world.startShell process arguments exports with
    | .ok shell => become (.shell shell)
    | .error ⟨text, before⟩ =>
      let last := if before.listings.isEmpty then .finish 2
        else .write 1 (toBytes before.listings) (.finish 2)
      become (.active name (.write 2 (toBytes text) last))
  | .ok (.script content called) =>
    let place := startPlace world.files exports process.dir
    become (.shell (Interpreter.start called (arguments.drop 1) exports process.id
      process.parent place [.read (.ofText (ofBytes content))]))
  | .ok (.utility run) =>
    become (.active name (run ⟨name, arguments.drop 1, exports, world.files,
      world.visible process.id, process.dir, process.mask, world.fileAt? process 0,
      world.fileAt? process 1, (world.openFile? process 1).isSome⟩))

/-! ## Programs at work -/

/-- Lets a process take the next step of what it does. -/
def act (world : World) (process : Process) (name : Text) (activity : Activity) : World :=
  let goOn (world : World) (activity : Activity) (time : Nat) : World :=
    world.modifyProcess process.id fun process =>
      { process with body := .active name activity, time := process.time + time }
  let wait (wait : Wait) : World := world.modifyProcess process.id ({ · with wait })
  let startOf (body : Body) : Start := .ofParent process (Act.forkTime + Act.loadTime) body
  match activity with
  | .finish status => world.endProcess process.id (.exited (status % 256))
  | .write descriptor bytes next =>
    match world.write process descriptor bytes with
    | (.taken count, world) =>
      goOn world (if count < bytes.size then .write descriptor (bytes.extract count bytes.size) next
        else next) (count * 20)
    | (.blocked reason, _) => wait reason
    | (.refused reason, world) =>
      goOn world (if descriptor = 1 then Utility.unwritten name reason else next) 0
    | (.broken, world) => (goOn world (.finish 1) 0).signal process.id sigPipe process.time
  | .produce chunk index next =>
    match chunk index with
    | none => goOn world next 0
    | some bytes => goOn world (.write 1 bytes (.produce chunk (index + 1) next)) 0
  | .read source limit next =>
    match source with
    | .zeros =>
      goOn world (next (.bytes ⟨Array.replicate limit 0⟩ .zeros)) limit
    | .content bytes =>
      if bytes.isEmpty then goOn world (next .finished) 0
      else
        let chunk := bytes.extract 0 limit
        let rest := bytes.extract limit bytes.size
        goOn world (next (.bytes chunk (.content rest))) chunk.size
    | .descriptor n =>
      match world.read process n limit with
      | (.bytes bytes, world) => goOn world (next (.bytes bytes source)) bytes.size
      | (.finished, world) => goOn world (next .finished) 0
      | (.blocked reason, _) => wait reason
      | (.refused reason, world) => goOn world (next (.refused reason)) 0
  | .giveBack source count next =>
    match source with
    | .descriptor n => goOn (world.giveBack process n count) next 0
    | _ => goOn world next 0
  | .change deed =>
    let (files, next) := deed world.files
    goOn { world with files } next 0
  | .pause (some time) next => goOn world (next ()) time
  | .pause none _ => wait .forever
  | .become arguments exports failed =>
    world.modifyProcess process.id fun process => { process with
      body := .program arguments exports none failed, time := process.time + Act.loadTime }
  | .run arguments exports hasInput next =>
    let places := (exports.lookup ("PATH" : Text)).getD defaultSearch
    match world.program? process.dir places (arguments.headD []) with
    | .error error => goOn world (next (.error error)) 0
    | .ok _ =>
      let start := startOf (.program arguments exports none fun error => error.reason)
      let (nothing, world) := world.addOpenFile (.file Files.nullNumber) .input
      let descriptors := if hasInput then start.descriptors
        else setKey 0 nothing start.descriptors
      let (child, world) := world.addProcess { start with descriptors }
      goOn world.tidy (.await child fun exit => next (.ok exit)) 0
  | .spawn arguments exports failed next =>
    let (readEnd, writeEnd, world) := world.addPipe
    let start := startOf (.program arguments exports none failed)
    let (child, world) := world.addProcess
      { start with descriptors := setKey 1 writeEnd start.descriptors }
    let descriptor := free process 3
    let world := world.modifyProcess process.id fun process =>
      { process with descriptors := setKey descriptor readEnd process.descriptors }
    goOn world (next child descriptor) 0
  | .await child next =>
    match world.exit? child with
    | some exit => goOn (world.forget child) (next exit) 0
    | none => wait (.children [child] false)
  | .create name append next =>
    match world.openPath process name (if append then .append else .output) with
    | .error error => goOn world (next (.error error)) 0
    | .ok (id, world) =>
      let descriptor := free process 3
      let world := world.modifyProcess process.id fun process =>
        { process with descriptors := setKey descriptor id process.descriptors }
      goOn world (next (.ok descriptor)) 0
  | .send target number next =>
    let target := if target = 0 then -(process.group : Int) else target
    let (found, world) := world.signalAll target number process.time
    match world.exit? process.id with
    | some _ => world
    | none => goOn world (next found) 0
  | .limit alarms isFaithful arguments exports failed =>
    let start := startOf (.program arguments exports none failed)
    let (child, world) := world.addProcess { start with group := process.id }
    let alarms := alarms.map fun (span, signal) => (process.time + span, signal)
    world.modifyProcess process.id ({ · with
      group := process.id, body := .guard child alarms false isFaithful })

/-- Lets a guard look at the process that it watches. Once it has sent a signal its status tells
that, unless it is faithful. -/
def watch (world : World) (process : Process) (child : Nat) (alarms : List (Nat × Nat))
    (fired isFaithful : Bool) : World :=
  match world.exit? child, alarms with
  | some exit, _ =>
    let exit := if fired then .exited (if isFaithful then exit.status else 124) else exit
    world.endProcess process.id exit
  | none, [] => world.modifyProcess process.id ({ · with wait := .children [child] false })
  | none, (time, signal) :: rest =>
    if process.time < time then
      world.modifyProcess process.id ({ · with wait := .childUntil child time })
    else
      let others := (world.members process.group).filter (· ≠ process.id)
      let world := others.foldl (fun world id => world.signal id signal process.time) world
      if signal = sigKill then world.endProcess process.id (.signalled sigKill)
      else world.modifyProcess process.id ({ · with
        body := .guard child rest true isFaithful })

/-- The time of the calendar at which the clock starts, in nanoseconds after the start of 1970. -/
def startTime : Nat := 1750000000000000000

/-- Lets a process take its next step at a time. -/
def step (world : World) (process : Process) (time : Nat) : World :=
  let process := { process with time := time + Act.stepTime, wait := .nothing }
  let files := { world.files with now := startTime + time }
  let world := { world with clock := time, files }.modifyProcess process.id fun _ => process
  let world := match process.body with
    | .shell shell =>
      let turn := (Act.step.run ⟨world, process.id, shell, false⟩).2
      if turn.gone then turn.world
      else turn.world.modifyProcess process.id fun process =>
        if process.isEnded then process else { process with body := .shell turn.shell }
    | .program arguments exports places failed =>
      world.load process arguments exports places failed
    | .active name activity => world.act process name activity
    | .guard child alarms fired isFaithful => world.watch process child alarms fired isFaithful
    | .ended _ => world
  world.wake (time + Act.stepTime)

end World

end Runbook.Shell
