import Runbook.Shell.Opening

/-!
# One step of a shell

A `Turn` is a shell in the middle of a step: it has been taken out of its process, and can act on
the world. Whatever takes more than the step itself is put on the stack of the shell as a `Frame`.
`Act.proceed` lets the shell work something out, and leaves on the stack what has to wait for the
output of a script.

`Act.unwind` takes frames off the stack without running them, as a jump out of a loop or a function
does; what they were to undo is undone.
-/

namespace Runbook.Shell

/-- A shell in the middle of a step. -/
structure Turn where
  world : World
  /-- The process of the shell. -/
  id : Nat
  shell : Interpreter
  /-- Whether the process is something else than this shell from now on. -/
  gone : Bool

/-- What a shell does in a step. -/
abbrev Act := StateM Turn

namespace Act

/-- How long a step takes, in nanoseconds. -/
def stepTime : Nat := 5000

/-- How long it takes until a new process takes its first step. -/
def forkTime : Nat := 150000

/-- How long it takes a shell to start a new process. -/
def forkPause : Nat := 60000

/-- How long it takes until a process that is only made for a program takes its first step. -/
def spawnTime : Nat := 50000

/-- How long it takes until a program has been loaded. -/
def loadTime : Nat := 700000

/-! ## The shell and its process -/

/-- The process of the shell. -/
def process : Act Process := do
  let turn ← get
  return (turn.world.process? turn.id).getD
    ⟨turn.id, 0, 0, 0, [], [], 0, [], [], false, false, .nothing, .ended (.exited 0)⟩

/-- Changes the shell. -/
def modifyShell (change : Interpreter → Interpreter) : Act Unit :=
  modify fun turn => { turn with shell := change turn.shell }

/-- Changes what the shell remembers. -/
def modifyEnv (change : Environment → Environment) : Act Unit :=
  modifyShell fun shell => { shell with env := change shell.env }

/-- Changes the world. -/
def modifyWorld (change : World → World) : Act Unit :=
  modify fun turn => { turn with world := change turn.world }

/-- Changes the process of the shell. -/
def modifyProcess (change : Process → Process) : Act Unit :=
  modify fun turn => { turn with world := turn.world.modifyProcess turn.id change }

/-- What the shell remembers. -/
def env : Act Environment := return (← get).shell.env

/-- Puts frames on the stack, the first of them on top. -/
def push (frames : List Frame) : Act Unit :=
  modifyShell fun shell => { shell with frames := frames ++ shell.frames }

/-- Takes a status. -/
def setStatus (status : Nat) : Act Unit := modifyEnv ({ · with status })

/-- Lets the process wait. -/
def waitFor (wait : Wait) : Act Unit := modifyProcess ({ · with wait })

/-- The process turns into something else. -/
def turnInto (body : Body) (delay : Nat) : Act Unit := do
  modifyProcess fun process => { process with
    body, time := process.time + delay, descriptors := World.passed process.descriptors }
  modify fun turn => { turn with gone := true, world := turn.world.tidy }

/-- The number of a file or a process that the world has made. -/
def make {α : Type} (f : World → α × World) : Act α := do
  let turn ← get
  let (a, world) := f turn.world
  set { turn with world }
  return a

/-- The files as the process sees them. -/
def visible : Act Files := do
  let turn ← get
  return turn.world.visible turn.id

/-! ## Messages and ends -/

/-- A message of the shell, which names the line that it is about. -/
def message (text : Text) : Act Text := do
  let shell := (← get).shell
  return shell.env.name ++ ": " ++ Text.ofNat shell.line ++ ": " ++ text ++ ['\n']

/-- A message about commands, which also names what has brought them in. -/
def remark (text : Text) : Act Text := do
  let within := (← get).shell.within
  message (if within.isEmpty then text else within ++ ": " ++ text)

/-- A frame that writes a text, if there is anything to write. -/
def writing (descriptor : Nat) (text : Text) : List Frame :=
  if text.isEmpty then [] else [.write descriptor (toBytes text)]

/-- Answers a command: writes a text, and takes a status. -/
def answer (text : Text) (status : Nat) : Act Unit := push (writing 1 text ++ [.settle status])

/-- Gives up what the shell is doing because of something that commands do. -/
def interrupt (text : Text) : Act Unit := do push (writing 2 (← remark text) ++ [.raise])

/-- Whether a frame looks at the status of what is above it. -/
def isTest : Frame → Bool
  | .andThen _ | .orElse _ | .negate | .branch _ _ | .check _ _ _ _ => true
  | _ => false

/-- Whether a frame keeps the status of what is above it from being looked at. -/
def isScreen : Frame → Bool
  | .leaveFile | .handled _ => true
  | _ => false

/-- Whether something looks at the status of the current command. -/
def isTested (shell : Interpreter) : Bool :=
  (shell.frames.takeWhile (!isScreen ·)).any isTest ||
    (shell.tested && !shell.frames.any isScreen)

/-! ## The stack -/

/-- Gives variables back what they were. -/
def unassign (env : Environment) (replaced : Replaced) : Environment :=
  replaced.foldl (fun env (name, entry) => match entry with
    | some entry => env.put name entry
    | none => env.unset name) env

/-- Undoes what a frame is there to undo. -/
def undo : Frame → Act Unit
  | .restore saved | .redirect _ _ saved | .refuse _ _ saved =>
    modify fun turn => { turn with world := turn.world.restore turn.id saved }
  | .unassign replaced => modifyEnv (unassign · replaced)
  | .leave arguments optionPlace replaced switches => modifyShell fun shell =>
    { shell with
      depth := shell.depth - 1
      env := { unassign shell.env replaced with
        arguments, optionPlace, switches := switches.getD shell.env.switches } }
  | .leaveText within => modifyShell ({ · with within })
  | .leaveFile => modifyShell fun shell => { shell with depth := shell.depth - 1 }
  | _ => return ()

/-- Takes frames off a stack up to one that `stops` holds of, and gives what is left with that one
on top. -/
def unwindFrom (stops : Frame → Bool) : List Frame → Act (List Frame)
  | [] => return []
  | frame :: rest => do
    if stops frame then return frame :: rest
    undo frame
    unwindFrom stops rest

/-- Takes frames off the stack up to one that `stops` holds of. -/
def unwind (stops : Frame → Bool) : Act Unit := do
  let frames ← unwindFrom stops (← get).shell.frames
  modifyShell ({ · with frames })

/-- Takes the frame on top off the stack. -/
def pop : Act Unit := modifyShell fun shell => { shell with frames := shell.frames.drop 1 }

/-- Whether a frame belongs to a loop. -/
def isLoop : Frame → Bool
  | .check _ _ _ _ | .again _ _ _ | .each _ _ _ _ => true
  | _ => false

/-- Whether a frame belongs to a function. -/
def isFunction : Frame → Bool
  | .leave _ _ _ _ => true
  | _ => false

/-- Whether a frame belongs to a function or a file of commands. -/
def isCall : Frame → Bool
  | .leave _ _ _ _ | .leaveFile => true
  | _ => false

/-- Whether a frame stops errors. -/
def isShield : Frame → Bool
  | .shield => true
  | _ => false

/-- Whether a frame only sees to it that something is undone or judged at the end. -/
def isClosing : Frame → Bool
  | .judge | .restore _ | .unassign _ => true
  | _ => false

/-- How many loops are under way in the current function. -/
def loopsAround (shell : Interpreter) : Nat :=
  (shell.frames.takeWhile (!isFunction ·)).countP isLoop +
    if shell.frames.any isFunction then 0 else shell.outerLoops

/-- The line up to which the script has been read that is being run; a shell that another one has
started reads none. -/
def lineReached (shell : Interpreter) : Nat :=
  (shell.frames.findSome? fun
    | .read input => some (if input.rest.head? = some '\n' then input.line + 1 else input.line)
    | _ => none).getD 1

/-- Whether the shell itself is inside a loop of the current function. -/
def insideLoop (frames : List Frame) : Bool := (frames.takeWhile (!isFunction ·)).any isLoop

/-- Leaves `n` loops, or as many as there are. If some of them belong to the shell that has started
this one, this one has nothing more to do. -/
def leaveLoops : Nat → Act Unit
  | 0 => return ()
  | n + 1 => do
    let shell := (← get).shell
    if insideLoop shell.frames then
      unwind isLoop
      pop
      leaveLoops n
    else if loopsAround shell > 0 then unwind fun _ => false

/-! ## Ends -/

/-- Ends the shell, after the action for that has been run. -/
def leaveShell (status : Nat) : Act Unit := do
  unwind fun _ => false
  let shell := (← get).shell
  match shell.traps.lookup 0 with
  | some action =>
    modifyShell fun shell => { shell with
      traps := dropKey 0 shell.traps
      frames := [.read (.ofText action), .quit status]
      env := { shell.env with status } }
  | none => modify fun turn => { turn with
      gone := true, world := turn.world.endProcess turn.id (.exited (status % 256)) }

/-- Ends a shell that stops on failure if the current command has failed, unless something looks at
its status. -/
def judge : Act Unit := do
  let shell := (← get).shell
  if shell.env.status ≠ 0 && shell.env.isOn .stopOnFailure && !isTested shell then
    leaveShell shell.env.status

/-- Gives up what the shell is doing: what stops errors takes a status, or else the shell ends. -/
def raise : Act Unit := do
  if (← get).shell.frames.any isShield then
    unwind isShield
    pop
    setStatus 2
  else leaveShell 2

/-- How many functions may be entered inside one another. -/
def greatestDepth : Nat := 1000

/-- Enters a function or a file of commands, which `frames` are to run and to leave, or gives up
because too many have been entered. -/
def enter (frames : List Frame) : Act Unit := do
  if (← get).shell.depth < greatestDepth then
    modifyShell fun shell => { shell with depth := shell.depth + 1 }
    push frames
  else
    interrupt ("Maximum function recursion depth (" ++ Text.ofNat greatestDepth ++ ") reached")

/-- Whether nothing is left to do for the shell once the current command is over. -/
def isLast : Act Bool := do
  let shell := (← get).shell
  return shell.frames.all isClosing && shell.traps.all (·.2.isEmpty)

/-! ## New processes -/

/-- A shell that is to run `frames` in a new process. Actions of signals are not passed on, but it
goes on ignoring what is ignored. -/
def subshell (shell : Interpreter) (tested : Bool) (frames : List Frame) : Interpreter :=
  { shell with
    frames, tested, jobs := [], outerLoops := loopsAround shell
    isInFunction := shell.isInFunction || shell.frames.any isFunction
    traps := shell.traps.filter (·.2.isEmpty) }

/-- Starts a process that runs frames, with changed descriptors. -/
def fork (tested : Bool) (frames : List Frame) (descriptors : List (Nat × Nat)) : Act Nat := do
  let shell := (← get).shell
  let start := World.Start.ofParent (← process) forkTime (.shell (subshell shell tested frames))
  let id ← make (World.addProcess · { start with descriptors })
  modifyProcess fun process => { process with time := process.time + forkPause }
  return id

/-- Whether a job is over, and somebody has waited for its end. -/
def isSettled (world : World) (job : BackgroundJob) : Bool :=
  job.waited && job.processes.all fun id => (world.exit? id).isSome

/-- The number for a new job: the first that no job has that matters any more. A job that had it is
forgotten. -/
def takeNumber : Act Nat := do
  let turn ← get
  let jobs := turn.shell.jobs
  let isFree (n : Nat) : Bool := jobs.all fun job => job.number ≠ n || isSettled turn.world job
  let number := (((List.range (jobs.length + 1)).map (· + 1)).find? isFree).getD 1
  let (gone, left) := jobs.partition (·.number = number)
  modifyWorld fun world => (gone.flatMap (·.processes)).foldl World.forget world
  modifyShell ({ · with jobs := left })
  return number

/-- Runs frames in a process of their own, and waits for its end. -/
def runApart (frames : List Frame) : Act Unit := do
  let _ ← takeNumber
  let id ← fork (isTested (← get).shell) frames (← process).descriptors
  push [.await [id]]

/-- The parts of a pipeline as processes: each but the last writes into a pipe that the next one
reads from, and the first one reads from `input` if that is given. Each begins with frames `first`.
-/
def forkParts (tested : Bool) (first : List Frame) (input : Option Nat) :
    List (List Frame) → Act (List Nat)
  | [] => return []
  | part :: rest => do
    let before ← process
    let descriptors := match input with
      | some id => setKey 0 id before.descriptors
      | none => before.descriptors
    match rest with
    | [] => return [← fork tested (first ++ part) descriptors]
    | _ =>
      let (readEnd, writeEnd) ← make fun world =>
        let (readEnd, writeEnd, world) := world.addPipe
        ((readEnd, writeEnd), world)
      let id ← fork tested (first ++ part) (setKey 1 writeEnd descriptors)
      return id :: (← forkParts tested first (some readEnd) rest)

/-- Starts processes in the background, which run frames: one, or the parts of a pipeline. They
ignore interrupts, and the first of them reads nothing. -/
def forkBackground (parts : List (List Frame)) : Act Unit := do
  let number ← takeNumber
  let nothing ← make (World.addOpenFile · (.file Files.nullNumber) .input)
  let ids ← forkParts false [.ignoreInterrupts] (some nothing) parts
  modifyWorld World.tidy
  modifyShell fun shell => { shell with
    jobs := ⟨number, ids, false⟩ :: shell.jobs
    env := { shell.env with lastBackground := ids.getLast?, status := 0 } }

/-- Starts a process for a script whose output is wanted, and leaves it to a frame to collect that
and to go on. -/
def beginOutput (script : Script) (next : Text → Scene → Working (List Frame)) : Act Unit := do
  let (readEnd, writeEnd) ← make fun world =>
    let (readEnd, writeEnd, world) := world.addPipe
    ((readEnd, writeEnd), world)
  let before ← process
  let _ ← takeNumber
  let child ← fork false [.run script] (setKey 1 writeEnd before.descriptors)
  let keeper := World.free before privateDescriptor
  modifyProcess fun process =>
    { process with descriptors := setKey keeper readEnd process.descriptors }
  modifyWorld World.tidy
  push [.collect keeper child ByteArray.empty next]

/-- The messages about those of the processes that a signal has ended. -/
def obituary (ids : List Nat) : Act Text := do
  let world := (← get).world
  return ids.flatMap fun id => match world.exit? id with
    | some (.signalled signal) =>
      if signal = sigInt || signal = sigPipe then [] else signalMessage signal ++ ['\n']
    | _ => []

/-- Takes note of the children that have ended. -/
def noteEnds : Act Unit := modify fun turn => { turn with world := turn.world.noteEnds turn.id }

/-- The status of a process that has ended. -/
def statusOf (id : Nat) : Act Nat :=
  return (((← get).world.exit? id).map Exit.status).getD 127

/-! ## Working things out -/

/-- What the worth of words depends on. -/
def scene : Act Scene := return ⟨← env, ← visible, (← process).dir⟩

/-- Goes on with work, up to an output that has to be waited for, or to the frames that come of it.
-/
def proceed : Working (List Frame) → Act Unit
  | .done frames scene => do
    modifyEnv fun _ => scene.env
    push frames
  | .stopped fault scene => do
    modifyEnv fun _ => scene.env
    if fault.isOfReading then modifyShell fun shell => { shell with line := lineReached shell }
    interrupt fault.reason
  | .awaits script scene next => do
    modifyEnv fun _ => scene.env
    beginOutput script next

/-- Works out what to do. -/
def workOut (expansion : Expansion (List Frame)) : Act Unit := do proceed (expansion (← scene))

end Act

end Runbook.Shell
