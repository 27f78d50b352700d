import Runbook.Shell.Activity
import Runbook.Shell.Expansion
import Runbook.Shell.Parser
import Runbook.Shell.Signal

/-!
# Processes

A `World` is everything that commands can act on: files, a clock, and processes that share open
files and pipes. A process is a shell at work or another program, and it is known by its number. A
shell at work keeps a stack of `Frame`s, each of which says what it does once the frames above it
are done.

Every process has a time of its own, the one at which it takes its next step. A process that cannot
go on says in its `Wait` what has to happen first.
-/

namespace Runbook.Shell

/-- A redirection whose target has been worked out, unless that is a document, which is only worked
out when its turn comes. -/
structure Change where
  descriptor : Nat
  kind : RedirectKind
  target : Text
  /-- Whether a file that exists must not be overwritten. -/
  keeps : Bool
  document : Option Word

/-- What descriptors were before redirections: each of them with the private one that keeps it, if
it was open. -/
abbrev Saved := List (Nat × Option Nat)

/-- What variables were before they were assigned to. -/
abbrev Replaced := List (Text × Option Variable)

/-- A simple command whose words have been worked out. -/
structure Simple where
  /-- All its words. -/
  shown : List Text
  /-- The words without those that only say how the command is to be looked for. -/
  words : List Text
  /-- Whether it is one of the special commands, and not looked for in any other way. -/
  isSpecial : Bool
  /-- Whether functions are left out when it is looked for. -/
  isPlain : Bool
  /-- The places where its program is looked for, if not where the shell looks by itself. -/
  places : Option Text
  assignments : List (Text × Word)

/-- What redirections are made for. -/
inductive Purpose where
  | command (command : Simple)
  | script (script : Script)
  /-- A script in a process of its own, in which nothing is undone after it. -/
  | process (script : Script)

/-- What a shell does next. -/
inductive Frame where
  /-- Reads the next command of a script, and runs it before it reads on. -/
  | read (input : Input)
  /-- Runs a script. -/
  | run (script : Script)
  /-- Ignores interrupts from now on. -/
  | ignoreInterrupts
  /-- Makes redirections one after another, of which those before have been `saved`, and then runs
  what they are made for. -/
  | redirect (purpose : Purpose) (changes : List Change) (saved : Saved)
  /-- Does without the redirections that have been made, since the next one has a fault. -/
  | refuse (purpose : Purpose) (reason : Text) (saved : Saved)
  /-- Runs a simple command whose redirections and assignments are in force. -/
  | launch (command : Simple)
  /-- Runs a script with redirections in a process of its own, and waits for its end. -/
  | apart (script : Script) (changes : List Change)
  /-- Runs a script with redirections in the background. -/
  | detach (script : Script) (changes : List Change)
  /-- Ends a shell that stops on failure, if the last command has failed and nothing looks at its
  status. -/
  | judge
  /-- Runs a script if the last status was zero. -/
  | andThen (second : Script)
  /-- Runs a script unless the last status was zero. -/
  | orElse (second : Script)
  /-- Turns the last status round. -/
  | negate
  /-- Chooses a script by the last status. -/
  | branch (yes no : Script)
  /-- Ends a loop or runs its body, by the last status; `last` is the status of the last turn. -/
  | check (untilTrue : Bool) (condition body : Script) (last : Nat)
  /-- Starts a loop over again. -/
  | again (untilTrue : Bool) (condition body : Script)
  /-- Runs the body of a loop for each of the values left; `begun` says that it has been run before.
  -/
  | each (name : Text) (values : List Text) (body : Script) (begun : Bool)
  /-- Waits for processes and takes the status of the last of them. -/
  | await (ids : List Nat)
  /-- Waits for background processes, and takes the status of one if it is given; a signal with an
  action ends the wait. -/
  | attend (ids : List Nat) (report : Option Nat)
  /-- Reads the output of a process, and then goes on with what has waited for it. -/
  | collect (descriptor child : Nat) (output : ByteArray)
      (next : Text → Scene → Working (List Frame))
  /-- Reads all that comes from a descriptor, which is a script. -/
  | load (descriptor : Nat) (text : ByteArray)
  /-- Reads a line and assigns its fields to variables. -/
  | line (names : List Text) (raw : Bool) (text : ByteArray)
  | write (descriptor : Nat) (bytes : ByteArray)
  /-- Takes a status. -/
  | settle (status : Nat)
  /-- Undoes redirections. -/
  | restore (saved : Saved)
  /-- Undoes assignments. -/
  | unassign (replaced : Replaced)
  /-- Leaves a function, whose caller had these arguments and had searched them so far. What the
  function has for itself is what was replaced, and the switches if these are kept. -/
  | leave (arguments : List Text) (optionPlace : OptionPlace) (replaced : Replaced)
      (switches : Option (List Switch))
  /-- Leaves a text of commands that was brought in from within something else. -/
  | leaveText (within : Text)
  /-- Leaves a file of commands. What stands outside it does not look at the status of a command in
  it. -/
  | leaveFile
  /-- Stops an error of the commands above from ending the shell. -/
  | shield
  /-- An error of the commands: it ends the shell unless something stops it. -/
  | raise
  /-- Ends the action of a signal, and returns to the status before it. -/
  | handled (status : Nat)
  /-- Ends the shell. -/
  | quit (status : Nat)

/-- The programs that a shell has found by their names. -/
structure Located where
  /-- The places that were searched. -/
  places : Text
  /-- The names with the paths that were found, in the order in which they were. -/
  paths : List (Text × Text)

/-- The programs that are still known if these places are to be searched. -/
def Located.within (located : Located) (places : Text) : Located :=
  if located.places = places then located else ⟨places, []⟩

/-- The programs with one more. -/
def Located.add (located : Located) (name path : Text) : Located :=
  { located with paths := located.paths.filter (·.1 ≠ name) ++ [(name, path)] }

/-- Processes that a shell has started together in the background. -/
structure BackgroundJob where
  /-- The number that the shell calls it by. -/
  number : Nat
  processes : List Nat
  /-- Whether somebody has waited for its end. -/
  waited : Bool

/-- The process whose end tells the status of a job. -/
def BackgroundJob.last (job : BackgroundJob) : Nat := job.processes.getLast?.getD 0

/-- A shell at work. -/
structure Interpreter where
  env : Environment
  functions : List (Text × Script)
  /-- The names that stand for other text where a command begins. -/
  aliases : List (Text × Text)
  located : Located
  /-- The actions of signals; that of the number zero is run at the end. An empty one ignores the
  signal. -/
  traps : List (Nat × Text)
  /-- What was started in the background, the last one first. -/
  jobs : List BackgroundJob
  frames : List Frame
  /-- The line of the script that is being run. -/
  line : Nat
  /-- The status of the last script whose output was used in the current command. -/
  outputStatus : Nat
  /-- What has brought in the commands that are being run: `eval`, or the name of a file. It is
  empty for those that the shell was started with. -/
  within : Text
  /-- The command of the shell itself that is being run. -/
  command : Text
  /-- Whether the shell ends when that command goes wrong. -/
  isSpecial : Bool
  /-- The place where the shell believes to be: the names by which it has gone there. -/
  place : Path
  /-- Whether whoever started the shell looks at its status. -/
  tested : Bool
  /-- How many loops were under way when the shell was started by another one. -/
  outerLoops : Nat
  /-- Whether the shell was started by another one in a function. -/
  isInFunction : Bool
  /-- How many functions and files of commands have been entered and not left. -/
  depth : Nat

/-- What a process is doing. -/
inductive Body where
  | shell (shell : Interpreter)
  /-- It is about to become the program that its arguments name, or to say why it cannot. The
  program is looked for in the given places, or else in those that are exported. -/
  | program (arguments : List Text) (exports : List (Text × Text)) (places : Option Text)
      (failed : SystemError → Text)
  /-- A program at work, and the name that it goes by. -/
  | active (name : Text) (activity : Activity)
  /-- It waits for another process, and sends signals to the whole group at given times; `fired`
  says that it has sent one, and `isFaithful` that its status is that of the other process all the
  same. -/
  | guard (child : Nat) (alarms : List (Nat × Nat)) (fired isFaithful : Bool)
  | ended (exit : Exit)

/-- What a process waits for. -/
inductive Wait where
  | nothing
  /-- Bytes in a pipe, or its last writer gone. -/
  | input (pipe : Nat)
  /-- Room in a pipe, or its last reader gone. -/
  | room (pipe wanted : Nat)
  /-- The end of processes, or a signal if `attentive`. -/
  | children (ids : List Nat) (attentive : Bool)
  /-- The end of a process, or a time. -/
  | childUntil (id time : Nat)
  | forever

/-- A process. -/
structure Process where
  id : Nat
  parent : Nat
  group : Nat
  time : Nat
  /-- Open files by descriptor; from 10 on they are not passed to programs. -/
  descriptors : List (Nat × Nat)
  dir : Path
  /-- The permissions that new files are not given. -/
  mask : Nat
  ignored : List Nat
  /-- Signals whose actions are still to be run. -/
  pending : List Nat
  stopped : Bool
  /-- Whether the parent has taken note of its end. -/
  noted : Bool
  wait : Wait
  body : Body

/-- How a file is opened. -/
inductive Mode where
  | input
  | output
  | append
  | both
  deriving DecidableEq

/-- What an open file is. -/
inductive Target where
  /-- What has a number among the files. -/
  | file (number : Nat)
  | document (content : ByteArray)
  | readEnd (pipe : Nat)
  | writeEnd (pipe : Nat)
  /-- A channel out of the world, which takes everything. -/
  | channel (number : Nat)

/-- An open file. -/
structure OpenFile where
  target : Target
  offset : Nat
  mode : Mode

/-- Everything that commands act on. -/
structure World where
  files : Files
  clock : Nat
  processes : List (Nat × Process)
  openFiles : List (Nat × OpenFile)
  pipes : List (Nat × ByteArray)
  /-- What was written to each channel, the last first. -/
  channels : List (Nat × List ByteArray)
  /-- A number that names nothing yet. -/
  next : Nat

/-- The list with a value for a key, in place of the one it had. -/
def setKey {α : Type} (key : Nat) (value : α) (list : List (Nat × α)) : List (Nat × α) :=
  if list.any (·.1 = key) then list.map fun entry => if entry.1 = key then (key, value) else entry
  else list ++ [(key, value)]

/-- The list without a key. -/
def dropKey {α : Type} (key : Nat) (list : List (Nat × α)) : List (Nat × α) :=
  list.filter (·.1 ≠ key)

/-- Whether the process has ended. -/
def Process.isEnded (process : Process) : Bool := match process.body with
  | .ended _ => true
  | _ => false

/-- How the process ended, if it has. -/
def Process.exit? (process : Process) : Option Exit := match process.body with
  | .ended exit => some exit
  | _ => none

/-- The bytes that a pipe holds at most. -/
def pipeCapacity : Nat := 65536

/-- Writes of at most this size are not split up. -/
def pipeUnit : Nat := 4096

/-- The first descriptor that is not passed to programs. -/
def privateDescriptor : Nat := 10

namespace World

/-- The process of a number. -/
def process? (world : World) (id : Nat) : Option Process := world.processes.lookup id

/-- Changes the process of a number. -/
def modifyProcess (world : World) (id : Nat) (change : Process → Process) : World :=
  { world with processes := world.processes.map fun entry =>
      if entry.1 = id then (id, change entry.2) else entry }

/-- How a process ended, if it has. A process that is no longer known counts as ended. -/
def exit? (world : World) (id : Nat) : Option Exit :=
  match world.process? id with
  | some process => process.exit?
  | none => some (.exited 127)

/-! ## Open files -/

/-- Whether a running process has an open file that `accepts` holds of. -/
def anyOpen (world : World) (accepts : Target → Bool) : Bool :=
  world.processes.any fun (_, process) =>
    !process.isEnded && process.descriptors.any fun (_, id) =>
      ((world.openFiles.lookup id).map (accepts ·.target)).getD false

/-- The bytes in a pipe. -/
def held (world : World) (pipe : Nat) : ByteArray := (world.pipes.lookup pipe).getD ByteArray.empty

/-- Whether a pipe still has somebody to read from it. -/
def hasReader (world : World) (pipe : Nat) : Bool := world.anyOpen fun
  | .readEnd n => n = pipe
  | _ => false

/-- Whether a pipe still has somebody to write to it. -/
def hasWriter (world : World) (pipe : Nat) : Bool := world.anyOpen fun
  | .writeEnd n => n = pipe
  | _ => false

/-- Whether somebody may still write to a channel. -/
def hasChannel (world : World) (channel : Nat) : Bool := world.anyOpen fun
  | .channel n => n = channel
  | _ => false

/-- Forgets open files and pipes that no running process has. -/
def tidy (world : World) : World :=
  let used := (world.processes.filter (!·.2.isEnded)).flatMap fun (_, process) =>
    process.descriptors.map (·.2)
  let openFiles := world.openFiles.filter fun (id, _) => used.elem id
  let world := { world with openFiles }
  { world with pipes := world.pipes.filter fun (pipe, _) =>
      openFiles.any fun (_, file) => match file.target with
        | .readEnd n | .writeEnd n => n = pipe
        | _ => false }

/-- The open file behind a descriptor of a process. -/
def openFile? (world : World) (process : Process) (descriptor : Nat) : Option (Nat × OpenFile) := do
  let id ← process.descriptors.lookup descriptor
  let file ← world.openFiles.lookup id
  return (id, file)

/-- The world with an open file of the given number. -/
def setOpenFile (world : World) (id : Nat) (file : OpenFile) : World :=
  { world with openFiles := setKey id file world.openFiles }

/-- The world with a pipe of the given number that holds the given bytes. -/
def setPipe (world : World) (pipe : Nat) (held : ByteArray) : World :=
  { world with pipes := setKey pipe held world.pipes }

/-- The world with one more open file, and its number. -/
def addOpenFile (world : World) (target : Target) (mode : Mode) : Nat × World :=
  (world.next, { world with
    next := world.next + 1, openFiles := world.openFiles ++ [(world.next, ⟨target, 0, mode⟩)] })

/-- The world with one more pipe, and the open files at its two ends. -/
def addPipe (world : World) : Nat × Nat × World :=
  let pipe := world.next
  let world := { world with next := pipe + 1, pipes := world.pipes ++ [(pipe, ByteArray.empty)] }
  let (readEnd, world) := world.addOpenFile (.readEnd pipe) .input
  let (writeEnd, world) := world.addOpenFile (.writeEnd pipe) .output
  (readEnd, writeEnd, world)

/-- Bytes that follow no rule, from a position on. -/
def noise (start count : Nat) : ByteArray :=
  let byteAt (i : Nat) : UInt8 := UInt8.ofNat (i * 2654435761 / 65536 + i * i * 40503 / 512)
  ⟨((List.range count).map fun i => byteAt (start + i)).toArray⟩

/-- What comes of reading. -/
inductive Read where
  | bytes (bytes : ByteArray)
  | finished
  | blocked (wait : Wait)
  | refused (reason : Text)

/-- Reads at most `limit` bytes from a descriptor of a process. -/
def read (world : World) (process : Process) (descriptor limit : Nat) : Read × World :=
  match world.openFile? process descriptor with
  | none => (.refused badDescriptor, world)
  | some (id, file) =>
    let taken (content : ByteArray) : Read × World :=
      let bytes := content.extract file.offset (file.offset + limit)
      if bytes.isEmpty then (.finished, world)
      else (.bytes bytes, world.setOpenFile id { file with offset := file.offset + bytes.size })
    let isReadable := file.mode = .input || file.mode = .both
    if !isReadable then (.refused badDescriptor, world)
    else match file.target with
    | .document content => taken content
    | .file number =>
      match (world.files.node? number).map FileNode.kind with
      | some (.file content) => taken content
      | some (.device .zero) | some (.device .full) =>
        (.bytes ⟨Array.replicate (min limit Activity.chunkSize) 0⟩, world)
      | some (.device .random) =>
        let bytes := noise file.offset (min limit Activity.chunkSize)
        (.bytes bytes, world.setOpenFile id { file with offset := file.offset + bytes.size })
      | some .directory | none => (.refused SystemError.isDirectory.reason, world)
      | _ => (.finished, world)
    | .readEnd pipe =>
      let held := world.held pipe
      if held.isEmpty then
        if world.hasWriter pipe then (.blocked (.input pipe), world) else (.finished, world)
      else (.bytes (held.extract 0 limit), world.setPipe pipe (held.extract limit held.size))
    | .writeEnd _ | .channel _ => (.refused badDescriptor, world)

/-- What comes of writing. -/
inductive Written where
  /-- So many bytes were taken. -/
  | taken (count : Nat)
  | blocked (wait : Wait)
  /-- Nobody will read what is written. -/
  | broken
  | refused (reason : Text)

/-- Writes bytes, or the first of them, to a descriptor of a process. -/
def write (world : World) (process : Process) (descriptor : Nat) (bytes : ByteArray) :
    Written × World :=
  match world.openFile? process descriptor with
  | none => (.refused badDescriptor, world)
  | some (id, file) =>
    if file.mode = .input then (.refused badDescriptor, world)
    else match file.target with
    | .document _ | .readEnd _ => (.refused badDescriptor, world)
    | .file number =>
      match (world.files.node? number).map FileNode.kind with
      | some (.file content) =>
        let offset := if file.mode = .append then content.size else file.offset
        let files := world.files.write number (overwritten content offset bytes)
        (.taken bytes.size,
          { world with files }.setOpenFile id { file with offset := offset + bytes.size })
      | some (.device .full) => (.refused SystemError.noSpace.reason, world)
      | _ => (.taken bytes.size, world)
    | .channel channel =>
      let written := (world.channels.lookup channel).getD []
      let channels := setKey channel (bytes :: written) world.channels
      (.taken bytes.size, { world with channels })
    | .writeEnd pipe =>
      if !world.hasReader pipe then (.broken, world)
      else
        let held := world.held pipe
        let room := pipeCapacity - held.size
        let wanted := if bytes.size ≤ pipeUnit then bytes.size else 1
        if room < wanted then (.blocked (.room pipe wanted), world)
        else
          let taken := bytes.extract 0 room
          (.taken taken.size, world.setPipe pipe (held ++ taken))

/-- Gives back the last bytes that were read from a descriptor of a process, if it can be read anew.
-/
def giveBack (world : World) (process : Process) (descriptor count : Nat) : World :=
  match world.openFile? process descriptor with
  | some (id, file) => match file.target with
    | .file _ => world.setOpenFile id { file with offset := file.offset - count }
    | _ => world
  | none => world

/-- All that was written to a channel. -/
def channelBytes (world : World) (channel : Nat) : ByteArray :=
  ((world.channels.lookup channel).getD []).reverse.foldl (· ++ ·) ByteArray.empty

/-! ## Processes -/

/-- What a child process starts with. -/
structure Start where
  parent : Nat
  group : Nat
  time : Nat
  descriptors : List (Nat × Nat)
  dir : Path
  mask : Nat
  ignored : List Nat
  body : Body

/-- What a child of a process starts with that is to do as the process does, `delay` later. -/
def Start.ofParent (parent : Process) (delay : Nat) (body : Body) : Start where
  parent := parent.id
  group := parent.group
  time := parent.time + delay
  descriptors := parent.descriptors
  dir := parent.dir
  mask := parent.mask
  ignored := parent.ignored
  body := body

/-- The world with one more process, and its number. -/
def addProcess (world : World) (start : Start) : Nat × World :=
  let id := world.next
  let process : Process := ⟨id, start.parent, start.group, start.time, start.descriptors, start.dir,
    start.mask, start.ignored, [], false, false, .nothing, start.body⟩
  (id, { world with next := id + 1, processes := world.processes ++ [(id, process)] })

/-- Forgets the processes that have ended and whose parent has ended too, so that nobody will ask
about them. -/
def reap (world : World) : World :=
  let running (id : Nat) : Bool := match world.process? id with
    | some process => !process.isEnded
    | none => false
  { world with processes := world.processes.filter fun (_, process) =>
      !process.isEnded || process.parent = 0 || running process.parent }

/-- Ends a process. -/
def endProcess (world : World) (id : Nat) (exit : Exit) : World :=
  (world.modifyProcess id fun process => { process with
    body := .ended exit, descriptors := [], pending := [], wait := .forever }).tidy.reap

/-- Takes note of the children of a process that have ended. -/
def noteEnds (world : World) (parent : Nat) : World :=
  { world with processes := world.processes.map fun (id, process) =>
      if process.parent = parent && process.isEnded then (id, { process with noted := true })
      else (id, process) }

/-- Forgets a process that has ended. -/
def forget (world : World) (id : Nat) : World :=
  { world with processes := dropKey id world.processes }

/-- What a shell does about a signal, if it is a shell and does something. -/
def actionOf (process : Process) (signal : Nat) : Option Text := match process.body with
  | .shell shell => shell.traps.lookup signal
  | _ => none

/-- Sends a signal to a process at a time. -/
def signal (world : World) (id signal time : Nat) : World :=
  match world.process? id with
  | none => world
  | some process =>
    if process.isEnded then world
    else if signal = sigKill then world.endProcess id (.signalled signal)
    else if signal = sigContinue then
      world.modifyProcess id fun process =>
        { process with stopped := false, time := max process.time time }
    else if signal = sigStop then world.modifyProcess id ({ · with stopped := true })
    else if process.ignored.elem signal then world
    else match actionOf process signal with
      | some _ =>
        world.modifyProcess id fun process => { process with
          pending := process.pending ++ [signal]
          time := match process.wait with
            | .children _ true => max process.time time
            | _ => process.time
          wait := match process.wait with
            | .children _ true => .nothing
            | wait => wait }
      | none =>
        if ignoredByDefault signal then world
        else if stopsByDefault signal then world.modifyProcess id ({ · with stopped := true })
        else world.endProcess id (.signalled signal)

/-- The running processes of a group. -/
def members (world : World) (group : Nat) : List Nat :=
  (world.processes.filter fun (_, process) => process.group = group && !process.isEnded).map (·.1)

/-- Sends a signal to a process, or to a group if the number is negative. Whether there was anyone
to send it to comes with the new world; the first process of the system is always there, and no
signal changes it. -/
def signalAll (world : World) (target : Int) (number time : Nat) : Bool × World :=
  let isThere (id : Nat) : Bool := id = 1 || ((world.process? id).map (!·.noted)).getD false
  let ids := if target < 0 then world.members target.natAbs
    else if isThere target.toNat then [target.toNat] else []
  (!ids.isEmpty,
    if number = 0 then world else ids.foldl (fun world id => world.signal id number time) world)

/-! ## Waiting -/

/-- Whether what a process waits for has happened. -/
def isOver (world : World) : Wait → Bool
  | .nothing => true
  | .input pipe =>
    !(world.held pipe).isEmpty || !world.hasWriter pipe
  | .room pipe wanted =>
    wanted ≤ pipeCapacity - (world.held pipe).size || !world.hasReader pipe
  | .children ids _ => ids.all fun id => (world.exit? id).isSome
  | .childUntil id time => (world.exit? id).isSome || time ≤ world.clock
  | .forever => false

/-- How long it takes until a process learns of the end of another one. -/
def noticeTime : Nat := 100000

/-- Lets the processes go on for which the wait is over at the given time. -/
def wake (world : World) (time : Nat) : World :=
  let wakeAt (process : Process) (time : Nat) : Process :=
    { process with wait := .nothing, time := max process.time time }
  { world with processes := world.processes.map fun (id, process) =>
      let isOver := world.isOver process.wait
      match process.wait with
      | .nothing | .forever => (id, process)
      | .children _ _ => (id, if isOver then wakeAt process (time + noticeTime) else process)
      | _ => (id, if isOver then wakeAt process time else process) }

/-- The time at which a process can take a step by itself, if there is one. -/
def readyTime (process : Process) : Option Nat :=
  if process.isEnded || process.stopped then none
  else match process.wait with
    | .nothing => some process.time
    | .childUntil _ time => some (max process.time time)
    | _ => none

/-- The process that takes the next step, with the time of the step: of those that can, the one with
the earliest time. -/
def nextProcess (world : World) : Option (Process × Nat) :=
  world.processes.foldl (fun found (_, process) =>
    match found, readyTime process with
    | some (best, soonest), some time =>
      if time < soonest then some (process, time) else some (best, soonest)
    | none, some time => some (process, time)
    | found, none => found) none

end World

end Runbook.Shell
