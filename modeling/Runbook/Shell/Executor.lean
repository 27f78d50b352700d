import Runbook.Sequence.Run
import Runbook.Shell.Step

/-!
# Running commands

`World.execute` runs one command: it starts a shell for its line, lets processes take their steps in
the order of their times, and ends once the shell has ended and nobody can write to its two channels
any more. If the shell has not ended when the time limit expires, all processes of its group are
killed at once.

Steps are counted, so that every execution ends; the bound is far beyond what a command takes that
ends by itself.
-/

namespace Runbook.Shell

/-- The directory in which commands are run. -/
def workplace : Path := ["work"]

/-- The permissions that new files are not given. -/
def startMask : Nat := 18

/-- The number of steps after which an execution is given up. -/
def stepLimit : Nat := 20000000

namespace World

/-- The directories that are there before anything is run. -/
def systemDirectories : List Path := [
  ["bin"], ["boot"], ["dev"], ["etc"], ["home"], ["lib"], ["media"], ["mnt"], ["opt"], ["proc"],
  ["root"], ["run"], ["sbin"], ["srv"], ["sys"], ["tmp"], ["usr"], ["usr", "bin"], ["usr", "lib"],
  ["usr", "local"], ["usr", "local", "bin"], ["usr", "local", "sbin"], ["usr", "sbin"],
  ["usr", "share"], ["var"], ["var", "lib"], ["var", "log"], ["var", "tmp"], workplace]

/-- The devices that are there. -/
def systemDevices : List (Text × Device) := [
  ("zero", .zero), ("full", .full), ("random", .random), ("urandom", .random), ("tty", .terminal)]

/-- The links that are there, with what they lead to. -/
def systemLinks : List (Text × Text) := [
  ("fd", "/proc/self/fd"), ("stdin", "/proc/self/fd/0"), ("stdout", "/proc/self/fd/1"),
  ("stderr", "/proc/self/fd/2")]

/-- The files that are there before anything is run: programs, devices and directories. -/
def systemFiles : Files :=
  let files := { Files.empty with now := startTime }
  let files := systemDirectories.foldl (·.put · .directory Files.directoryPermissions) files
  let files := systemDevices.foldl (fun files (name, device) =>
    files.put ["dev", name] (.device device) 438) (files.bind ["dev", "null"] Files.nullNumber)
  let files := systemLinks.foldl (fun files (name, target) =>
    files.put ["dev", name] (.link target) 511) files
  let files := files.put ["etc", "passwd"] (.file (toBytes "root:x:0:0:root:/root:/bin/sh\n")) 420
  programDirectories.foldl (fun files directory => Utility.names.foldl (fun files name =>
    files.put (directory ++ [name]) (.file ByteArray.empty) 493) files) files

/-- The files with one more in the working directory, or a directory if there is no content. The
directories on the way to it are made. -/
def withEntry (files : Files) (name : Text) (content : Option ByteArray) : Files :=
  let names := Files.names (rawText name)
  let parents := if content.isSome then names.dropLast else names
  let (_, files) := files.makeDirectories workplace (List.intercalate ['/'] parents)
  match content with
  | some bytes => files.put (workplace ++ names) (.file bytes) (newPermissions startMask)
  | none => files

/-- A world in which nothing has been run, with the given files in the working directory. -/
def ofEntries (entries : List (Text × Option ByteArray)) : World where
  files := entries.foldl (fun files (name, content) => withEntry files name content) systemFiles
  clock := 0
  processes := []
  openFiles := []
  pipes := []
  channels := []
  next := 1000

/-- What stands in the working directory, in the order of the names: files with their contents, and
directories, which have a slash behind their names. A link counts as what it leads to. -/
def listing (world : World) : List (Text × Option ByteArray) :=
  let found := world.files.entries.filterMap fun (path, _) =>
    if !workplace.isPrefixOf path || path = workplace then none
    else
      let name := List.intercalate ['/'] (path.drop workplace.length)
      match world.files.find [] (Files.pathText path) with
      | .ok (_, node) => match node.kind with
        | .file content => some (name, some content)
        | .directory => some (name ++ ['/'], none)
        | _ => none
      | .error _ => none
  (found.mergeSort fun a b => textBefore a.1 b.1).map fun (name, content) =>
    (readText name, content)

/-- What programs are told by their environment. -/
def exports : List (Text × Text) := [
  ("PATH", defaultSearch), ("HOME", "/root"), ("PWD", Files.pathText workplace)]

/-- The world with the process of a command, which starts at a time, and the numbers of that process
and of its two channels. Reference: `shell_command`. -/
def launch (world : World) (line : Text) (time : Nat) : Nat × Nat × Nat × World :=
  let (input, world) := world.addOpenFile (.file Files.nullNumber) .input
  let (output, world) := world.addOpenFile (.channel world.next) .output
  let (errors, world) := world.addOpenFile (.channel world.next) .output
  let frames := scriptFrames (rawText line)
  let shell := Interpreter.start "sh" [] exports world.next 0 workplace frames
  let (id, world) := world.addProcess ⟨0, world.next, time,
    [(0, input), (1, output), (2, errors)], workplace, startMask, [], .shell shell⟩
  (id, output, errors, world)

/-- How the process of a command ended. -/
def endingOf : Exit → Ending
  | .exited status => .exited status
  | .signalled signal => .signalled signal

/-- Kills all processes of a group at a time. Reference: `kill_process_group`. -/
def killGroup (world : World) (group time : Nat) : World :=
  { (world.members group).foldl (fun world id => world.signal id sigKill time) world with
    clock := time }

/-- How a command ends where it is left, and the world after it: if its shell has not ended it is
killed, with its group if it has a deadline. -/
def stop (world : World) (id : Nat) (deadline : Option Nat) : Ending × World :=
  match world.exit? id, deadline with
  | some exit, _ => (endingOf exit, world)
  | none, some time => (.timedOut, world.killGroup id time)
  | none, none => (.signalled sigKill, world)

/-- Lets processes take their steps until a command is over. -/
def runUntil (id output errors : Nat) (deadline : Option Nat) : Nat → World → Ending × World
  | 0, world => (.signalled sigKill, world)
  | steps + 1, world =>
    let hasEnded := (world.exit? id).isSome
    if hasEnded && !world.hasChannel output && !world.hasChannel errors then
      world.stop id deadline
    else match world.nextProcess with
      | none => world.stop id deadline
      | some (process, time) =>
        if !hasEnded && deadline.any (· ≤ time) then world.stop id deadline
        else runUntil id output errors deadline steps (world.step process time)

/-- Runs a command. Reference: `ShellExecutor::execute`. -/
def execute : Sequence.Executor World := fun world command =>
  match command.obstacle? with
  | some reason => (.ofEnding command (.notStarted reason) [] [], world)
  | none =>
    let start := world.clock + Act.forkTime + Act.loadTime
    let (id, output, errors, launched) := world.launch command.line start
    let deadline := command.timeout.map fun limit => start + limit.nanoseconds
    let (ending, after) := launched.runUntil id output errors deadline stepLimit
    let text (channel : Nat) : Text := Utf8.decodeLossy (after.channelBytes channel).toList
    (.ofEnding command ending (text output) (text errors),
      { after.forget id with channels := [] })

end World

end Runbook.Shell
