import Runbook.Shell.Utility
import Runbook.Shell.World

/-!
# Opening files

`World.openPath` opens what a text means, and `World.redirect` applies the redirections of a command
to the descriptors of a process, from left to right. What a descriptor was before is kept under a
private one, from which `World.restore` brings it back.

`World.visible` is the files as a process sees them, with those that describe processes, and
`World.program?` finds the program that a name means.
-/

namespace Runbook.Shell

namespace World

/-- The line that describes a process. Its first fields are the number, the name and the state, then
the numbers of the parent and of the group follow. -/
def describe (process : Process) : Text :=
  let numbers := [process.parent, process.group, process.group]
  Text.ofNat process.id ++ " (sh) S " ++ List.intercalate [' '] (numbers.map Text.ofNat) ++
    (List.replicate 45 [' ', '0']).flatten ++ ['\n']

/-- The number of the file that is open, if it is one by itself. -/
def fileNumber? (world : World) (id : Nat) : Option Nat :=
  match (world.openFiles.lookup id).map OpenFile.target with
  | some (.file number) => some number
  | _ => none

/-- The path at which a process sees what it has open. -/
def descriptorPath (descriptor : Nat) : Path := descriptorPlace ++ [Text.ofNat descriptor]

/-- The files as a process sees them. -/
def visible (world : World) (id : Nat) : Files :=
  let files := world.files
  let shown (name : Text) (process : Process) : List (Path × FileKind) := [
    (["proc", name], .directory),
    (["proc", name, "stat"], .file (toBytes (describe process)))]
  let running := world.processes.filter (!·.2.isEnded)
  let own (process : Process) : List (Path × FileKind) :=
    shown "self" process ++ [(descriptorPlace, .directory)] ++
      process.descriptors.filterMap fun (descriptor, id) => match world.fileNumber? id with
        | some _ => none
        | none => some (descriptorPath descriptor, .pipe)
  let kept (process : Process) : List (Path × Nat) :=
    process.descriptors.filterMap fun (descriptor, id) =>
      (world.fileNumber? id).map (descriptorPath descriptor, ·)
  let process? := world.process? id
  let all := (running.flatMap fun (_, process) => shown (Text.ofNat process.id) process) ++
    (process?.map own).getD []
  let made := all.zipIdx files.next
  { files with
    entries := made.map (fun ((path, _), number) => (path, number)) ++
      (process?.map kept).getD [] ++ files.entries
    nodes := made.map (fun ((_, kind), number) => (number, ⟨kind, 292, files.now⟩)) ++ files.nodes
    next := files.next + made.length }

/-! ## Descriptors -/

/-- The permissions of a new file. -/
def newPermissions (mask : Nat) : Nat := 438 - (438 &&& mask)

/-- Opens what a text means for a process. A file that is written is made if it does not exist, and
emptied unless it is appended to. -/
def openPath (world : World) (process : Process) (text : Text) (mode : Mode) :
    Except SystemError (Nat × World) := do
  let files := world.visible process.id
  let path ← files.resolve process.dir text
  match files.number? path, files.get? path with
  | some number, some node =>
    match node.kind, mode with
    | .directory, .input => return world.addOpenFile (.file number) mode
    | .directory, _ => throw .isDirectory
    | .device .terminal, _ => throw .noDevice
    | .file content, mode =>
      if (world.files.node? number).isNone then return world.addOpenFile (.document content) mode
      let world := if mode = .output then
        { world with files := world.files.write number ByteArray.empty } else world
      return world.addOpenFile (.file number) mode
    | .pipe, mode =>
      match (descriptorAt? path).bind fun n => process.descriptors.lookup n with
      | some id => return (id, world)
      | none => return world.addOpenFile (.file number) mode
    | _, mode => return world.addOpenFile (.file number) mode
  | _, _ =>
    if mode = .input || !world.files.isDirectoryAt path.dropLast then throw .notFound
    if text.getLast? = some '/' then throw .isDirectory
    let number := world.files.next
    let made := world.files.put path (.file ByteArray.empty) (newPermissions process.mask)
    return { world with files := made }.addOpenFile (.file number) mode

/-- What a script that a text means is read from. -/
inductive Reading where
  | text (text : Text)
  /-- A descriptor that is already open. -/
  | descriptor (descriptor : Nat)

/-- What a process reads a script from that a text means. A directory holds no commands. -/
def reading (world : World) (process : Process) (text : Text) : Except SystemError Reading := do
  let (path, node) ← (world.visible process.id).find process.dir text
  match descriptorAt? path, node.kind with
  | some descriptor, .pipe => return .descriptor descriptor
  | _, _ => return .text (ofBytes node.content)

/-- The first descriptor from `start` on that is free; `bound` is how many may be in use. -/
def freeDescriptor (descriptors : List (Nat × Nat)) : Nat → Nat → Nat
  | 0, start => start
  | bound + 1, start =>
    if (descriptors.lookup start).isSome then freeDescriptor descriptors bound (start + 1)
    else start

/-- The first free descriptor of a process from `start` on. -/
def free (process : Process) (start : Nat) : Nat :=
  freeDescriptor process.descriptors process.descriptors.length start

/-- The descriptors with one of them changed or closed. -/
def withDescriptor (descriptors : List (Nat × Nat)) (descriptor : Nat) (id : Option Nat) :
    List (Nat × Nat) :=
  match id with
  | some id => setKey descriptor id descriptors
  | none => dropKey descriptor descriptors

/-- The descriptors that are passed to a program. -/
def passed (descriptors : List (Nat × Nat)) : List (Nat × Nat) :=
  descriptors.filter (·.1 < privateDescriptor)

/-! ## Redirections -/

/-- Why a file could not be opened, as the shell says it. -/
def openingMessage (creates : Bool) (name : Text) (error : SystemError) : Text :=
  let reason (missing : Text) : Text :=
    if error = .notFound || error = .notDirectory then missing else error.reason
  if creates then "cannot create " ++ name ++ ": " ++ reason "Directory nonexistent"
  else "cannot open " ++ name ++ ": " ++ reason "No such file"

/-- The open file that a redirection wants, if it wants one. -/
def opening (world : World) (process : Process) (change : Change) :
    Except Text (Option Nat × World) :=
  let opened (mode : Mode) (creates : Bool) : Except Text (Option Nat × World) :=
    match world.openPath process change.target mode with
    | .ok (id, world) => .ok (some id, world)
    | .error error => .error (openingMessage creates change.target error)
  match change.kind with
  | .input => opened .input false
  | .output =>
    match change.keeps, (world.visible process.id).find process.dir change.target with
    | true, .ok (_, node) =>
      if node.isFile then .error (openingMessage true change.target .fileExists)
      else opened .output true
    | _, _ => opened .output true
  | .overwrite => opened .output true
  | .append => opened .append true
  | .both => opened .both true
  | .document | .promised _ =>
    let (id, world) := world.addOpenFile (.document (toBytes change.target)) .input
    .ok (some id, world)
  | .duplicate =>
    match natural? change.target with
    | none => .ok (none, world)
    | some n => match process.descriptors.lookup n with
      | some id => .ok (some id, world)
      | none => .error (change.target ++ ": " ++ badDescriptor)

/-- Applies a redirection to a process, and adds what its descriptor was before to what is saved; or
says why it has failed. -/
def redirect (world : World) (id : Nat) (change : Change) (saved : Saved) :
    Except Text (Saved × World) := do
  match world.process? id with
  | none => return (saved, world)
  | some process =>
    let (file, world) ← world.opening process change
    let before := process.descriptors.lookup change.descriptor
    let isSaved := saved.any (·.1 = change.descriptor)
    let keeper := free process privateDescriptor
    let (saved, descriptors) := match isSaved, before with
      | true, _ => (saved, process.descriptors)
      | false, none => ((change.descriptor, none) :: saved, process.descriptors)
      | false, some before =>
        ((change.descriptor, some keeper) :: saved, setKey keeper before process.descriptors)
    let descriptors := withDescriptor descriptors change.descriptor file
    return (saved, world.modifyProcess id ({ · with descriptors }))

/-- Brings descriptors of a process back to what they were. -/
def restore (world : World) (id : Nat) (saved : Saved) : World :=
  (world.modifyProcess id fun process =>
    { process with descriptors := saved.foldl (fun descriptors (descriptor, keeper) =>
        match keeper with
        | some keeper =>
          dropKey keeper (withDescriptor descriptors descriptor (descriptors.lookup keeper))
        | none => dropKey descriptor descriptors) process.descriptors }).tidy

/-- Forgets what descriptors were before redirections, so that those are there to stay. -/
def release (world : World) (id : Nat) (saved : Saved) : World :=
  (world.modifyProcess id fun process =>
    { process with descriptors := saved.foldl (fun descriptors (_, keeper) =>
        match keeper with
        | some keeper => dropKey keeper descriptors
        | none => descriptors) process.descriptors }).tidy

/-! ## Programs -/

/-- A program that has been found. -/
inductive Program where
  | utility (run : Utility)
  | shell
  /-- A file of commands, and its path as it was given. -/
  | script (content : ByteArray) (name : Text)

/-- The directories with programs. -/
def programDirectories : List Path := [["bin"], ["usr", "bin"]]

/-- Where programs are looked for by default. -/
def defaultSearch : Text := "/usr/local/sbin:/usr/local/bin:/usr/sbin:/usr/bin:/sbin:/bin"

/-- The program at the path that a text means. -/
def programAt (world : World) (dir : Path) (text : Text) : Except SystemError Program := do
  let (path, node) ← world.files.find dir text
  if !node.isFile || !node.isExecutable then throw .permissionDenied
  if programDirectories.elem path.dropLast then
    let name := path.getLast?.getD []
    if Utility.shellNames.elem name then return .shell
    match Utility.find? name with
    | some run => return .utility run
    | none => return .script node.content text
  else return .script node.content text

/-- The names that a name may stand for, given the places to search. -/
def candidates (places name : Text) : List Text :=
  (Text.pieces ':' places).map fun place =>
    if place.isEmpty then name else place ++ '/' :: name

/-- Where a name is found among the places to search. -/
def search? (world : World) (dir : Path) (places name : Text) : Option Text :=
  (candidates places name).find? fun text => (world.programAt dir text).isOk

/-- The program that a name means. -/
def program? (world : World) (dir : Path) (places : Text) (name : Text) :
    Except SystemError Program :=
  if name.elem '/' then world.programAt dir name
  else match world.search? dir places name with
    | some text => world.programAt dir text
    | none =>
      if (candidates places name).any fun text => (world.files.find dir text).isOk then
        .error .permissionDenied
      else .error .notFound

/-- The status of a process that could not run the program of a name. -/
def failureStatus (name : Text) (error : SystemError) : Nat :=
  if error = .notFound || error = .notDirectory || !name.elem '/' then 127 else 126

end World

end Runbook.Shell
