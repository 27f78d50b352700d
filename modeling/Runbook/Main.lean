import Runbook.Shell.Host

/-!
# The command line

The program takes the files of its working directory into a world, runs there, and puts back what
has become of them. Commands are run by the shell of the library, and never by the system.
-/

namespace Runbook.Main

/-- The files that a listing gives, and those in its directories down to a depth. Their names are
given after `parent`. -/
def readFiles : Nat → IO (Array IO.FS.DirEntry) → Text → IO (List (Text × Option ByteArray))
  | 0, _, _ => return []
  | depth + 1, list, parent => do
    let found ← (← list).toList.mapM fun entry => do
      let name := parent ++ entry.fileName.toList
      match (← entry.path.metadata).type with
      | .dir =>
        return (name, none) :: (← readFiles depth entry.path.readDir (name ++ ['/']))
      | .file => return [(name, some (← IO.FS.readBinFile entry.path))]
      | _ => return []
    return found.flatten

/-- How deep directories are looked into. -/
def depthLimit : Nat := 64

/-- Writes what has changed in the working directory. -/
def writeFiles (before after : List (Text × Option ByteArray)) : IO Unit := do
  for (name, content) in after do
    let path := String.ofList name
    match content with
    | none => IO.FS.createDirAll path
    | some bytes =>
      match before.lookup name with
      | some (some old) => if old.data != bytes.data then IO.FS.writeBinFile path bytes
      | _ => IO.FS.writeBinFile path bytes
  for (name, content) in before do
    if content.isSome && !after.any (·.1 = name) then IO.FS.removeFile (String.ofList name)

/-- Runs the program with its arguments. Reference: `main`. -/
def run (arguments : List String) : IO UInt32 := do
  let before ← readFiles depthLimit (do (← IO.currentDir).readDir) []
  let level ← IO.getEnv "BENCHSEQ_LOG"
  let noColor ← IO.getEnv "NO_COLOR"
  let stdout ← IO.getStdout
  let screen : Screen := ⟨← stdout.isTty, noColor.isSome⟩
  let (answer, world) := Program.start Shell.World.host screen
    (arguments.map String.toList) (level.map String.toList) (Shell.World.ofEntries before)
  writeFiles before world.listing
  stdout.write ⟨answer.stdout.toArray⟩
  stdout.flush
  for notice in answer.notices do
    IO.eprintln (String.ofList (notice.level.name ++ ": " ++ notice.text))
  IO.eprint (String.ofList answer.stderr)
  return answer.status.toUInt32

end Runbook.Main

/-- The program. -/
def main (arguments : List String) : IO UInt32 := Runbook.Main.run arguments
