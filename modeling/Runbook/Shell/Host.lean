import Runbook.Program
import Runbook.Shell.Executor

/-!
# A world to run the program in

`World.host` lets the program run in a world of files and processes, in its working directory.
-/

namespace Runbook.Shell.World

/-- Worlds as systems that the program runs on. -/
def host : Host World where
  isFile world path := world.files.isFile workplace (ofByteList path.bytes)
  isPresent world path := (world.files.find workplace (ofByteList path.bytes)).isOk
  read world path := world.files.read workplace (ofByteList path.bytes)
  makeDirectories world path :=
    let (made, files) := world.files.makeDirectories workplace (ofByteList path.bytes)
    (made, { world with files })
  execute := execute

end Runbook.Shell.World
