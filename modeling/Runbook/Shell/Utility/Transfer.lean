import Runbook.Shell.Utility.File

/-!
# Copying and moving

`cp` and `mv` take files, and directories with all that is in them, to another place. A copy of a
file goes into the file that is there, while what is moved takes its place.
-/

namespace Runbook.Shell.Utility

/-- How files are taken to another place. -/
structure Transfer where
  job : Job
  given : Given
  moves : Bool

namespace Transfer

/-- The verb of the program. -/
def verb (transfer : Transfer) : Text := if transfer.moves then "move" else "copy"

/-- Whether directories are taken with all that is in them. -/
def isDeep (transfer : Transfer) : Bool :=
  transfer.moves || transfer.given.has 'r' || transfer.given.has 'R' || transfer.given.has 'a'

/-- Whether a link is followed rather than taken itself. -/
def follows (transfer : Transfer) : Bool :=
  let given := transfer.given
  !transfer.moves && match given.lastOf? "PdaLH" with
    | some 'L' | some 'H' => true
    | some _ => false
    | none => !(given.has 'r' || given.has 'R')

/-- Whether times and permissions are kept. -/
def isFaithful (transfer : Transfer) : Bool :=
  transfer.moves || transfer.given.has 'p' || transfer.given.has 'a'

/-- Shows what was done with a file. -/
def tell (transfer : Transfer) (name place : Text) : Errand Unit := do
  if transfer.given.has 'v' then
    if transfer.moves then Errand.shows ("renamed " ++ named name ++ " -> " ++ named place)
    else Errand.shows (named name ++ " -> " ++ named place)

/-- The permissions of a copy. -/
def permissions (transfer : Transfer) (node : FileNode) : Nat :=
  if transfer.isFaithful then node.permissions
  else node.permissions % 512 - (node.permissions % 512 &&& transfer.job.mask)

/-- Complains that something cannot be made at a place. -/
def notMade (node : FileNode) (place : Text) (error : SystemError) : Errand Unit :=
  let kind : Text := match node.kind with
    | .directory => "directory "
    | .link _ => "symbolic link "
    | _ => "regular file "
  Errand.complains ("cannot create " ++ kind ++ named place ++ ": " ++ error.reason)

/-- Copies a file that is no directory to a path, where `before` stands. -/
def copyFile (transfer : Transfer) (node : FileNode) (path : Path) (before : Option FileNode) :
    Errand Unit := do
  let files ← Errand.files
  let kind : FileKind := match node.kind with
    | .device _ => if transfer.isDeep then node.kind else .file ByteArray.empty
    | kind => kind
  let overwritten := match kind, before with
    | .file _, some before => if before.isLink then none else files.number? path
    | _, _ => none
  match overwritten with
  | some number => Errand.change (·.write number node.content)
  | none => Errand.change fun files =>
    (files.erase path).put path kind (if node.isLink then 511 else transfer.permissions node)
  if transfer.isFaithful then
    Errand.change fun files => match files.number? path with
      | some number => files.modify number fun copy =>
        { copy with modified := node.modified, permissions := node.permissions }
      | none => files

/-- Copies what stands at a path, with what is in it up to a depth, to another path. -/
def copy (transfer : Transfer) : Nat → Text → Path → FileNode → Text → Path → Errand Unit
  | 0, _, _, _, _, _ => return ()
  | depth + 1, name, source, node, place, path => do
    let before := (← Errand.files).get? path
    let children := ((← Errand.files).children source).mergeSort textBefore
    if node.isDirectory then
      if (before.map fun node => !node.isDirectory).getD false then
        Errand.complains ("cannot overwrite non-directory " ++ named place ++ " with directory " ++
          named name)
      else
        if before.isNone then
          Errand.change fun files => files.put path .directory (transfer.permissions node)
          transfer.tell name place
        for child in children do
          match (← Errand.files).get? (source ++ [child]) with
          | some node =>
            copy transfer depth (inside name child) (source ++ [child]) node (inside place child)
              (path ++ [child])
          | none => pure ()
    else if (before.map FileNode.isDirectory).getD false then
      Errand.complains ("cannot overwrite directory " ++ named place ++ " with non-directory")
    else
      transfer.copyFile node path before
      transfer.tell name place

/-- Moves what stands at a path to another path. -/
def move (name : Text) (source : Path) (node : FileNode) (place : Text) (path : Path) :
    Errand Unit := do
  let files ← Errand.files
  let before := files.get? path
  let isDirectory := (before.map FileNode.isDirectory).getD false
  if node.isDirectory && before.isSome && !isDirectory then
    Errand.complains ("cannot overwrite non-directory " ++ named place ++ " with directory " ++
      named name)
  else if !node.isDirectory && isDirectory then
    Errand.complains ("cannot overwrite directory " ++ named place ++ " with non-directory")
  else if isDirectory && !(files.children path).isEmpty then
    Errand.complains ("cannot overwrite " ++ named place ++ ": " ++ SystemError.notEmpty.reason)
  else Errand.change (·.move source path)

/-- Whether what stands at the place may be replaced; why not is said. -/
def mayReplace (transfer : Transfer) (node before : FileNode) (place : Text) : Errand Bool := do
  match transfer.given.lastOf? "nif" with
  | some 'n' =>
    if transfer.moves then Errand.complains ("not replacing " ++ named place)
    return false
  | some 'i' =>
    if ← Errand.asks ("overwrite " ++ named place) then return true
    Errand.tell .fails
    return false
  | _ => return !transfer.given.has 'u' || before.modified < node.modified

/-- Takes what a name means to a place. -/
def take (transfer : Transfer) (place name : Text) : Errand Unit := do
  let job := transfer.job
  let files ← Errand.files
  let refused (error : SystemError) : Errand Unit :=
    Errand.complains ("cannot move " ++ named name ++ " to " ++ named place ++ ": " ++ error.reason)
  match files.findLink transfer.follows job.dir name with
  | .error error => Errand.complains ("cannot stat " ++ named name ++ ": " ++ error.reason)
  | .ok (source, node) =>
    let last := lastName name
    if node.isDirectory && !transfer.isDeep then
      Errand.complains ("-r not specified; omitting directory " ++ named name)
    else if transfer.moves && node.isDirectory && (last = "." || last = "..") then
      Errand.complains ("cannot move " ++ named name ++ " to " ++ named place ++
        ": Device or resource busy")
    else match files.resolveLink (!transfer.moves && !node.isLink) job.dir place with
    | .error error =>
      if error = .notDirectory then
        Errand.complains ("cannot stat " ++ named place ++ ": " ++ error.reason)
      else if transfer.moves then refused error
      else notMade node place error
    | .ok path =>
      let before := files.get? path
      let sameNumber := files.number? path = files.number? source
      if before.isNone && place.getLast? = some '/' && !node.isDirectory then
        if transfer.moves then refused .notDirectory else notMade node place .notDirectory
      else if before.isNone && (files.findLink false job.dir place).isOk && !transfer.moves &&
          !node.isLink then
        Errand.complains ("not writing through dangling symlink " ++ named place)
      else if node.isDirectory && source.isPrefixOf path && (before.isNone || !sameNumber) ||
          node.isDirectory && sameNumber then
        if transfer.moves then
          Errand.complains ("cannot move " ++ named name ++ " to a subdirectory of itself, " ++
            named place)
        else
          Errand.complains ("cannot copy a directory, " ++ named name ++ ", into itself, " ++
            named place)
          if before.isNone then
            Errand.change (·.put path .directory (transfer.permissions node))
      else if before.isSome && sameNumber then
        Errand.complains (named name ++ " and " ++ named place ++ " are the same file")
      else
        let isFree ← match before with
          | some before =>
            if before.isDirectory || node.isDirectory then pure true
            else transfer.mayReplace node before place
          | none => pure true
        if isFree then
          if transfer.moves then
            let failures := (← get).remarks.length
            move name source node place path
            if (← get).remarks.length = failures then transfer.tell name place
          else if transfer.given.has 'l' && !node.isDirectory then
            match files.number? source with
            | some number => Errand.change (·.bind path number)
            | none => pure ()
          else if transfer.given.has 's' && !node.isDirectory then
            Errand.change (·.put path (.link name) 511)
          else transfer.copy Files.pathLimit name source node place path

end Transfer

/-- The options of `cp` and `mv`. -/
def transferSwitches : Switches where
  plain := "rRafpvniuTPdLHlsZ"
  valued := "t"
  long := [("recursive", 'r'), ("archive", 'a'), ("force", 'f'), ("verbose", 'v'),
    ("no-clobber", 'n'), ("interactive", 'i'), ("update", 'u'), ("no-target-directory", 'T'),
    ("target-directory", 't'), ("link", 'l'), ("symbolic-link", 's'), ("dereference", 'L'),
    ("no-dereference", 'P')]

/-- Copies or moves files. -/
def transferAll (moves : Bool) : Utility := withSwitches transferSwitches 1 fun job given =>
  let transfer : Transfer := ⟨job, given, moves⟩
  let isDirectory (name : Text) : Bool := job.files.isDirectory job.dir name
  let isAsking := given.lastOf? "nif" = some 'i'
  let run (take : Text → Errand Unit) (sources : List Text) : Activity :=
    let work := job.withEach isAsking sources take
    if given.has 'n' && !moves then
      job.complain ("warning: behavior of -n is non-portable and may change in future; " ++
        "use --update=none instead") work
    else work
  let reason (name : Text) : Text := match job.files.find job.dir name with
    | .ok _ => SystemError.notDirectory.reason
    | .error error => error.reason
  let into (directory : Text) (sources : List Text) : Activity :=
    run (fun name => transfer.take (inside directory (lastName name)) name) sources
  match given.value? 't', given.operands.reverse with
  | _, [] => job.misused 1 "missing file operand"
  | some directory, sources =>
    if isDirectory directory then into directory sources.reverse
    else
      job.complain ("target directory " ++ named directory ++ ": " ++ reason directory) (.finish 1)
  | none, [name] => job.misused 1 ("missing destination file operand after " ++ named name)
  | none, target :: sources =>
    if given.has 'T' then
      match sources with
      | [name] => run (transfer.take target) [name]
      | _ => job.misused 1 ("extra operand " ++ named ((given.operands[2]?).getD []))
    else if isDirectory target then into target sources.reverse
    else if sources.length > 1 then
      job.complain ("target " ++ named target ++ ": " ++ reason target) (.finish 1)
    else run (transfer.take target) sources

/-- `cp` copies files. -/
def cp : Utility := transferAll false

/-- `mv` moves files. -/
def mv : Utility := transferAll true

end Runbook.Shell.Utility
