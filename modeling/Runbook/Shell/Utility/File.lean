import Runbook.Shell.Calendar
import Runbook.Shell.Pattern
import Runbook.Shell.Utility.Errand

/-!
# Programs that make and remove files

`truncate`, `touch`, `rm`, `mkdir`, `rmdir`, `chmod` and `ln` deal with their operands from left to
right, and complain about those that they can do nothing with.
-/

namespace Runbook.Shell.Utility

/-- The last name of a path, as `basename` gives it. -/
def lastName (path : Text) : Text :=
  match (Files.names path).getLast? with
  | some name => name
  | none => if path.isEmpty then [] else ['/']

/-- The name of something inside a directory. -/
def inside (directory name : Text) : Text :=
  (if directory.getLast? = some '/' then directory else directory ++ ['/']) ++ name

/-! ## Sizes and times -/

/-- The size that an option of `truncate` asks for, given the size there is. -/
def newSize? (size : Nat) (text : Text) : Option Nat :=
  match text with
  | '+' :: rest => (amount? rest).map (size + ·)
  | '-' :: rest => (amount? rest).map (size - ·)
  | '<' :: rest => (amount? rest).map (min size)
  | '>' :: rest => (amount? rest).map (max size)
  | '/' :: rest => ((amount? rest).filter (0 < ·)).map fun unit => size / unit * unit
  | '%' :: rest => ((amount? rest).filter (0 < ·)).map fun unit => (size + unit - 1) / unit * unit
  | rest => amount? rest

/-- The files with an empty one at a path where nothing stands. -/
def withNewFile (job : Job) (files : Files) (path : Path) : Files :=
  files.put path (.file ByteArray.empty) (438 - (438 &&& job.mask))

/-- `truncate` makes files longer or shorter. -/
def truncate : Utility := withOptions "c" "s" 1 fun job given =>
  match given.value? 's' with
  | none => job.misused 1 "you must specify either '--size' or '--reference'"
  | some text =>
    if (newSize? 0 text).isNone then
      job.complain ("Invalid number: " ++ quoted (text.dropWhile ("+-<>/%" : Text).elem))
        (.finish 1)
    else job.withEach false given.operands fun name =>
      let complaint (error : SystemError) : Text :=
        "cannot open " ++ named name ++ " for writing: " ++ error.reason
      Errand.attempt (fun files => do
        let path ← files.resolve job.dir name
        if (files.get? path).isNone && given.has 'c' then return files
        if (files.get? path).isNone && name.getLast? = some '/' then throw .isDirectory
        let files := if (files.get? path).isSome then files else withNewFile job files path
        match files.number? path, files.get? path with
        | some number, some node =>
          if node.isDirectory then throw .isDirectory
          let content := node.content
          let size := (newSize? content.size text).getD 0
          let zeros : ByteArray := ⟨Array.replicate (size - content.size) 0⟩
          return files.write number (content.extract 0 size ++ zeros)
        | _, _ => return files) complaint

/-- The options of `touch`. -/
def touchSwitches : Switches where
  plain := "acmfh"
  valued := "drt"
  long := [("no-create", 'c'), ("date", 'd'), ("reference", 'r'), ("no-dereference", 'h')]

/-- The time that options of `touch` give, in nanoseconds; none if they give none. -/
def touchTime (job : Job) (given : Given) : Except Text (Option Nat) :=
  let moment (text : Text) : Option Int → Except Text (Option Nat)
    | some seconds => .ok (some (seconds.toNat * 1000000000))
    | none => .error ("invalid date format " ++ quoted text)
  let now : Int := (job.files.now / 1000000000 : Nat)
  match given.value? 't', given.value? 'd', given.value? 'r' with
  | some text, _, _ => moment text ((Date.ofStamp? (Date.ofSeconds now).year text).map Date.seconds)
  | _, some text, _ => moment text (Date.moment? now text)
  | _, _, some name => match job.files.find job.dir name with
    | .ok (_, node) => .ok (some node.modified)
    | .error error => .error ("failed to get attributes of " ++ named name ++ ": " ++ error.reason)
  | _, _, _ => .ok none

/-- `touch` makes files that do not exist, and marks others as changed now or at a given time. -/
def touch : Utility := withSwitches touchSwitches 1 fun job given =>
  match touchTime job given with
  | .error text => job.complain text (.finish 1)
  | .ok time =>
    if given.operands.isEmpty then job.misused 1 "missing file operand"
    else job.withEach false given.operands fun name => do
      let files ← Errand.files
      let refused (error : SystemError) : Errand Unit :=
        Errand.complains ("cannot touch " ++ named name ++ ": " ++ error.reason)
      let mark (files : Files) (path : Path) : Files := match files.number? path with
        | some number => files.modify number ({ · with modified := time.getD files.now })
        | none => files
      match files.resolveLink (!given.has 'h') job.dir name with
      | .error error =>
        if error = .notDirectory && given.has 'c' then return () else refused error
      | .ok path =>
        if (files.get? path).isSome then Errand.change (mark · path)
        else if given.has 'c' || given.has 'h' then return ()
        else if name.getLast? = some '/' then
          Errand.complains
            ("setting times of " ++ named name ++ ": " ++ SystemError.notFound.reason)
        else Errand.change fun files => mark (withNewFile job files path) path

/-! ## Removing -/

/-- What something is, in words. -/
def kindName (node : FileNode) : Text := match node.kind with
  | .file content => if content.isEmpty then "regular empty file" else "regular file"
  | .directory => "directory"
  | .link _ => "symbolic link"
  | .pipe => "fifo"
  | .device _ => "character special file"

/-- How `rm` removes. -/
structure Removal where
  /-- Directories are removed with all that is in them. -/
  isDeep : Bool
  /-- Empty directories are removed. -/
  takesEmpty : Bool
  /-- What does not exist is passed over. -/
  isForced : Bool
  asks : Bool
  tells : Bool

/-- Removes what stands at a path that a name means, and what is in it up to a depth. -/
def Removal.remove (removal : Removal) : Nat → Text → Path → FileNode → Errand Unit
  | 0, _, _, _ => return ()
  | depth + 1, name, path, node => do
    let refused (reason : Text) : Errand Unit :=
      Errand.complains ("cannot remove " ++ named name ++ ": " ++ reason)
    let children := ((← Errand.files).children path).mergeSort textBefore
    if node.isDirectory && !removal.isDeep && !removal.takesEmpty then
      refused SystemError.isDirectory.reason
    else
      let mut goesOn := true
      if node.isDirectory && removal.isDeep && !children.isEmpty then
        if removal.asks then goesOn ← Errand.asks ("descend into directory " ++ named name)
        if goesOn then
          for child in children do
            match (← Errand.files).get? (path ++ [child]) with
            | some node => remove removal depth (inside name child) (path ++ [child]) node
            | none => pure ()
      if goesOn && removal.asks then
        goesOn ← Errand.asks ("remove " ++ kindName node ++ " " ++ named name)
      if goesOn then
        if node.isDirectory && !((← Errand.files).children path).isEmpty then
          if !removal.isDeep || !removal.asks then refused SystemError.notEmpty.reason
        else
          Errand.change (·.erase path)
          if removal.tells then
            Errand.shows ((if node.isDirectory then "removed directory " else "removed " : Text) ++
              named name)

/-- The options of `rm`. -/
def removalSwitches : Switches where
  plain := "frRvidI"
  long := [("force", 'f'), ("recursive", 'r'), ("verbose", 'v'), ("dir", 'd')]

/-- `rm` removes files, and directories with all that is in them if it is asked to. -/
def rm : Utility := withSwitches removalSwitches 1 fun job given =>
  let removal : Removal := {
    isDeep := given.has 'r' || given.has 'R'
    takesEmpty := given.has 'd'
    isForced := given.lastOf? "fi" = some 'f'
    asks := given.lastOf? "fi" = some 'i'
    tells := given.has 'v' }
  if given.operands.isEmpty && given.has 'f' then .finish 0
  else job.withEach removal.asks given.operands fun name => do
    let refused (reason : Text) : Errand Unit :=
      Errand.complains ("cannot remove " ++ named name ++ ": " ++ reason)
    match (← Errand.files).findLink false job.dir name with
    | .error error =>
      if removal.isForced && (error = .notFound || error = .notDirectory) then return ()
      else refused error.reason
    | .ok (path, node) =>
      if node.isDirectory && removal.isDeep && path.isEmpty then
        Errand.complains ("it is dangerous to operate recursively on " ++ named name)
        Errand.complains "use --no-preserve-root to override this failsafe"
      else if node.isDirectory && removal.isDeep &&
          (lastName name = "." || lastName name = "..") then
        Errand.complains
          ("refusing to remove '.' or '..' directory: skipping " ++ named name)
      else if name.getLast? = some '/' &&
          (((← Errand.files).findLink false job.dir
            (name.reverse.dropWhile (· == '/')).reverse).toOption.map (·.2.isLink)).getD false then
        refused SystemError.notDirectory.reason
      else removal.remove Files.pathLimit name path node

/-- `rmdir` removes empty directories, and those around them if it is asked to. -/
def rmdir : Utility := withSwitches
    { plain := "pvι"
      long := [("parents", 'p'), ("verbose", 'v'), ("ignore-fail-on-non-empty", 'ι')] }
    1 fun job given => job.withEach false given.operands fun name => do
  let remove (isParent : Bool) (name : Text) : Errand Bool := do
    if given.has 'v' then Errand.shows ("rmdir: removing directory, " ++ named name)
    let refused (reason : Text) : Errand Bool := do
      Errand.complains ("failed to remove " ++ (if isParent then "directory " else "" : Text) ++
        named name ++ ": " ++ reason)
      return false
    let files ← Errand.files
    let bare := (name.reverse.dropWhile (· == '/')).reverse
    match files.findLink false job.dir name, files.findLink false job.dir bare with
    | .ok (path, node), .ok (_, own) =>
      if own.isLink && bare ≠ name then refused "Symbolic link not followed"
      else if !node.isDirectory then refused SystemError.notDirectory.reason
      else if lastName name = "." then refused SystemError.invalidArgument.reason
      else if !(files.children path).isEmpty then
        if given.has 'ι' then return false else refused SystemError.notEmpty.reason
      else
        Errand.change (·.erase path)
        return true
    | .error error, _ | _, .error error => refused error.reason
  let mut goesOn ← remove false name
  if given.has 'p' then
    for parent in (Files.ancestors name) do
      if goesOn && parent ≠ "." && parent ≠ "/" then goesOn ← remove true parent

/-! ## Directories and permissions -/

/-- Makes the directories that the starts of a list of names mean, `done` being the start that was
dealt with; those that exist are left alone. What is made is shown by `made`. -/
def makeWay (job : Job) (absolute : Bool) (made : Text → Path → Bool → Errand Unit) :
    List Text → List Text → Errand Unit
  | _, [] => return ()
  | done, name :: rest => do
    let text : Text := (if absolute then ['/'] else []) ++ List.intercalate ['/'] (done ++ [name])
    let files ← Errand.files
    match files.makeDirectory job.dir text with
    | .ok changed =>
      Errand.change fun _ => changed
      match changed.resolve job.dir text with
      | .ok path => made text path rest.isEmpty
      | .error _ => pure ()
      makeWay job absolute made (done ++ [name]) rest
    | .error reason =>
      if files.isDirectory job.dir text then makeWay job absolute made (done ++ [name]) rest
      else
        let reason := if reason = .fileExists && !rest.isEmpty then .notDirectory else reason
        Errand.complains ("cannot create directory " ++ named text ++ ": " ++ reason.reason)

/-- The files with other permissions for what stands at a path. -/
def withPermissions (permissions : Nat) (path : Path) (files : Files) : Files :=
  match files.number? path with
  | some number => files.modify number ({ · with permissions })
  | none => files

/-- `mkdir` makes directories. -/
def mkdir : Utility := withSwitches
    { plain := "pv", valued := "m", long := [("parents", 'p'), ("verbose", 'v'), ("mode", 'm')] }
    1 fun job given =>
  let plain := 511 - (511 &&& job.mask)
  let mode : Option Nat := match given.value? 'm' with
    | some text => (Permissions.readMode? text).map fun change => change job.mask 511
    | none => some plain
  match mode with
  | none => job.complain ("invalid mode " ++ quoted ((given.value? 'm').getD [])) (.finish 1)
  | some mode => job.withEach false given.operands fun name => do
    let made (name : Text) (path : Path) (isLast : Bool) : Errand Unit := do
      Errand.change (withPermissions (if isLast then mode else plain) path)
      if given.has 'v' then Errand.shows ("mkdir: created directory " ++ named name)
    if given.has 'p' && !name.isEmpty then
      makeWay job (name.head? = some '/') made [] (Files.names name)
    else
      let files ← Errand.files
      match files.makeDirectory job.dir name with
      | .ok changed =>
        Errand.change fun _ => changed
        match changed.resolve job.dir name with
        | .ok path => made name path true
        | .error _ => pure ()
      | .error error =>
        Errand.complains ("cannot create directory " ++ named name ++ ": " ++ error.reason)

/-- Everything in and below a directory, each with its name. -/
def below (files : Files) (path : Path) (name : Text) : List (Text × Path) :=
  let found := files.entries.filterMap fun (other, _) =>
    if path.isPrefixOf other && other ≠ path then some other else none
  (found.mergeSort fun a b => textBefore (Files.pathText a) (Files.pathText b)).map fun other =>
    ((other.drop path.length).foldl inside name, other)

/-- What is asked of `chmod`. -/
structure ModeRequest where
  /-- The letters of the options. -/
  options : Text
  /-- The modes that were given as options. -/
  modes : List Text
  operands : List Text

/-- The long options of `chmod`. -/
def modeSwitches : Switches where
  plain := "Rcfv"
  long := [("recursive", 'R'), ("changes", 'c'), ("quiet", 'f'), ("silent", 'f'), ("verbose", 'v')]

/-- Reads the arguments of `chmod`, in which a mode may begin with a hyphen. -/
def readModes : List Text → Except Text ModeRequest
  | [] => return ⟨[], [], []⟩
  | ['-', '-'] :: rest => return ⟨[], [], rest⟩
  | ('-' :: '-' :: name) :: rest => do
    let request ← readModes rest
    match ← modeSwitches.readLong name with
    | .inl (letter, _) | .inr (_, letter) =>
      return { request with options := letter :: request.options }
  | ('-' :: c :: more) :: rest => do
    let request ← readModes rest
    let letters := (c :: more).takeWhile ("Rcfv" : Text).elem
    let request := { request with options := letters ++ request.options }
    match (c :: more).drop letters.length with
    | [] => return request
    | c :: more =>
      if ("rwxXstugoa,+=01234567" : Text).elem c then
        return { request with modes := ('-' :: c :: more) :: request.modes }
      else throw ("invalid option -- '" ++ [c] ++ "'")
  | operand :: rest => do
    let request ← readModes rest
    return { request with operands := operand :: request.operands }

/-- Gives a file other permissions. -/
def amendFile (job : Job) (request : ModeRequest) (change : Nat → Nat → Nat) (name : Text)
    (path : Path) : Errand Unit := do
  match (← Errand.files).get? path with
  | none => return ()
  | some node =>
    let before := node.permissions
    let after := change job.mask before
    let wanted := change 0 before
    let options := request.options
    Errand.change (withPermissions after path)
    let described (permissions : Nat) : Text :=
      Permissions.digits permissions ++ " (" ++ Permissions.letters permissions ++ ")"
    if before ≠ after && (options.elem 'v' || options.elem 'c') then
      Errand.shows ("mode of " ++ named name ++ " changed from " ++ described before ++ " to " ++
        described after)
    else if options.elem 'v' then
      Errand.shows ("mode of " ++ named name ++ " retained as " ++ described before)
    if !request.modes.isEmpty && (after &&& wanted) ≠ after then
      Errand.complains (shown name ++ ": new permissions are " ++ Permissions.letters after ++
        ", not " ++ Permissions.letters wanted)

/-- `chmod` says who may do what with files. -/
def chmod : Utility := fun job =>
  match readModes job.arguments with
  | .error text => job.misused 1 text
  | .ok request =>
    let isOption := !request.modes.isEmpty
    let mode := if isOption then List.intercalate [','] request.modes else request.operands.headD []
    match if isOption then request.operands else request.operands.drop 1 with
    | [] =>
      if isOption || request.operands.isEmpty then job.misused 1 "missing operand"
      else job.misused 1 ("missing operand after " ++ quoted mode)
    | names => match Permissions.readMode? mode with
      | none => job.misused 1 ("invalid mode: " ++ quoted mode)
      | some change => job.withEach false names fun name => do
        let files ← Errand.files
        match files.find job.dir name with
        | .error error =>
          if !request.options.elem 'f' then
            Errand.complains ("cannot access " ++ named name ++ ": " ++ error.reason)
          if request.options.elem 'v' then
            Errand.shows (named name ++ " could not be accessed")
        | .ok (path, node) =>
          amendFile job request change name path
          if request.options.elem 'R' && node.isDirectory then
            for (name, path) in below files path name do
              amendFile job request change name path

/-! ## Links -/

/-- The options of `ln`. -/
def linkSwitches : Switches where
  plain := "sfnvTiP"
  valued := "t"
  long := [("symbolic", 's'), ("force", 'f'), ("no-dereference", 'n'), ("verbose", 'v'),
    ("no-target-directory", 'T'), ("target-directory", 't')]

/-- Makes a link under a name. -/
def makeLink (job : Job) (given : Given) (target name : Text) : Errand Unit := do
  let files ← Errand.files
  let symbolic := given.has 's'
  let failed (error : SystemError) : Errand Unit :=
    let kind : Text := if symbolic then "symbolic" else "hard"
    let source : Text := if symbolic || error = .fileExists then [] else " => " ++ named target
    Errand.complains
      ("failed to create " ++ kind ++ " link " ++ named name ++ source ++ ": " ++ error.reason)
  let source : Except SystemError (Path × Option FileNode) :=
    if symbolic then .ok (job.dir, none)
    else (files.findLink false job.dir target).map fun (path, node) => (path, some node)
  match source with
  | .error error => Errand.complains ("failed to access " ++ named target ++ ": " ++ error.reason)
  | .ok (source, node) =>
    if (node.map FileNode.isDirectory).getD false then
      Errand.complains (shown target ++ ": hard link not allowed for directory")
    else match files.resolveLink false job.dir name with
    | .error error => failed error
    | .ok path =>
      let before := files.get? path
      if before.isSome && (!given.has 'f' || (before.map FileNode.isDirectory).getD false) then
        if given.has 'f' then
          Errand.complains (shown name ++ ": cannot overwrite directory")
        else failed .fileExists
      else
        if symbolic then Errand.change fun files => (files.erase path).put path (.link target) 511
        else match files.number? source with
          | some number =>
            if source ≠ path then Errand.change fun files => (files.erase path).bind path number
          | none => pure ()
        if given.has 'v' then
          Errand.shows (named name ++ (if symbolic then " -> " else " => " : Text) ++ named target)

/-- `ln` gives files further names, or makes links to them. -/
def ln : Utility := withSwitches linkSwitches 1 fun job given =>
  let isDirectory (name : Text) : Bool :=
    match job.files.findLink (!given.has 'n') job.dir name with
    | .ok (_, node) => node.isDirectory
    | .error _ => false
  let into (directory : Text) (targets : List Text) : Activity :=
    job.withEach false targets fun target =>
      makeLink job given target (inside directory (lastName target))
  match given.value? 't', given.operands with
  | _, [] => job.misused 1 "missing file operand"
  | some directory, targets =>
    if isDirectory directory then into directory targets
    else job.complain ("target directory " ++ named directory ++ ": " ++ (
      match job.files.find job.dir directory with
      | .ok _ => SystemError.notDirectory.reason
      | .error error => error.reason)) (.finish 1)
  | none, [target] =>
    if given.has 'T' then job.misused 1 ("missing destination file operand after " ++ named target)
    else job.withEach false [target] fun target =>
      makeLink job given target ("./" ++ lastName target)
  | none, targets =>
    let last := targets.getLast?.getD []
    if given.has 'T' || (targets.length = 2 && !isDirectory last) then
      job.withEach false [targets.headD []] fun target => makeLink job given target last
    else if isDirectory last then into last targets.dropLast
    else job.complain ("target " ++ named last ++ ": " ++ (
      match job.files.find job.dir last with
      | .ok _ => SystemError.notDirectory.reason
      | .error error => error.reason)) (.finish 1)

end Runbook.Shell.Utility
