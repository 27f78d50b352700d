import Runbook.Shell.Format
import Runbook.Shell.Utility.File

/-!
# Programs that show what there is

`ls` and `stat` show what stands in a tree of files. `basename`, `dirname`, `readlink`, `realpath`
and `which` say how something is named.
-/

namespace Runbook.Shell.Utility

/-! ## What is shown of a file -/

/-- The size of something, in bytes. -/
def sizeOf (node : FileNode) : Nat := match node.kind with
  | .file content => content.size
  | .directory => 4096
  | .link target => target.length
  | .device _ | .pipe => 0

/-- How many units of 1024 bytes something takes up. -/
def blocksOf (node : FileNode) : Nat := match node.kind with
  | .link _ => 0
  | _ => (sizeOf node + 4095) / 4096 * 4

/-- The letter for what something is. -/
def kindLetter (node : FileNode) : Char := match node.kind with
  | .file _ => '-'
  | .directory => 'd'
  | .link _ => 'l'
  | .pipe => 'p'
  | .device _ => 'c'

/-- How many names something at a path has. -/
def namesOf (files : Files) (path : Path) (node : FileNode) : Nat :=
  if node.isDirectory then
    2 + ((files.children path).filter fun child => files.isDirectoryAt (path ++ [child])).length
  else ((files.number? path).map files.nameCount).getD 1

/-- The names of the months, shortened. -/
def monthNames : List Text :=
  (["Jan", "Feb", "Mar", "Apr", "May", "Jun", "Jul", "Aug", "Sep", "Oct", "Nov", "Dec"] :
    List String).map String.toList

/-- A number with blanks or zeros before it. -/
def padded (width : Nat) (filler : Char) (n : Nat) : Text :=
  let digits := Text.ofNat n
  List.replicate (width - digits.length) filler ++ digits

/-- When something was changed, as `ls` shows it: with the time of day if that was not long ago. -/
def shownTime (now modified : Nat) : Text :=
  let seconds := modified / 1000000000
  let date := Date.ofSeconds seconds
  let day := (monthNames[date.month - 1]?).getD [] ++ ' ' :: padded 2 ' ' date.day
  let isRecent := seconds ≤ now / 1000000000 && now / 1000000000 < seconds + 15778476
  day ++ ' ' :: (if isRecent then padded 2 '0' date.hour ++ ':' :: padded 2 '0' date.minute
    else ' ' :: Text.ofInt date.year)

/-! ## Directories -/

/-- Something that `ls` shows. -/
structure Entry where
  name : Text
  path : Path
  node : FileNode

/-- The options of `ls`. -/
def listingSwitches : Switches where
  plain := "1aAdFprRStUlnogmQisxCckuhNBqvLHfZ"
  valued := "Iwτ"
  optional := "κ"
  long := [("all", 'a'), ("almost-all", 'A'), ("directory", 'd'), ("classify", 'F'),
    ("reverse", 'r'), ("recursive", 'R'), ("size", 's'), ("inode", 'i'), ("human-readable", 'h'),
    ("color", 'κ'), ("ignore", 'I'), ("time", 'τ'), ("quote-name", 'Q')]

/-- The marks behind names. -/
def marked (given : Given) (name : Text) (node : FileNode) : Text :=
  let all := given.has 'F'
  name ++ match node.kind with
    | .directory => if all || given.has 'p' then ['/'] else []
    | .link _ => if all then ['@'] else []
    | .pipe => if all then ['|'] else []
    | .file _ => if all && node.isExecutable then ['*'] else []
    | .device _ => []

/-- Entries in the order in which they are shown. -/
def sortedEntries (given : Given) (entries : List Entry) : List Entry :=
  let byName := entries.mergeSort fun a b => textBefore a.name b.name
  let sorted := match given.lastOf? "StUf" with
    | some 'S' => byName.mergeSort fun a b => sizeOf b.node ≤ sizeOf a.node
    | some 't' => byName.mergeSort fun a b => b.node.modified ≤ a.node.modified
    | some _ => entries
    | none => byName
  if given.has 'r' && !given.has 'U' then sorted.reverse else sorted

/-- Rows of texts in columns, each as wide as its widest text. -/
def aligned (rows : List (List Text)) : List (List Text) :=
  let width (i : Nat) : Nat := (rows.map fun row => (row[i]?.getD []).length).foldl max 0
  rows.map fun row => row.zipIdx.map fun (text, i) =>
    List.replicate (width i - text.length) ' ' ++ text

/-- Whether options ask for more than names. -/
def isLong (given : Given) : Bool :=
  (given.lastOf? "lnog1Cxm").map (("lnog" : Text).elem ·) = some true

/-- The lines of entries. -/
def entryLines (files : Files) (given : Given) (entries : List Entry) : List Text :=
  let columns (entry : Entry) : List Text :=
    let node := entry.node
    let own : Text := if given.has 'n' then ['0'] else "root"
    (if given.has 'i' then [Text.ofNat ((files.number? entry.path).getD 0)] else []) ++
      (if given.has 's' then [Text.ofNat (blocksOf node)] else []) ++
      if isLong given then
        [kindLetter node :: Permissions.letters node.permissions,
          Text.ofNat (namesOf files entry.path node)] ++
          (if given.has 'g' then [] else [own]) ++ (if given.has 'o' then [] else [own]) ++
          [Text.ofNat (sizeOf node), shownTime files.now node.modified]
      else []
  (entries.zip (aligned (entries.map columns))).map fun (entry, columns) =>
    let name := if given.has 'Q' then '"' :: entry.name ++ ['"'] else entry.name
    let name := match entry.node.kind, isLong given with
      | .link target, true => name ++ " -> " ++ target
      | _, _ => marked given name entry.node
    List.intercalate [' '] (columns ++ [name])

/-- Entries as they are shown below one another, or with commas between them. -/
def entryText (files : Files) (given : Given) (entries : List Entry) : Text :=
  let lines := entryLines files given entries
  if given.lastOf? "lnog1Cxm" = some 'm' then
    if lines.isEmpty then [] else List.intercalate ", ".toList lines ++ ['\n']
  else Text.unlines lines

/-- The entries of a directory that are shown. -/
def entriesOf (files : Files) (given : Given) (path : Path) : List Entry :=
  let all := given.has 'a' || given.has 'f'
  let isShown (name : Text) : Bool :=
    (all || given.has 'A' || name.head? ≠ some '.') &&
      !(given.values 'I').any fun pattern =>
        (Pattern.ofGuarded (pattern.map fun c => (c, false))).accepts name
  let entryAt? (name : Text) (path : Path) : Option Entry := (files.get? path).map (⟨name, path, ·⟩)
  let own := if all then
      [entryAt? ['.'] path, entryAt? ['.', '.'] path.dropLast].filterMap fun entry => entry
    else []
  own ++ ((files.children path).filter isShown).filterMap fun name => entryAt? name (path ++ [name])

/-- What is shown of a directory, and of those below it up to a depth if that is wanted: blocks,
each with a title if `titled`. -/
def directoryBlocks (files : Files) (given : Given) (titled : Bool) :
    Nat → Text → Path → List Text
  | 0, _, _ => []
  | depth + 1, name, path =>
    let entries := sortedEntries given (entriesOf files given path)
    let total : Text := if isLong given || given.has 's' then
        "total " ++ Text.ofNat ((entries.map (blocksOf ·.node)).sum) ++ ['\n'] else []
    let title : Text := if titled then name ++ ":\n" else []
    let block := title ++ total ++ entryText files given entries
    let inner := if !given.has 'R' then [] else entries.flatMap fun entry =>
      if entry.node.isDirectory && entry.name ≠ ['.'] && entry.name ≠ ['.', '.'] then
        directoryBlocks files given titled depth (inside name entry.name) entry.path
      else []
    block :: inner

/-- `ls` shows the names in directories. -/
def ls : Utility := withSwitches listingSwitches 2 fun job given =>
  let operands := if given.operands.isEmpty then [['.']] else given.operands
  let follows := given.has 'L' || given.has 'H' || !(isLong given || given.has 'd' || given.has 'F')
  let look (name : Text) : Except SystemError (Path × FileNode) :=
    match job.visible.findLink follows job.dir name with
    | .ok found => .ok found
    | .error error =>
      if given.has 'L' then .error error else match job.visible.findLink false job.dir name with
      | .ok found => .ok found
      | .error error => .error error
  let found := operands.map fun name => (name, look name)
  let complaints := found.filterMap fun (name, result) => match result with
    | .error error => some ("cannot access " ++ named name ++ ": " ++ error.reason)
    | .ok _ => none
  let entries := found.filterMap fun (name, result) =>
    result.toOption.map fun (path, node) => (⟨name, path, node⟩ : Entry)
  let isOpened (entry : Entry) : Bool := entry.node.isDirectory && !given.has 'd'
  let plain := sortedEntries given (entries.filter (!isOpened ·))
  let directories := sortedEntries given (entries.filter isOpened)
  let titled := operands.length > 1 || given.has 'R'
  let first := entryText job.visible given plain
  let blocks := directories.flatMap fun entry =>
    directoryBlocks job.visible given titled Files.pathLimit entry.name entry.path
  let text := List.intercalate ['\n'] ((if first.isEmpty then [] else [first]) ++ blocks)
  complaints.foldr job.complain (.say text (.finish (if complaints.isEmpty then 0 else 2)))

/-! ## What is known about a file -/

/-- The value of a letter in a format of `stat`. -/
def statValue (files : Files) (name : Text) (path : Path) (node : FileNode) (letter : Char) :
    Text :=
  let seconds := Text.ofNat (node.modified / 1000000000)
  match letter with
  | 'n' => name
  | 'N' => named name ++ match node.kind with
    | .link target => " -> " ++ named target
    | _ => []
  | 's' => Text.ofNat (sizeOf node)
  | 'a' => Text.ofInt (Text.numeralValue (Permissions.digits node.permissions) : Nat)
  | 'A' => kindLetter node :: Permissions.letters node.permissions
  | 'F' => kindName node
  | 'h' => Text.ofNat (namesOf files path node)
  | 'U' | 'G' => "root"
  | 'u' | 'g' => ['0']
  | 'i' => Text.ofNat ((files.number? path).getD 0)
  | 'b' => Text.ofNat (blocksOf node * 2)
  | 'B' => "512"
  | 'o' => "4096"
  | 'X' | 'Y' | 'Z' | 'W' => seconds
  | '%' => ['%']
  | _ => ['?']

/-- A format of `stat` filled in. -/
def statText (files : Files) (name : Text) (path : Path) (node : FileNode) : Text → Text
  | '%' :: c :: rest => statValue files name path node c ++ statText files name path node rest
  | c :: rest => c :: statText files name path node rest
  | [] => []

/-- `stat` shows what is known about files, by a format. -/
def stat : Utility := withSwitches
    { plain := "Lft", valued := "cρ"
      long := [("format", 'c'), ("printf", 'ρ'), ("dereference", 'L')] }
    1 fun job given =>
  if given.operands.isEmpty then job.misused 1 "missing operand"
  else
    let found (name : Text) := job.visible.findLink (given.has 'L') job.dir name
    let remark (name : Text) : Remark := match found name with
      | .error error => .complains ("cannot statx " ++ named name ++ ": " ++ error.reason)
      | .ok (path, node) => match given.value? 'c', given.value? 'ρ' with
        | some format, _ => .shows (statText job.visible name path node format)
        | none, some format =>
          .prints (statText job.visible name path node (unescape format).1)
        | none, none => .shows ("  File: " ++ name)
    job.speaks (given.operands.map remark)

/-! ## Names -/

/-- `which` shows where programs are found. -/
def which : Utility := withOptions "as" "" 2 fun job given =>
  let places := Text.pieces ':' ((job.exports.lookup ("PATH" : Text)).getD [])
  let found (name : Text) : List Text :=
    let candidates := if name.elem '/' then [name] else places.map fun place => inside place name
    candidates.filter fun path => match job.files.find job.dir path with
      | .ok (_, node) => node.isFile && node.isExecutable
      | .error _ => false
  let all := given.operands.map found
  let shown := all.flatMap fun paths => if given.has 'a' then paths else paths.take 1
  .say (if given.has 's' then [] else Text.unlines shown)
    (.finish (if all.isEmpty || all.any List.isEmpty then 1 else 0))

/-- A name without an ending, unless it is nothing else. -/
def withoutEnding (ending name : Text) : Text :=
  if !ending.isEmpty && ending.isSuffixOf name && ending ≠ name then
    name.take (name.length - ending.length)
  else name

/-- Texts with an end behind each: a line feed, or a null character if that is asked for. -/
def ended (given : Given) (texts : List Text) : Text :=
  texts.flatMap (· ++ [if given.has 'z' then Text.null else '\n'])

/-- `basename` gives the last name of a path, without an ending. -/
def basename : Utility := withSwitches
    { plain := "az", valued := "s", long := [("multiple", 'a'), ("suffix", 's'), ("zero", 'z')] }
    1 fun job given =>
  let isMany := given.has 'a' || given.has 's'
  match given.operands with
  | [] => job.misused 1 "missing operand"
  | paths =>
    if isMany then
      let ending := (given.value? 's').getD []
      job.answers (ended given (paths.map fun path => withoutEnding ending (lastName path)))
    else match paths with
      | path :: ending :: extra :: _ =>
        let _ := (path, ending)
        job.misused 1 ("extra operand " ++ quoted extra)
      | path :: endings =>
        job.answers (ended given [withoutEnding (endings.headD []) (lastName path)])
      | [] => .finish 1

/-- The path without its last name. -/
def parentName (path : Text) : Text :=
  let trimmed := (path.reverse.dropWhile (· == '/')).reverse
  if trimmed.isEmpty then if path.isEmpty then ['.'] else ['/']
  else
    let rest := trimmed.reverse.dropWhile (· ≠ '/')
    if rest.isEmpty then ['.']
    else
      let parent := (rest.dropWhile (· == '/')).reverse
      if parent.isEmpty then ['/'] else parent

/-- `dirname` gives paths without their last names. -/
def dirname : Utility := withSwitches { plain := "z", long := [("zero", 'z')] } 1 fun job given =>
  if given.operands.isEmpty then job.misused 1 "missing operand"
  else job.answers (ended given (given.operands.map parentName))

/-- The full path of what a text means; what stands there need not exist if `missing`, and neither
need the directories on the way if `anywhere`. -/
def fullPath (job : Job) (missing anywhere : Bool) (text : Text) : Except SystemError Text := do
  let isFound ← match job.visible.resolve job.dir text with
    | .ok path =>
      if (job.visible.get? path).isSome || missing then return Files.pathText path
      else pure (Except.error SystemError.notFound)
    | .error error => pure (Except.error error)
  if !anywhere || text.isEmpty then isFound
  else
    let names := Files.names text
    let path := names.foldl (fun (path : Path) (name : Text) =>
      if name = "." then path
      else if name = ".." then path.dropLast
      else match job.visible.resolve path name with
        | .ok found => found
        | .error _ => path ++ [name]) (Files.startOf job.dir text)
    return Files.pathText path

/-- `readlink` shows where links lead. -/
def readlink : Utility := withSwitches
    { plain := "femnqsvz", long := [("canonicalize", 'f'), ("canonicalize-existing", 'e'),
      ("canonicalize-missing", 'm'), ("no-newline", 'n'), ("verbose", 'v'), ("zero", 'z')] }
    1 fun job given =>
  if given.operands.isEmpty then job.misused 1 "missing operand"
  else
    let look (name : Text) : Except SystemError Text := match given.lastOf? "fem" with
      | some 'f' => fullPath job true false name
      | some 'e' => fullPath job false false name
      | some _ => fullPath job true true name
      | none => do
        match (← job.visible.findLink false job.dir name).2.kind with
        | .link target => return target
        | _ => throw .invalidArgument
    let plain := given.has 'n' && given.operands.length = 1
    job.speaks (given.operands.map fun name => match look name with
      | .ok text => if plain then .prints text else .prints (ended given [text])
      | .error error =>
        if given.has 'v' then .complains (shown name ++ ": " ++ error.reason) else .fails)

/-- `realpath` shows the full paths of files. -/
def realpath : Utility := withSwitches
    { plain := "emLPqsz", long := [("canonicalize-existing", 'e'), ("canonicalize-missing", 'm'),
      ("quiet", 'q'), ("no-symlinks", 's'), ("strip", 's'), ("zero", 'z')] }
    1 fun job given =>
  if given.operands.isEmpty then job.misused 1 "missing operand"
  else job.speaks (given.operands.map fun name =>
    match fullPath job (!given.has 'e') (given.has 'm') name with
    | .ok text => .prints (ended given [text])
    | .error error =>
      if given.has 'q' then .fails else .complains (shown name ++ ": " ++ error.reason))

end Runbook.Shell.Utility
