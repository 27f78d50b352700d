import Runbook.SystemError
import Runbook.Text.Basic

/-!
# File trees

A tree of files is a map from paths to the numbers of what stands there: a file with its bytes, a
directory, a link to another place, a pipe, or one of the devices. Two paths may share a number, and
then they are two names of one thing. The root is always a directory. A path is a list of names from
the root; `Files.resolve` finds the path that a text means in a working directory, where every name
but the last has to lead to a directory that exists.

Names are bytes, whatever they mean: each character of a name, and of a text that means a path,
stands for the byte of its number. The operations refuse what a file system refuses, for the reason
that it gives. The tree has a clock, and what is changed is marked by its time.
-/

namespace Runbook

/-- The names from the root to a place in a tree. -/
abbrev Path := List Text

/-- A file without contents of its own. -/
inductive Device where
  /-- It takes everything and holds nothing. -/
  | null
  /-- It holds zero bytes without end. -/
  | zero
  /-- It holds bytes without end and takes none. -/
  | full
  /-- It holds bytes without end that follow no rule. -/
  | random
  /-- The terminal, of which there is none. -/
  | terminal
  deriving Repr, DecidableEq

/-- What kinds of things stand in a tree. -/
inductive FileKind where
  | file (content : ByteArray)
  | directory
  | device (device : Device)
  /-- A link to the place that a text means. -/
  | link (target : Text)
  | pipe

/-- What stands at a path. -/
structure FileNode where
  kind : FileKind
  /-- Who may do what with it, as nine bits, and three bits above them. -/
  permissions : Nat
  /-- When it was last changed. -/
  modified : Nat

namespace FileNode

/-- Whether the node is a directory. -/
def isDirectory (node : FileNode) : Bool := match node.kind with
  | .directory => true
  | _ => false

/-- Whether the node is an ordinary file. -/
def isFile (node : FileNode) : Bool := match node.kind with
  | .file _ => true
  | _ => false

/-- Whether the node is a link. -/
def isLink (node : FileNode) : Bool := match node.kind with
  | .link _ => true
  | _ => false

/-- The bytes of an ordinary file. -/
def content (node : FileNode) : ByteArray := match node.kind with
  | .file content => content
  | _ => .empty

/-- Whether the node may be run. -/
def isExecutable (node : FileNode) : Bool :=
  node.permissions % 2 = 1 || node.permissions / 8 % 2 = 1 || node.permissions / 64 % 2 = 1

end FileNode

/-- A tree of files: each path, and each number, at most once. -/
structure Files where
  entries : List (Path × Nat)
  nodes : List (Nat × FileNode)
  /-- A number that names nothing yet. -/
  next : Nat
  /-- The time by the clock of the tree. -/
  now : Nat

namespace Files

/-- The longest name in a path, in bytes. -/
def nameLimit : Nat := 255

/-- One more than the longest path that may be given, in bytes. -/
def pathLimit : Nat := 4096

/-- How many links may be followed on the way to one place. -/
def linkLimit : Nat := 40

/-- The permissions of the root. -/
def rootNode : FileNode := ⟨.directory, 493, 0⟩

/-- The number of the device that takes everything and holds nothing, whatever its names are. -/
def nullNumber : Nat := 0

/-- The number of the root. -/
def rootNumber : Nat := 1

/-- A tree in which nothing stands. -/
def empty : Files :=
  ⟨[], [(nullNumber, ⟨.device .null, 438, 0⟩), (rootNumber, rootNode)], 2, 0⟩

/-- The number of what stands at a path. -/
def number? (files : Files) (path : Path) : Option Nat :=
  if path.isEmpty then some rootNumber else files.entries.lookup path

/-- What has a number. -/
def node? (files : Files) (number : Nat) : Option FileNode := files.nodes.lookup number

/-- What stands at a path. -/
def get? (files : Files) (path : Path) : Option FileNode :=
  if path.isEmpty then some rootNode else (files.number? path).bind files.node?

/-- Whether a directory stands at a path. -/
def isDirectoryAt (files : Files) (path : Path) : Bool :=
  ((files.get? path).map FileNode.isDirectory).getD false

/-! ## Changes -/

/-- The tree with a change of what has a number. -/
def modify (files : Files) (number : Nat) (change : FileNode → FileNode) : Files :=
  { files with nodes := files.nodes.map fun (other, node) =>
      if other = number then (other, change node) else (other, node) }

/-- The tree with a directory marked as changed now. -/
def stamp (files : Files) (path : Path) : Files :=
  match files.number? path with
  | some number => files.modify number ({ · with modified := files.now })
  | none => files

/-- The tree with other bytes in the file of a number. -/
def write (files : Files) (number : Nat) (content : ByteArray) : Files :=
  files.modify number ({ · with kind := .file content, modified := files.now })

/-- The tree with something new at a path, in place of what was there. -/
def put (files : Files) (path : Path) (kind : FileKind) (permissions : Nat) : Files :=
  let files := { files with
    entries := (path, files.next) :: files.entries.filter (·.1 ≠ path)
    nodes := (files.next, ⟨kind, permissions, files.now⟩) :: files.nodes
    next := files.next + 1 }
  files.stamp path.dropLast

/-- The tree with one more name for what has a number. -/
def bind (files : Files) (path : Path) (number : Nat) : Files :=
  { files with entries := (path, number) :: files.entries.filter (·.1 ≠ path) }.stamp path.dropLast

/-- The tree without what stands at a path and below it. -/
def erase (files : Files) (path : Path) : Files :=
  { files with entries := files.entries.filter fun entry => !path.isPrefixOf entry.1 }.stamp
    path.dropLast

/-- The tree in which what stood at one path, and below it, stands at another one. -/
def move (files : Files) (source target : Path) : Files :=
  let others := files.entries.filter fun entry => !target.isPrefixOf entry.1
  { files with entries := others.map fun (path, number) =>
      if source.isPrefixOf path then (target ++ path.drop source.length, number)
      else (path, number) }.stamp source.dropLast |>.stamp target.dropLast

/-- How many names something has. -/
def nameCount (files : Files) (number : Nat) : Nat := files.entries.countP (·.2 = number)

/-- The names in a directory. -/
def children (files : Files) (path : Path) : List Text :=
  files.entries.filterMap fun entry =>
    if entry.1.dropLast = path then entry.1.getLast? else none

/-! ## Paths -/

/-- A path as a text that means it everywhere. -/
def pathText (path : Path) : Text := '/' :: List.intercalate ['/'] path

/-- The names that a text gives between its slashes. -/
def names (text : Text) : List Text := (Text.pieces '/' text).filter (!·.isEmpty)

/-- Where a text that means a place starts from. -/
def startOf (dir : Path) (text : Text) : Path := if text.head? = some '/' then [] else dir

/-- Follows names from a directory, through at most `links` links. A link at the end is followed if
`through`. -/
def walk (files : Files) (through : Bool) (links : Nat) :
    Path → List Text → Except SystemError Path
  | place, [] => .ok place
  | place, name :: rest =>
    match files.get? place with
    | none => .error .notFound
    | some node =>
      if !node.isDirectory then .error .notDirectory
      else if name.length > nameLimit then .error .nameTooLong
      else if name = "." then walk files through links place rest
      else if name = ".." then walk files through links place.dropLast rest
      else
        let next := place ++ [name]
        match files.get? next with
        | some ⟨.link target, _, _⟩ =>
          if rest.isEmpty && !through then .ok next
          else match links with
            | 0 => .error .tooManyLinks
            | links + 1 =>
              walk files through links (startOf place target) (names target ++ rest)
        | _ => walk files through links next rest
termination_by _ names => (links, names.length)

/-- Refuses a text that can mean no path. -/
def checkText (text : Text) : Except SystemError Unit := do
  if text.isEmpty then throw .notFound
  if text.elem Text.null then throw .nullInPath
  if text.length ≥ pathLimit then throw .nameTooLong

/-- The path that a text means in the working directory `dir`. What stands there need not exist, but
if the text ends in a slash it has to be a directory. A link at the end is followed if `through`, or
if it has a slash behind it. -/
def resolveLink (files : Files) (through : Bool) (dir : Path) (text : Text) :
    Except SystemError Path := do
  checkText text
  let isOpen := text.getLast? = some '/'
  let path ← files.walk (through || isOpen) linkLimit (startOf dir text) (names text)
  match files.get? path with
  | some node =>
    if isOpen && !node.isDirectory then throw .notDirectory
    return path
  | none => return path

/-- The path that a text means, all links being followed. -/
def resolve (files : Files) (dir : Path) (text : Text) : Except SystemError Path :=
  files.resolveLink true dir text

/-- What stands at the path that a text means; a link at the end is followed if `through`. -/
def findLink (files : Files) (through : Bool) (dir : Path) (text : Text) :
    Except SystemError (Path × FileNode) := do
  let path ← files.resolveLink through dir text
  match files.get? path with
  | some node => return (path, node)
  | none => throw .notFound

/-- What stands at the path that a text means, all links being followed. -/
def find (files : Files) (dir : Path) (text : Text) : Except SystemError (Path × FileNode) :=
  files.findLink true dir text

/-- Whether a text means an ordinary file. -/
def isFile (files : Files) (dir : Path) (text : Text) : Bool :=
  match files.find dir text with
  | .ok (_, node) => node.isFile
  | .error _ => false

/-- The bytes of the file that a text means. -/
def read (files : Files) (dir : Path) (text : Text) : Except SystemError ByteArray := do
  let (_, node) ← files.find dir text
  if node.isDirectory then throw .isDirectory
  return node.content

/-- Whether a text means a directory. -/
def isDirectory (files : Files) (dir : Path) (text : Text) : Bool :=
  match files.find dir text with
  | .ok (_, node) => node.isDirectory
  | .error _ => false

/-- The place that the start of a text leads to, and the last name in it, which the text gives to
something in that place. A text that only climbs or stays gives no name. -/
def locate (files : Files) (dir : Path) (text : Text) :
    Except SystemError (Path × Option Text) := do
  checkText text
  let names := names text
  let place ← files.walk true linkLimit (startOf dir text) names.dropLast
  match files.get? place with
  | none => throw .notFound
  | some node =>
    if !node.isDirectory then throw .notDirectory
    match names.getLast? with
    | none => return (place, none)
    | some name =>
      if name.length > nameLimit then throw .nameTooLong
      return (place, if name = "." || name = ".." then none else some name)

/-! ## Directories -/

/-- The permissions of a new directory. -/
def directoryPermissions : Nat := 493

/-- Makes a directory at the path that a text means. -/
def makeDirectory (files : Files) (dir : Path) (text : Text) : Except SystemError Files := do
  match ← files.locate dir text with
  | (place, some name) =>
    if (files.get? (place ++ [name])).isSome then throw .fileExists
    return files.put (place ++ [name]) .directory directoryPermissions
  | (_, none) => throw .fileExists

/-- The texts that mean the places on the way to a path, the longest first. Names that only stay
where they are do not count on the way, except for one at the very start. -/
def ancestors (text : Text) : List Text :=
  let root : Text := if text.head? = some '/' then ['/'] else []
  let all := names text
  let stays := root.isEmpty && all.head? = some ['.']
  let steps := (if stays then [['.']] else []) ++ all.filter (· ≠ ['.'])
  ((List.range steps.length).reverse.map fun n =>
    root ++ List.intercalate ['/'] (steps.take n)).filter (!·.isEmpty)

/-- Makes directories, each of which may exist, as long as that works. -/
def makeEach (dir : Path) : List Text → Files → Except SystemError Unit × Files
  | [], files => (.ok (), files)
  | text :: rest, files =>
    match files.makeDirectory dir text with
    | .ok files => makeEach dir rest files
    | .error reason =>
      if files.isDirectory dir text then makeEach dir rest files else (.error reason, files)

/-- Makes the directory that the first of several texts means, where each text means the parent of
the one before it; `missing` are those that turned out to lack a parent, the outermost first. -/
def makeFrom (dir : Path) (missing : List Text) :
    List Text → Files → Except SystemError Unit × Files
  | [], files => makeEach dir missing files
  | text :: parents, files =>
    match files.makeDirectory dir text with
    | .ok files => makeEach dir missing files
    | .error .notFound => makeFrom dir (text :: missing) parents files
    | .error reason =>
      if files.isDirectory dir text then makeEach dir missing files else (.error reason, files)

/-- Makes the directory that a text means, and those on the way to it that do not exist. What was
made stays when something goes wrong. An empty text means nothing that would have to be made. -/
def makeDirectories (files : Files) (dir : Path) (text : Text) : Except SystemError Unit × Files :=
  if text.isEmpty then (.ok (), files) else makeFrom dir [] (text :: ancestors text) files

end Files

end Runbook
