import Runbook.Shell.Activity
import Runbook.Shell.Editing.Basic
import Runbook.Text.Numeral

/-!
# Editing lines

An `Editor` is a script at work. `Edit.step` carries out one command, or fetches the next line. What
is to be seen of that outside is put down as an `Effect`, in order. A step may come to a `Pause`: if
it lacks input it has changed nothing, and is taken again when there is more.
-/

namespace Runbook.Shell.Editing

/-- How a script is run. -/
structure Settings where
  /-- What ends a line. -/
  delimiter : Char
  isSilent : Bool
  /-- Each file has a last line of its own, and lines are counted anew in it. -/
  isSeparate : Bool
  /-- What is written goes into the files in place of what they held. -/
  inPlace : Bool
  /-- Each line is written at once. -/
  isHasty : Bool
  /-- How wide lines are shown. -/
  width : Nat
  /-- The files that can be read in between. -/
  contentOf : Text → Option ByteArray

/-- A line, and whether its end was there. -/
structure Space where
  text : Text
  isEnded : Bool

/-- What is to be read: what is left of a file, where more of it comes from, and further files. -/
structure Input where
  name : Text
  text : Text
  source : Option Source
  rest : List (Text × Except SystemError Source)

/-- What is written when the next line is fetched. -/
inductive Queued where
  | text (text : Text)
  | file (name : Text)

/-- What becomes of the output of a command. -/
inductive Awaited where
  /-- It is written. -/
  | text
  /-- It is the line from then on. -/
  | line
  /-- It is the line, in which something was replaced before. -/
  | replaced (substitution : Substitution)

/-- What is to be seen outside. -/
inductive Effect where
  /-- Text for the standard output. -/
  | show (text : Text)
  /-- Text for a file that the script writes to. -/
  | write (name text : Text)
  | complain (text : Text)
  /-- New content for a file that is edited. -/
  | replace (name text : Text)
  /-- The content of a file that is about to be edited. -/
  | keep (name : Text)

/-- Why nothing more can be done for now. -/
inductive Pause where
  | lacksInput
  /-- A command is run, and its output is wanted. -/
  | wantsOutput (command : Text)
  | finished (status : Nat)

/-- A script at work. -/
structure Editor where
  script : Script
  settings : Settings
  input : Input
  space : Space
  held : Space
  /-- How many lines have been read. -/
  number : Nat
  /-- Whether something was replaced since a line was read. -/
  hasReplaced : Bool
  /-- The ranges that are under way, by the places of their commands, with the number of the last
  line if that is known. -/
  ranges : List (Nat × Option Nat)
  queue : List Queued
  lastRegex : Option Regex
  /-- The place of the next command, unless a line is to be fetched first. -/
  place : Option Nat
  /-- Whether the command is known to be for the line. -/
  isChosen : Bool
  /-- The line is not to be fetched, since it is what is left of the last one. -/
  isRestarted : Bool
  /-- Whether a file could not be read. -/
  hasFailed : Bool
  /-- Whether a file is being edited in place. -/
  isEditing : Bool
  /-- The outputs that lack the end of their last line; the standard output has an empty name. -/
  owing : List Text
  /-- What was written to the standard output or the file in place, the last first, and how much. -/
  written : List Text
  writtenSize : Nat
  /-- What becomes of the output of the command that is being run. -/
  awaited : Awaited
  /-- What files that single lines are read from still hold. -/
  readers : List (Text × Text)
  /-- The effects so far, the last first. -/
  effects : List Effect

/-- What an editor does. -/
abbrev Edit := ExceptT Pause (StateM Editor)

namespace Edit

/-! ## Output -/

/-- How much is written at once. -/
def bufferSize : Nat := 4096

/-- Puts an effect down. -/
def effect (effect : Effect) : Edit Unit :=
  modify fun editor => { editor with effects := effect :: editor.effects }

/-- Lets go of what was written to the standard output. -/
def flush : Edit Unit := do
  let editor ← get
  if !editor.written.isEmpty then
    effect (.show editor.written.reverse.flatten)
    modify ({ · with written := [], writtenSize := 0 })

/-- Writes to the standard output, or into the file in place. -/
def put (text : Text) : Edit Unit := do
  modify fun editor => { editor with
    written := text :: editor.written, writtenSize := editor.writtenSize + text.length }
  let editor ← get
  if !editor.isEditing && (editor.settings.isHasty || bufferSize ≤ editor.writtenSize) then flush

/-- The name of the standard output among the files that a script writes to. -/
def standardOutput : Text := "/dev/stdout"

/-- The name of the standard input among the files that a script reads. -/
def standardInput : Text := "/dev/stdin"

/-- Writes to a file, or to the usual output if its name is empty. -/
def putTo (name text : Text) : Edit Unit := do
  if name.isEmpty || name = standardOutput && !(← get).isEditing then put text
  else effect (.write name text)

/-- Writes to a file or to the usual output, after the end of the last line there if that is owed.
-/
def putWhole (name text : Text) : Edit Unit := do
  let editor ← get
  if editor.owing.elem name then
    modify ({ · with owing := editor.owing.erase name })
    putTo name (editor.settings.delimiter :: text)
  else putTo name text

/-- Writes a line to a file or to the usual output. -/
def putLine (name : Text) (space : Space) : Edit Unit := do
  let editor ← get
  if space.isEnded then putWhole name (space.text ++ [editor.settings.delimiter])
  else
    putWhole name space.text
    modify fun editor => { editor with owing := name :: editor.owing }

/-- Writes what is queued. -/
def putQueued : Queued → Edit Unit
  | .text text => putWhole [] text
  | .file name => do
    let editor ← get
    if name = standardInput then
      putWhole [] ((editor.readers.lookup name).getD [])
      set { ← get with readers := editor.readers.filter (·.1 ≠ name) }
    else putWhole [] (((editor.settings.contentOf name).map ofBytes).getD [])

/-- Writes all that is queued. -/
def putQueue : Edit Unit := do
  let queue := (← get).queue
  modify ({ · with queue := [] })
  queue.forM putQueued

/-! ## Input -/

/-- Ends the work on a file that is edited in place. -/
def closeFile : Edit Unit := do
  let editor ← get
  if editor.isEditing then
    effect (.replace editor.input.name editor.written.reverse.flatten)
    modify ({ · with
      isEditing := false, written := [], writtenSize := 0, owing := editor.owing.erase [] })

/-- Ends everything. -/
def finish {α : Type} (status : Nat) : Edit α := do
  closeFile
  flush
  throw (.finished status)

/-- Ends everything because of something that cannot be done. -/
def giveUp {α : Type} (text : Text) : Edit α := do
  effect (.complain text)
  flush
  throw (.finished 4)

/-- Opens the next file that can be opened, and says whether there is one. -/
def openNext : Nat → Edit Bool
  | 0 => return false
  | bound + 1 => do
    closeFile
    let editor ← get
    let settings := editor.settings
    match editor.input.rest with
    | [] => return false
    | (name, .error .isDirectory) :: _ =>
      if settings.inPlace then giveUp ("couldn't edit " ++ name ++ ": not a regular file")
      else giveUp ("read error on " ++ name ++ ": Is a directory")
    | (name, .error error) :: rest =>
      effect (.complain ("can't read " ++ name ++ ": " ++ error.reason))
      set { editor with
        input := { editor.input with rest }, hasFailed := true
        effects := (← get).effects }
      openNext bound
    | (name, .ok source) :: rest =>
      let (text, source) : Text × Option Source := match source with
        | .content bytes => (ofBytes bytes, none)
        | source => ([], some source)
      modify ({ · with
        input := ⟨name, text, source, rest⟩
        number := if settings.isSeparate then 0 else editor.number
        isEditing := settings.inPlace })
      if settings.inPlace then effect (.keep name)
      return true

/-- Makes sure that something of the current file is left to be read, if there is anything. -/
def hasText : Edit Bool := do
  let input := (← get).input
  if !input.text.isEmpty then return true
  if input.source.isSome then throw .lacksInput
  return false

/-- Whether there is another line behind the current one, in this file or in one of at most `bound`
others. -/
def hasMore : Nat → Edit Bool
  | 0 => return false
  | bound + 1 => do
    if ← hasText then return true
    let editor ← get
    if editor.settings.isSeparate || editor.input.rest.isEmpty then return false
    if ← openNext (editor.input.rest.length + 1) then hasMore bound else return false

/-- Whether there is another line. -/
def isMore : Edit Bool := do hasMore ((← get).input.rest.length + 2)

/-- The next line of the current file, if there is one. -/
def fetchHere : Edit (Option Space) := do
  let editor ← get
  let line := editor.input.text.takeWhile (· ≠ editor.settings.delimiter)
  match editor.input.text.drop line.length with
  | _ :: rest =>
    set { editor with input := { editor.input with text := rest } }
    return some ⟨line, true⟩
  | [] =>
    if editor.input.source.isSome then throw .lacksInput
    set { editor with input := { editor.input with text := [] } }
    return if line.isEmpty then none else some ⟨line, false⟩

/-- The next line, if there is one in the current file or in one of at most `bound` others. -/
def fetch : Nat → Edit (Option Space)
  | 0 => return none
  | bound + 1 => do
    match ← fetchHere with
    | some space => return some space
    | none => if ← openNext ((← get).input.rest.length + 1) then fetch bound else return none

/-- Takes the next line behind some text that is kept, if there is one. -/
def readLine (kept : Text) : Edit Bool := do
  match ← fetch ((← get).input.rest.length + 2) with
  | none => return false
  | some space =>
    modify fun editor => { editor with
      space := { space with text := kept ++ space.text }
      number := editor.number + 1, hasReplaced := false }
    return true

/-! ## Selecting -/

/-- The expression that is meant, which becomes the last one that was used. -/
def meant (regex : Option Regex) : Edit Regex := do
  let editor ← get
  match regex.orElse fun _ => editor.lastRegex with
  | some regex =>
    set { editor with lastRegex := some regex }
    return regex
  | none =>
    effect (.complain ("-e expression #" ++ Text.ofNat editor.script.parts ++
      ", char 0: no previous regular expression"))
    flush
    throw (.finished 1)

/-- Whether the line is at an address. -/
def isAt : Address → Edit Bool
  | .line n => return n = (← get).number
  | .every first step => do
    let number := (← get).number
    return first ≤ number && (number - first) % step = 0
  | .last => return !(← isMore)
  | .matching regex => do
    return ((← meant regex).find? (← get).space.text).isSome

/-- Starts a range, or leaves it at its first line. -/
def startRange (place : Nat) (stop : Stop) : Edit Unit := do
  let number := (← get).number
  let activate (last : Option Nat) : Edit Unit :=
    modify fun editor => { editor with ranges := (place, last) :: editor.ranges }
  let upTo (last : Nat) : Edit Unit := if number < last then activate (some last) else return ()
  match stop with
  | .address (.line n) => upTo n
  | .address _ => activate none
  | .after count => upTo (number + count)
  | .multiple n => if n = 0 then return () else upTo ((number / n + 1) * n)

/-- Whether the line is in the range of a command. -/
def isInRange (place : Nat) (start : Address) (stop : Stop) : Edit Bool := do
  let editor ← get
  let close : Edit Unit := modify fun editor =>
    { editor with ranges := editor.ranges.filter (·.1 ≠ place) }
  match editor.ranges.lookup place, stop with
  | none, stop =>
    if ← isAt start then
      startRange place stop
      return true
    else return false
  | some none, .address address =>
    if ← isAt address then close
    return true
  | some none, _ => return true
  | some (some last), _ =>
    if last ≤ editor.number then close
    if editor.number ≤ last then return true else isAt start

/-- Whether a command is for the line. -/
def isFor (place : Nat) (selection : Selection) : Edit Bool := do
  let covered ← match selection.start, selection.stop with
    | none, _ => pure true
    | some start, none => isAt start
    | some start, some stop => isInRange place start stop
  return covered != selection.negated

/-! ## Acting -/

/-- The characters of a line as they are shown unmistakably. -/
def shownChar (c : Char) : Text :=
  if c = '\\' then "\\\\"
  else if c = '\x07' then "\\a"
  else if c = '\x08' then "\\b"
  else if c = '\x0c' then "\\f"
  else if c = '\n' then "\\n"
  else if c = '\r' then "\\r"
  else if c = '\t' then "\\t"
  else if c = '\x0b' then "\\v"
  else if ' ' ≤ c && c ≤ '~' then [c]
  else
    let digits := Nat.toDigits 8 c.toNat
    '\\' :: List.replicate (3 - digits.length) '0' ++ digits

/-- Pieces of a line, broken where they would get wider than `width`, unless that is zero. -/
def broken (width : Nat) : Nat → List Text → Text
  | _, [] => "$\n"
  | column, piece :: rest =>
    if width ≠ 0 && width - 1 < column + piece.length then
      "\\\n" ++ piece ++ broken width piece.length rest
    else piece ++ broken width (column + piece.length) rest

/-- Goes to the end of the script. -/
def toEnd : Edit Unit := modify fun editor =>
  { editor with place := some editor.script.commands.size }

/-- Drops the line. -/
def drop : Edit Unit := modify ({ · with place := none })

/-- Ends everything in good order. -/
def quit (status : Nat) : Edit Unit := do
  finish (if (← get).hasFailed then 2 else status)

/-- Shows the line unless the script is silent. -/
def showSpace : Edit Unit := do
  let editor ← get
  if !(editor.settings.isSilent || editor.script.isSilent) then putLine [] editor.space

/-- Shows a line in which something was replaced. -/
def showReplaced (substitution : Substitution) : Edit Unit := do
  if substitution.shows then putLine [] (← get).space
  match substitution.file with
  | some name => putLine name (← get).space
  | none => return ()

/-- Replaces matches in the line. -/
def substitute (substitution : Substitution) : Edit Unit := do
  let regex ← meant substitution.regex
  let replaced := substitution.replace regex (← get).space.text
  if replaced.hasMatch then
    modify fun editor => { editor with
      space := { editor.space with text := replaced.text }, hasReplaced := true }
    if substitution.runs then
      modify ({ · with awaited := .replaced substitution })
      throw (.wantsOutput replaced.text)
    else showReplaced substitution

/-- Goes on with the output of a command. -/
def resume (output : Text) : Edit Unit := do
  let editor ← get
  let text := if output.getLast? = some editor.settings.delimiter then output.dropLast else output
  match editor.awaited with
  | .text => put output
  | .line => set { editor with space := { editor.space with text } }
  | .replaced substitution =>
    set { editor with space := { editor.space with text } }
    showReplaced substitution

/-- The first line of what may be several. -/
def firstLine : Edit Space := do
  let editor ← get
  let line := editor.space.text.takeWhile (· ≠ editor.settings.delimiter)
  return if line.length < editor.space.text.length then ⟨line, true⟩ else editor.space

/-- Queues a line of a file. -/
def queueLine (name : Text) : Edit Unit := do
  let editor ← get
  let text := (editor.readers.lookup name).getD
    (((editor.settings.contentOf name).map ofBytes).getD [])
  let line := text.takeWhile (· ≠ editor.settings.delimiter)
  let rest := text.drop line.length
  modify fun editor => { editor with
    readers := (name, rest.drop 1) :: editor.readers.filter (·.1 ≠ name)
    queue := if text.isEmpty then editor.queue
      else editor.queue ++ [.text (line ++ rest.take 1)] }

/-- Does what a command does. -/
def perform (place : Nat) : Action → Edit Unit
  | .block _ => return ()
  | .branch onReplaced name => do
    let editor ← get
    let goes : Bool := match onReplaced with
      | none => true
      | some wanted => editor.hasReplaced == wanted
    if onReplaced.isSome then modify ({ · with hasReplaced := false })
    if goes then
      if name.isEmpty then toEnd else modify ({ · with place := editor.script.labels.lookup name })
  | .append text => modify fun editor => { editor with queue := editor.queue ++ [.text text] }
  | .insert text => putWhole [] text
  | .change text => do
    if ((← get).ranges.lookup place).isNone then putWhole [] text
    drop
  | .delete => drop
  | .deleteFirst => do
    let editor ← get
    let line := editor.space.text.takeWhile (· ≠ editor.settings.delimiter)
    match editor.space.text.drop line.length with
    | [] => drop
    | _ :: rest =>
      modify ({ · with space := { editor.space with text := rest }, isRestarted := true })
      drop
  | .run command => do
    if command.isEmpty then
      modify ({ · with awaited := .line })
      throw (.wantsOutput (← get).space.text)
    else
      putWhole [] []
      modify ({ · with awaited := .text })
      throw (.wantsOutput command)
  | .showName => do putWhole [] ((← get).input.name ++ ['\n'])
  | .showNumber => do putWhole [] (Text.ofNat (← get).number ++ ['\n'])
  | .take => modify fun editor => { editor with space := editor.held }
  | .takeMore => modify fun editor => { editor with
      space := { editor.space with
        text := editor.space.text ++ editor.settings.delimiter :: editor.held.text } }
  | .hold => modify fun editor => { editor with held := editor.space }
  | .holdMore => modify fun editor => { editor with
      held := { editor.held with
        text := editor.held.text ++ editor.settings.delimiter :: editor.space.text } }
  | .exchange => modify fun editor => { editor with space := editor.held, held := editor.space }
  | .list width => do
    let editor ← get
    putWhole [] (broken (width.getD editor.settings.width) 0 (editor.space.text.map shownChar))
  | .next => do
    if ← isMore then
      showSpace
      putQueue
      let _ ← readLine []
    else toEnd
  | .nextMore => do
    if ← isMore then
      let editor ← get
      putQueue
      let _ ← readLine (editor.space.text ++ [editor.settings.delimiter])
    else toEnd
  | .print => do putLine [] (← get).space
  | .printFirst => do putLine [] (← firstLine)
  | .quit status silently => do
    if !silently then
      showSpace
      putWhole [] []
      putQueue
    quit status
  | .readFile name => modify fun editor => { editor with queue := editor.queue ++ [.file name] }
  | .readLine name => queueLine name
  | .writeFile name => do putLine name (← get).space
  | .writeFirst name => do putLine name (← firstLine)
  | .substitute substitution => Edit.substitute substitution
  | .translate pairs => modify fun editor => { editor with
      space := { editor.space with
        text := editor.space.text.map fun c => (pairs.lookup c).getD c } }
  | .clear => modify fun editor => { editor with space := { editor.space with text := [] } }

/-- Makes sure that a whole line can be fetched. -/
def awaitLine : Edit Unit := do
  let input := (← get).input
  if input.source.isSome && !input.text.elem (← get).settings.delimiter then throw .lacksInput

/-- Fetches the next line, or ends everything if there is none. -/
def begin : Edit Unit := do
  if (← get).isRestarted then modify ({ · with isRestarted := false, place := some 0 })
  else
    awaitLine
    putQueue
    if ← readLine [] then modify ({ · with place := some 0 })
    else quit 0

/-- Carries out one command, or fetches the next line. -/
def step : Edit Unit := do
  let editor ← get
  match editor.place with
  | none => begin
  | some place =>
    match editor.script.commands[place]? with
    | none =>
      showSpace
      drop
    | some ⟨selection, action⟩ =>
      let isChosen ← if editor.isChosen then pure true else isFor place selection
      if isChosen then
        modify ({ · with isChosen := true })
        if action.needsLine then
          if ← isMore then awaitLine
        modify ({ · with isChosen := false, place := some (place + 1) })
        perform place action
      else
        modify ({ · with place := some (match action with
          | .block stop => stop
          | _ => place + 1) })

/-- Takes at most so many steps, up to a pause. -/
def steps : Nat → Edit Unit
  | 0 => return ()
  | n + 1 => do
    step
    steps n

end Edit

/-- The ranges of a script that are under way before the first line. -/
def Script.startRanges (script : Script) : List (Nat × Option Nat) :=
  script.commands.toList.zipIdx.filterMap fun (command, place) =>
    match command.selection.start, command.selection.stop with
    | some (.line 0), some _ => some (place, none)
    | _, _ => none

/-- A script that is about to be run. -/
def Editor.start (script : Script) (settings : Settings)
    (sources : List (Text × Except SystemError Source)) : Editor where
  script
  settings
  input := ⟨['-'], [], none, sources⟩
  space := ⟨[], true⟩
  held := ⟨[], true⟩
  number := 0
  hasReplaced := false
  ranges := script.startRanges
  queue := []
  lastRegex := none
  place := none
  isChosen := false
  isRestarted := false
  hasFailed := false
  isEditing := false
  owing := []
  written := []
  writtenSize := 0
  awaited := .line
  readers := []
  effects := []

end Runbook.Shell.Editing
