import Runbook.Shell.Editing.Editor
import Runbook.Shell.Editing.Reading
import Runbook.Shell.Utility.Basic

/-!
# Editing lines of files

`sed` edits lines by a script. What an editor wants to be done outside, and what it lacks, becomes
an activity step by step.
-/

namespace Runbook.Shell.Utility

open Editing

namespace Sed

/-- How many steps an editor takes at once. -/
def stepsAtOnce : Nat := 1000

/-- How long those steps take, in nanoseconds. -/
def stepsTime : Nat := 200000

/-- A command of a script as a program with arguments. -/
def shellCommand (command : Text) : List Text := ["sh", "-c", command]

/-- What is said if a command of a script cannot be run. -/
def cannotStart (job : Job) (error : SystemError) : Text := job.name ++ ": sh: " ++ error.reason

/-- The name of the copy of a file that is kept when the file is edited: a suffix behind the name,
or a pattern with asterisks for the name. -/
def keptName (suffix name : Text) : Text :=
  let directory := (name.reverse.dropWhile (· ≠ '/')).reverse
  let base := name.drop directory.length
  let text := if suffix.elem '*' then suffix.flatMap fun c => if c = '*' then base else [c]
    else base ++ suffix
  if text.elem '/' then text else directory ++ text

/-- Writes a file anew. -/
def overwrite (job : Job) (name : Text) (content : ByteArray) (next : Activity) : Activity :=
  .create name false fun
    | .ok descriptor => if content.isEmpty then next else .write descriptor content next
    | .error error =>
      job.complain ("couldn't open file " ++ name ++ ": " ++ error.reason) (.finish 4)

/-- Does what an editor wants to be done. Files that a script writes to are open already. -/
def act (job : Job) (suffix : Text) (outputs : List (Text × Nat)) (effect : Effect)
    (next : Activity) : Activity :=
  match effect with
  | .show text => .say text next
  | .write name text =>
    if text.isEmpty then next else .write ((outputs.lookup name).getD 1) (toBytes text) next
  | .complain text => job.complain text next
  | .replace name text => overwrite job name (toBytes text) next
  | .keep name =>
    if suffix.isEmpty then next
    else match job.visible.read job.dir name with
      | .ok content => overwrite job (keptName suffix name) content next
      | .error _ => next

/-- Runs an editor, which comes to at most `bound` pauses. -/
def run (job : Job) (suffix : Text) (outputs : List (Text × Nat)) : Nat → Edit Unit → Editor →
    Activity
  | 0, _, _ => .finish 1
  | bound + 1, edit, editor =>
    let (result, editor) := (edit *> Edit.steps stepsAtOnce).run editor
    let goOn (edit : Edit Unit) (editor : Editor) : Activity :=
      run job suffix outputs bound edit { editor with effects := [] }
    let next : Activity := match result with
      | .ok () => .pause (some stepsTime) fun _ => goOn (pure ()) editor
      | .error (.finished status) =>
        let ending : Activity := if job.hasOutput then .finish status
          else job.complain ("couldn't close stdout: " ++ badDescriptor) (.finish 4)
        match editor.input.source with
        | some source => .giveBack source editor.input.text.length ending
        | none => ending
      | .error .lacksInput =>
        match editor.input.source with
        | none => .finish 1
        | some source => .read source Activity.chunkSize fun
          | .bytes chunk rest => goOn (pure ()) { editor with
              input := { editor.input with
                text := editor.input.text ++ ofBytes chunk, source := some rest } }
          | .finished => goOn (pure ())
              { editor with input := { editor.input with source := none } }
          | .refused reason =>
            let name : Text := if editor.input.name = "-" then "stdin" else editor.input.name
            job.complain ("read error on " ++ name ++ ": " ++ reason) (.finish 4)
      | .error (.wantsOutput command) =>
        .spawn (shellCommand command) job.exports (cannotStart job) fun child descriptor =>
          .pump (.descriptor descriptor) [1] .collect .empty (fun _ _ => .finish 4) fun bytes =>
            .await child fun _ => goOn (Edit.resume (ofBytes bytes)) editor
    editor.effects.reverse.foldr (act job suffix outputs) next

/-- Opens the files that a script writes to, and goes on with their descriptors. -/
def openOutputs (job : Job) (next : List (Text × Nat) → Activity) :
    List Text → List (Text × Nat) → Activity
  | [], found => next found
  | name :: rest, found =>
    if (found.lookup name).isSome then openOutputs job next rest found
    else if name = Edit.standardOutput then openOutputs job next rest ((name, 1) :: found)
    else if name = "/dev/stderr" then openOutputs job next rest ((name, 2) :: found)
    else .create name false fun
      | .ok descriptor => openOutputs job next rest ((name, descriptor) :: found)
      | .error error =>
        job.complain ("couldn't open file " ++ name ++ ": " ++ error.reason) (.finish 4)

/-! ## Options -/

/-- The options of `sed`. -/
def switches : Switches where
  plain := "nrEszuδπφσ"
  valued := "efl"
  optional := "i"
  long := [("quiet", 'n'), ("silent", 'n'), ("debug", 'δ'), ("expression", 'e'), ("file", 'f'),
    ("follow-symlinks", 'φ'), ("in-place", 'i'), ("line-length", 'l'), ("posix", 'π'),
    ("regexp-extended", 'E'), ("separate", 's'), ("sandbox", 'σ'), ("unbuffered", 'u'),
    ("null-data", 'z'), ("zero-terminated", 'z')]

/-- Whether a name stands for the standard input. -/
def isInput (name : Text) : Bool := name = "-" || name = Edit.standardInput

/-- The fragments of the script that options give; `input` is what the standard input holds. -/
def fragmentsOf (job : Job) (input : ByteArray) :
    List (Char × Text) → Except Text (List Fragment)
  | [] => .ok []
  | ('e', text) :: rest => do return ⟨none, text⟩ :: (← fragmentsOf job input rest)
  | ('f', name) :: rest => do
    let content ← if isInput name then .ok input else match job.visible.read job.dir name with
      | .ok content => .ok content
      | .error error => .error ("couldn't open file " ++ name ++ ": " ++ error.reason)
    return ⟨some name, ofBytes content⟩ :: (← fragmentsOf job input rest)
  | _ :: rest => fragmentsOf job input rest

/-- Whether a command reads the standard input as a file. -/
def readsInput (command : Command) : Bool :=
  match command.action with
  | .readFile name | .readLine name => name = Edit.standardInput
  | _ => false

/-- Runs a script on the files that operands name. -/
def start (job : Job) (given : Given) (script : Editing.Script) (operands : List Text) : Activity :=
  let inPlace := given.has 'i'
  let settings : Settings := {
    delimiter := if given.has 'z' then Text.null else '\n'
    isSilent := given.has 'n'
    isSeparate := given.has 's' || inPlace
    inPlace
    isHasty := given.has 'u'
    width := ((given.value? 'l').bind natural?).getD 70
    contentOf := fun name => (job.visible.read job.dir name).toOption }
  if inPlace && operands.isEmpty then job.complain "no input files" (.finish 4)
  else
    let editor := Editor.start script settings (job.sources operands)
    let suffix := (given.value? 'i').getD []
    let begin (editor : Editor) : Activity :=
      openOutputs job (fun outputs => run job suffix outputs Activity.readLimit (pure ()) editor)
        script.outputs []
    if script.commands.any readsInput then
      .pump (.descriptor 0) [1] .collect .empty (fun _ _ => begin editor) fun bytes =>
        begin { editor with readers := [(Edit.standardInput, ofBytes bytes)] }
    else begin editor

/-- Reads the script and starts it; `input` is what the standard input holds. -/
def prepare (job : Job) (given : Given) (options : List (Char × Text)) (operands : List Text)
    (input : ByteArray) : Activity :=
  let dialect : Regex.Dialect := ⟨given.has 'E' || given.has 'r', false, false, false⟩
  match fragmentsOf job input options with
  | .error text => job.complain text (.finish 4)
  | .ok fragments => match Editing.Script.read dialect (given.has 'z') fragments with
    | .error fault => job.complain fault.message (.finish fault.status)
    | .ok script => start job given script operands

end Sed

open Sed in
/-- `sed` edits lines by a script. -/
def sed : Utility := fun job =>
  match Sed.switches.read job.arguments with
  | .error text => job.complain text (.finish 1)
  | .ok given =>
    let isPart (option : Char × Text) : Bool := option.1 = 'e' || option.1 = 'f'
    let options := given.options.filter isPart
    match options, given.operands with
    | [], [] => .complain
        "Usage: sed [OPTION]... \x7bscript-only-if-no-other-script\x7d [input-file]..." (.finish 1)
    | [], first :: rest => prepare job given [('e', first)] rest .empty
    | options, operands =>
      if options.any fun (letter, name) => letter = 'f' && isInput name then
        let go := prepare job given options operands
        .pump (.descriptor 0) [1] .collect .empty (fun _ _ => go .empty) go
      else prepare job given options operands .empty

end Runbook.Shell.Utility
