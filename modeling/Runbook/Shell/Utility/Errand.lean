import Runbook.Shell.Permissions
import Runbook.Shell.Utility.Basic

/-!
# What programs do to files

An `Errand` changes files, and says in the course of that what it has done, what it could not do and
what it wants to know. `Job.carriesOut` makes a program of an errand: the files change at once, and
then everything that was said is written in its order. The program fails if there was a complaint.
-/

namespace Runbook.Shell

/-- Something that a program says while it works on files. -/
inductive Remark where
  | shows (line : Text)
  | prints (text : Text)
  | complains (text : Text)
  | asks (question : Text)
  /-- Nothing is said, but the program fails. -/
  | fails

/-- How far work on files has come. -/
structure Changes where
  files : Files
  /-- What was said so far, the last first. -/
  remarks : List Remark
  /-- The lines that answer what is asked, the next first. -/
  answers : List Text

/-- Work on files. -/
abbrev Errand := StateM Changes

namespace Errand

/-- The files as they are now. -/
def files : Errand Files := return (← get).files

/-- Changes the files. -/
def change (deed : Files → Files) : Errand Unit :=
  modify fun changes => { changes with files := deed changes.files }

/-- Says something. -/
def tell (remark : Remark) : Errand Unit :=
  modify fun changes => { changes with remarks := remark :: changes.remarks }

/-- Writes a line. -/
def shows (line : Text) : Errand Unit := tell (.shows line)

/-- Complains. -/
def complains (text : Text) : Errand Unit := tell (.complains text)

/-- Asks a question, and says whether it is answered with yes. -/
def asks (question : Text) : Errand Bool := do
  tell (.asks question)
  let changes ← get
  set { changes with answers := changes.answers.drop 1 }
  let answer := (changes.answers.headD []).head?
  return answer = some 'y' || answer = some 'Y'

/-- Changes the files, or complains with the reason why that is refused. -/
def attempt (deed : Files → Except SystemError Files) (complaint : SystemError → Text) :
    Errand Unit := do
  match deed (← files) with
  | .ok files => change fun _ => files
  | .error error => complains (complaint error)

end Errand

/-- A program that writes what was said, and then ends. -/
def Job.speaks (job : Job) (remarks : List Remark) : Activity :=
  let isFailure : Remark → Bool
    | .complains _ | .fails => true
    | _ => false
  let say (remark : Remark) (next : Activity) : Activity := match remark with
    | .shows line => .say (line ++ ['\n']) next
    | .prints text => .say text next
    | .complains text => job.complain text next
    | .asks question => .write 2 (toBytes (job.name ++ ": " ++ question ++ "? ")) next
    | .fails => next
  remarks.foldr say (.finish (if remarks.any isFailure then 1 else 0))

/-- A program that carries an errand out, questions being answered by the lines of a text. -/
def Job.carriesOut (job : Job) (answers : Text) (errand : Errand Unit) : Activity :=
  .change fun files =>
    let ((), changes) := errand.run ⟨files, [], Text.pieces '\n' answers⟩
    (changes.files, job.speaks changes.remarks.reverse)

/-- A program that does something with each of its operands, of which there must be one. If it is to
ask, the answers are read from the standard input. -/
def Job.withEach (job : Job) (isAsking : Bool) (operands : List Text)
    (errand : Text → Errand Unit) :
    Activity :=
  if operands.isEmpty then job.misused 1 "missing operand"
  else
    let work : Errand Unit := operands.forM errand
    if isAsking then
      .pump (.descriptor 0) [1] .collect .empty (fun _ _ => job.carriesOut [] work) fun bytes =>
        job.carriesOut (ofBytes bytes) work
    else job.carriesOut [] work

end Runbook.Shell
