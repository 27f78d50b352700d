import Runbook.Shell.Utility.Arguments
import Runbook.Shell.Utility.Block
import Runbook.Shell.Utility.Expression
import Runbook.Shell.Utility.File
import Runbook.Shell.Utility.Grep
import Runbook.Shell.Utility.Launch
import Runbook.Shell.Utility.Line
import Runbook.Shell.Utility.Listing
import Runbook.Shell.Utility.Proposition
import Runbook.Shell.Utility.Search
import Runbook.Shell.Utility.Sed
import Runbook.Shell.Utility.Sorting
import Runbook.Shell.Utility.Stream
import Runbook.Shell.Utility.Transfer
import Runbook.Shell.Utility.Translation

/-!
# The programs there are

`Utility.find?` gives the program of a name. The smallest of them, which answer a question about
conditions, users or the system, are defined here.
-/

namespace Runbook.Shell.Utility

/-! ## Answers -/

/-- `id` says who runs it. -/
def id : Utility := withSwitches
    { plain := "ugnrGaz", long := [("user", 'u'), ("group", 'g'), ("name", 'n'), ("real", 'r'),
      ("groups", 'G'), ("zero", 'z')] } 1 fun job given =>
  match given.operands.find? fun user => user ≠ ("root" : Text) with
  | some user => job.complain (quoted user ++ ": no such user") (.finish 1)
  | none =>
    if (given.lastOf? "ugG").isSome then job.answers (if given.has 'n' then "root\n" else "0\n")
    else if given.has 'n' || given.has 'r' then
      job.complain "cannot print only names or real IDs in default format" (.finish 1)
    else job.answers "uid=0(root) gid=0(root) groups=0(root)\n"

/-- `tty` names the terminal of the standard input, which is none. -/
def tty : Utility := withSwitches { plain := "s", long := [("silent", 's'), ("quiet", 's')] } 2
  fun _ given => .say (if given.has 's' then [] else "not a tty\n") (.finish 1)

/-- What `uname` knows, each with its letter. -/
def systemNames : List (Char × Text) := [
  ('s', "Linux"), ('n', "localhost"), ('r', "6.1.0"), ('v', "#1 SMP"), ('m', "x86_64"),
  ('p', "x86_64"), ('i', "x86_64"), ('o', "GNU/Linux")]

/-- `uname` names the system. -/
def uname : Utility := withOptions "snrvmpioa" [] 1 fun job given =>
  match given.operands with
  | operand :: _ => job.misused 1 ("extra operand " ++ quoted operand)
  | [] =>
    let isWanted (letter : Char) : Bool :=
      if given.options.isEmpty then letter = 's' else given.has 'a' || given.has letter
    let names := (systemNames.filter fun (letter, _) => isWanted letter).map (·.2)
    job.answers (List.intercalate [' '] names ++ ['\n'])

/-- A program that says one thing. -/
def saying (text : Text) : Utility := withOptions [] [] 1 fun job given =>
  match given.operands with
  | operand :: _ => job.misused 1 ("extra operand " ++ quoted operand)
  | [] => job.answers (text ++ ['\n'])

/-- `pwd` says in which directory it runs. -/
def pwd : Utility := withOptions "LP" [] 1 fun job _ =>
  job.answers (Files.pathText job.dir ++ ['\n'])

/-- A program that does nothing but end. -/
def ending (status : Nat) : Utility := fun _ => .finish status

/-! ## Output that cannot be written -/

/-- What becomes of a program that cannot write its output. -/
def unwritten (name reason : Text) : Activity :=
  let base := (name.reverse.takeWhile (· ≠ '/')).reverse
  let isClosed := reason = badDescriptor
  let say (text : Text) (status : Nat) : Activity :=
    .complain (name ++ ": " ++ text) (.finish status)
  if base = "rev" then .finish 0
  else if base = "yes" then say ("standard output: " ++ reason) 1
  else if base = "tee" then say ("'standard output': " ++ reason) 1
  else if base = "sed" then
    say ((if isClosed then "couldn't close stdout: " else "couldn't flush stdout: ") ++ reason) 4
  else if base = "sort" then
    .complain (name ++ ": fflush failed: 'standard output': " ++ reason)
      (say ("write error" ++ if isClosed then ": " ++ reason else []) 2)
  else if base = "find" then
    .complain (name ++ ": 'standard output': " ++ reason) (say ("write error: " ++ reason) 1)
  else
    let status := if base = "ls" || base = "grep" then 2 else if base = "expr" then 3
      else if base = "env" then 125 else 1
    say ("write error: " ++ reason) status

/-! ## Names -/

/-- The programs with their names. -/
def table : List (String × Utility) := [
  ("[", bracket), ("arch", saying "x86_64"), ("basename", basename), ("cat", cat),
  ("chmod", chmod), ("cp", cp), ("cut", cut), ("dd", dd), ("dirname", dirname), ("echo", echo),
  ("egrep", egrep), ("env", env), ("expr", expr), ("false", ending 1), ("fgrep", fgrep),
  ("find", find), ("grep", grep), ("groups", saying "root"), ("head", head), ("id", id),
  ("kill", kill), ("ln", ln), ("ls", ls), ("mkdir", mkdir), ("mv", mv), ("nice", nice),
  ("nohup", nohup), ("printenv", printenv), ("printf", printf), ("pwd", pwd),
  ("readlink", readlink), ("realpath", realpath), ("rev", rev), ("rm", rm), ("rmdir", rmdir),
  ("sed", sed), ("seq", seq), ("setsid", setsid), ("sleep", sleep), ("sort", sort),
  ("stat", stat), ("sync", ending 0), ("tac", tac), ("tail", tail), ("tee", tee), ("test", test),
  ("timeout", timeout), ("touch", touch), ("tr", tr), ("true", ending 0), ("truncate", truncate),
  ("tty", tty), ("uname", uname), ("uniq", uniq), ("wc", wc), ("which", which),
  ("whoami", saying "root"), ("xargs", xargs), ("yes", yes)]

/-- The program of a name. -/
def find? (name : Text) : Option Utility :=
  (table.find? fun (known, _) => known.toList = name).map (·.2)

/-- The names of shells. -/
def shellNames : List Text := ["sh", "dash", "bash"]

/-- The names of all programs. -/
def names : List Text := shellNames ++ table.map fun (name, _) => name.toList

end Runbook.Shell.Utility
