import Runbook.Sequence.Run

/-!
# Rehearsals

A rehearsal runs a sequence without a shell: the result of a command is looked up in a script, and
the lines of the commands are noted as they are run. A line has at most one result in a script, the
one that was put there last; a line without one succeeds and writes nothing.

The lines are noted on a sheet that others may hold as well. So all the sheets are part of the
state, and a rehearsal knows the place of its own; whoever knows the same place reads there what has
been noted.
-/

namespace Runbook.Sequence

/-- What whoever started a run gets to see of it: the summary, and the text that was printed. There
is neither if the run has ended with a fault, or if the bytes that were printed are no text.
Reference: `run_captured`. -/
def Run.shown? {σ : Type} (run : Run σ) : Option (Summary × Text) :=
  match run.ending with
  | .error _ => none
  | .ok summary => (Utf8.decode? run.console.received).map fun text => (summary, text)

/-! ## Scripts -/

/-- Lines and their results. Reference: the scripted results of `FakeExecutor`. -/
structure Script where
  entries : List (Text × Result)
  /-- No line has two results. -/
  distinct : entries.Pairwise fun entry other => entry.1 ≠ other.1
  deriving Repr, DecidableEq

namespace Script

/-- The script in which no line has a result. -/
def empty : Script := ⟨[], .nil⟩

/-- The script with a result for a line, in place of the one that the line had. Reference:
`HashMap::insert`. -/
def put (script : Script) (line : Text) (result : Result) : Script where
  entries := (line, result) :: script.entries.filter (·.1 ≠ line)
  distinct := by
    refine List.pairwise_cons.mpr ⟨fun entry hentry => ?_, script.distinct.filter _⟩
    exact (of_decide_eq_true (List.mem_filter.mp hentry).2).symm

/-- The result of a line: the one that it has in the script, or else a success without output.
Reference: `FakeExecutor::execute`. -/
def resultOf (script : Script) (line : Text) : Result :=
  (script.entries.lookup line).getD (.success [])

end Script

/-! ## Rehearsals -/

/-- A script, and the sheets on one of which the lines are noted that are run. Reference:
`FakeExecutor`. -/
structure Rehearsal where
  script : Script
  /-- All the sheets that there are. -/
  sheets : List (List Text)
  /-- The place of the rehearsal's own sheet. -/
  own : Nat
  own_lt : own < sheets.length
  deriving Repr, DecidableEq

namespace Rehearsal

/-- A rehearsal without a script, with one of the sheets for its own. Reference:
`FakeExecutor::new`. -/
def on (sheets : List (List Text)) (own : Fin sheets.length) : Rehearsal :=
  ⟨.empty, sheets, own, own.isLt⟩

/-- The same rehearsal with one more entry in its script. Reference: `FakeExecutor::script`. -/
def add (rehearsal : Rehearsal) (line : Text) (result : Result) : Rehearsal :=
  { rehearsal with script := rehearsal.script.put line result }

/-- The same rehearsal with entries put into its script one after another. -/
def addAll (rehearsal : Rehearsal) (entries : List (Text × Result)) : Rehearsal :=
  entries.foldl (fun rehearsal entry => rehearsal.add entry.1 entry.2) rehearsal

/-- The rehearsal of a script, with a blank sheet. Reference: `FakeExecutor::default`. -/
def ofScript (entries : List (Text × Result)) : Rehearsal :=
  (on [[]] ⟨0, Nat.one_pos⟩).addAll entries

/-- The lines on the rehearsal's sheet. Reference: `FakeExecutor::executed`. -/
def ran (rehearsal : Rehearsal) : List Text :=
  rehearsal.sheets.get ⟨rehearsal.own, rehearsal.own_lt⟩

/-- The same rehearsal with further lines on its sheet. -/
def note (rehearsal : Rehearsal) (lines : List Text) : Rehearsal :=
  { rehearsal with
    sheets := rehearsal.sheets.set rehearsal.own (rehearsal.ran ++ lines)
    own_lt := by rw [List.length_set]; exact rehearsal.own_lt }

/-- Notes a command and answers with its result. Reference: `FakeExecutor::execute`. -/
def execute : Executor Rehearsal := fun rehearsal command =>
  (rehearsal.script.resultOf command.line, rehearsal.note [command.line])

/-- Runs commands against the script, shown under the default policy. Reference: `run_captured`. -/
def perform (rehearsal : Rehearsal) (color : Bool) (commands : List Command) : Run Rehearsal :=
  run execute ⟨.default, color⟩ commands rehearsal (.empty none)

end Rehearsal

end Runbook.Sequence
