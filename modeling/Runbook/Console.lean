import Runbook.Excerpt
import Runbook.Result
import Runbook.SystemError
import Runbook.Text.Utf8

/-!
# The console

`Result.render` is the text that a result puts on the console: the excerpt of its standard output
or, for a failure, of its standard error, the latter in red line by line if colour is wanted. Each
line is coloured by itself, so that no colour is left on at a line end.

A `Sink` is where bytes go. It counts its flushes, and it may have room for a limited number of
bytes: a write beyond that keeps what fits and then fails. `Result.report` writes both channels of a
result to a sink, piece by piece, and flushes it once, also when there was nothing to write; the
first write that fails ends it.
-/

namespace Runbook

/-! ## Rendering -/

/-- How results are shown. Reference: the fields of `ConsoleReporter`. -/
structure Display where
  policy : Policy
  color : Bool
  deriving Repr, DecidableEq

/-- The control sequence that turns red on. -/
def redOn : Text := "\u001b[31m"

/-- The control sequence that returns to the colour in use before. -/
def redOff : Text := "\u001b[39m"

/-- A text with each of its lines in red. Reference: `ConsoleReporter::write_highlighted`. -/
def highlight (text : Text) : Text :=
  Text.unlines ((Text.lines text).map fun line => redOn ++ line ++ redOff)

/-- The texts that are written one after another to print a text with each of its lines in red.
Reference: the writes of `ConsoleReporter::write_highlighted`. -/
def highlightPieces (text : Text) : List Text :=
  (Text.lines text).flatMap fun line => [redOn, line, redOff, ['\n']]

/-- What a result puts on the console. Reference: `ConsoleReporter::report`. -/
def Result.render (display : Display) : Result → Except Overflow Text
  | .success stdout => return (← Excerpt.abridge display.policy stdout).render
  | .failure _ stderr => do
    let shown := (← Excerpt.abridge display.policy stderr).render
    return if display.color then highlight shown else shown

/-! ## Sinks -/

/-- A receiver of bytes. Reference: the writer of `ConsoleReporter`. -/
structure Sink where
  /-- How many bytes it takes in all; any number if there is no limit. -/
  capacity : Option Nat
  /-- The bytes it has taken. -/
  received : List UInt8
  /-- How often it has been flushed. -/
  flushes : Nat
  deriving Repr, DecidableEq

/-- A sink that has taken nothing yet. -/
def Sink.empty (capacity : Option Nat) : Sink := ⟨capacity, [], 0⟩

/-- How many of `wanted` more bytes the sink takes. -/
def Sink.room (sink : Sink) (wanted : Nat) : Nat :=
  match sink.capacity with
  | none => wanted
  | some capacity => min wanted (capacity - sink.received.length)

/-- A computation that writes to a sink and may stop; what was written until then stays. -/
abbrev Printing := ExceptT (Fault SystemError) (StateM Sink)

/-- Writes bytes. If they do not all fit, the sink keeps those that do and the writing fails.
Reference: `Write::write_all`. -/
def Sink.write (bytes : List UInt8) : Printing Unit := do
  let sink ← get
  let room := sink.room bytes.length
  set { sink with received := sink.received ++ bytes.take room }
  if room < bytes.length then throw (.refused .sinkFull)

/-- Passes on what was written. Reference: `Write::flush`. -/
def Sink.flush : Printing Unit := modify fun sink => { sink with flushes := sink.flushes + 1 }

/-- Writes texts one after another. -/
def Sink.writeAll (pieces : List Text) : Printing Unit :=
  pieces.forM fun piece => Sink.write (Text.utf8 piece)

/-- Chooses the excerpt of a text that is to be printed. -/
def Display.excerpt (display : Display) (text : Text) : Printing Excerpt :=
  match Excerpt.abridge display.policy text with
  | .ok excerpt => return excerpt
  | .error operation => throw (.overflow operation)

/-- Shows a result: writes its standard output, then its standard error, and flushes once.
Reference: `ConsoleReporter::report`. -/
def Result.report (display : Display) (result : Result) : Printing Unit := do
  let stdout ← display.excerpt result.stdout
  Sink.writeAll stdout.pieces
  let stderr ← display.excerpt result.stderr
  Sink.writeAll (if display.color then highlightPieces stderr.render else stderr.pieces)
  Sink.flush

end Runbook
