import Runbook.Files
import Runbook.Shell.Bytes

/-!
# What programs do

A program that is no shell is an `Activity`: what it still has to do, as a list of reads and writes,
looks at files and changes of them, with an exit status at its end. A program that reads chunk after
chunk gives each of them to a `Filter`, which says what to write and whether more is wanted, and
what to remember until the next chunk. `Activity.pump` is the program that does so.
-/

namespace Runbook.Shell

/-- What a filter makes of a chunk: what it remembers from then on, what is written, whether it
wants more, and how many bytes at the end of the chunk it has no use for if it does not. -/
structure Passed (σ : Type) where
  state : σ
  output : ByteArray
  wantsMore : Bool
  unused : Nat

/-- A way to deal with chunks of bytes, given what is remembered of those before. -/
abbrev Filter (σ : Type) := σ → ByteArray → Passed σ

/-- Where bytes are read from. -/
inductive Source where
  | descriptor (n : Nat)
  | content (bytes : ByteArray)
  /-- Zero bytes without end. -/
  | zeros

/-- Why nothing can be read from, or written to, what is not open for that. -/
def badDescriptor : Text := "Bad file descriptor"

/-- How a process ended. -/
inductive Exit where
  | exited (status : Nat)
  | signalled (signal : Nat)

/-- The status that a shell sees. -/
def Exit.status : Exit → Nat
  | .exited status => status
  | .signalled signal => 128 + signal

/-- What comes of reading. -/
inductive Received where
  /-- Bytes, and where those behind them are read from. -/
  | bytes (chunk : ByteArray) (rest : Source)
  | finished
  | refused (reason : Text)

/-- What a program still has to do. -/
inductive Activity where
  /-- It ends. -/
  | finish (status : Nat)
  | write (descriptor : Nat) (bytes : ByteArray) (next : Activity)
  /-- It writes one chunk after another to its standard output, until there is none. -/
  | produce (chunk : Nat → Option ByteArray) (index : Nat) (next : Activity)
  /-- It reads once, at most so many bytes, and goes on with what comes of that. -/
  | read (source : Source) (limit : Nat) (next : Received → Activity)
  /-- It gives back bytes that it has read last, for others to read if that is possible. -/
  | giveBack (source : Source) (count : Nat) (next : Activity)
  /-- It changes the files, and goes on as what it finds in them wants it. -/
  | change (deed : Files → Files × Activity)
  /-- It waits, for ever if no time is given. -/
  | pause (nanoseconds : Option Nat) (next : Unit → Activity)
  /-- It becomes the program that arguments name, or says why that has failed. -/
  | become (arguments : List Text) (exports : List (Text × Text)) (failed : SystemError → Text)
  /-- It opens a file to write to, and goes on with its descriptor. -/
  | create (name : Text) (append : Bool) (next : Except SystemError Nat → Activity)
  /-- It sends a signal, and goes on knowing whether there was anyone to send it to. -/
  | send (target : Int) (signal : Nat) (next : Bool → Activity)
  /-- It runs another program in a process of its own, with its own standard input or with nothing
  to read, and goes on with how that ended, or why it could not be run. -/
  | run (arguments : List Text) (exports : List (Text × Text)) (hasInput : Bool)
      (next : Except SystemError Exit → Activity)
  /-- It starts another program whose standard output it reads, and goes on with the process and
  with the descriptor to read from. -/
  | spawn (arguments : List Text) (exports : List (Text × Text)) (failed : SystemError → Text)
      (next : Nat → Nat → Activity)
  /-- It waits until a process that it has started ends, and goes on with how that has ended. -/
  | await (child : Nat) (next : Exit → Activity)
  /-- It runs another program, and sends signals to that and to all that comes of it, each after the
  given time. It ends as that does if `isFaithful`, even if it has sent one. -/
  | limit (alarms : List (Nat × Nat)) (isFaithful : Bool) (arguments : List Text)
      (exports : List (Text × Text)) (failed : SystemError → Text)

namespace Activity

/-- The most bytes that are read or made up at once. -/
def chunkSize : Nat := 65536

/-- Writes a text to the standard output and goes on. -/
def say (text : Text) (next : Activity) : Activity :=
  if text.isEmpty then next else .write 1 (toBytes text) next

/-- Writes a line to the standard error and goes on. -/
def complain (line : Text) (next : Activity) : Activity :=
  .write 2 (toBytes (line ++ ['\n'])) next

/-- Goes on with what remains, once bytes are written to several descriptors. -/
def writeAll (targets : List Nat) (bytes : ByteArray) (next : Activity) : Activity :=
  if bytes.isEmpty then next
  else targets.foldr (fun target next => .write target bytes next) next

/-- More reads than any program comes to. -/
def readLimit : Nat := 1000000000000

/-- Reads at most `bound` times, as `pump` does. -/
def pumpFor {σ : Type} (targets : List Nat) (filter : Filter σ) (failed : σ → Text → Activity)
    (next : σ → Activity) : Nat → Source → σ → Activity
  | 0, _, _ => .finish 1
  | bound + 1, source, state =>
    .read source chunkSize fun
      | .bytes chunk rest =>
        let passed := filter state chunk
        writeAll targets passed.output
          (if passed.wantsMore then pumpFor targets filter failed next bound rest passed.state
            else if passed.unused = 0 then next passed.state
            else .giveBack source passed.unused (next passed.state))
      | .finished => next state
      | .refused reason => failed state reason

/-- Reads a source to its end, or until the filter wants no more, writes what the filter makes of it
to several descriptors, and goes on with what the filter remembers. If it cannot be read, it goes on
with what `failed` makes of the reason. -/
def pump {σ : Type} (source : Source) (targets : List Nat) (filter : Filter σ) (state : σ)
    (failed : σ → Text → Activity) (next : σ → Activity) : Activity :=
  pumpFor targets filter failed next readLimit source state

end Activity

/-! ## Filters -/

namespace Filter

/-- Passes everything on. -/
def copy : Filter Unit := fun _ chunk => ⟨(), chunk, true, 0⟩

/-- Keeps everything. -/
def collect : Filter ByteArray := fun before chunk => ⟨before ++ chunk, .empty, true, 0⟩

/-- Passes a number of bytes on, given how many have been passed on. -/
def firstBytes (limit : Nat) : Filter Nat := fun done chunk =>
  let taken := chunk.extract 0 (limit - done)
  ⟨done + taken.size, taken, done + taken.size < limit, chunk.size - taken.size⟩

/-- The position after the `wanted`-th line feed from position `i` on, with the number of line feeds
met; `fuel` is how many bytes there are. -/
def lineEndFrom (bytes : ByteArray) : Nat → Nat → Nat → Nat × Nat
  | 0, i, _ => (i, 0)
  | _ + 1, i, 0 => (i, 0)
  | fuel + 1, i, wanted + 1 =>
    if i < bytes.size then
      if bytes[i]? = some 10 then
        let (stop, met) := lineEndFrom bytes fuel (i + 1) wanted
        (stop, met + 1)
      else lineEndFrom bytes fuel (i + 1) (wanted + 1)
    else (i, 0)

/-- Passes a number of lines on, given how many have been passed on. -/
def firstLines (limit : Nat) : Filter Nat := fun done chunk =>
  let (stop, met) := lineEndFrom chunk (chunk.size + 1) 0 (limit - done)
  ⟨done + met, chunk.extract 0 stop, done + met < limit, chunk.size - stop⟩

/-- The position after the last line feed among the first `i` bytes. -/
def lastLineEnd (bytes : ByteArray) : Nat → Nat
  | 0 => 0
  | i + 1 => if bytes[i]? = some 10 then i + 1 else lastLineEnd bytes i

/-- The lines of bytes, the last of which need not be finished. -/
def linesOf (bytes : ByteArray) : List Text :=
  let pieces := Text.pieces '\n' (ofBytes bytes)
  if pieces.getLast? = some [] then pieces.dropLast else pieces

/-- What a filter of lines remembers: the start of a line whose end has not been read, and what the
lines before have left. -/
structure LineState (σ : Type) where
  unfinished : ByteArray
  state : σ

/-- Deals with whole lines. -/
def byLines {σ : Type} (deal : σ → List Text → σ × Text × Bool) : Filter (LineState σ) :=
  fun before chunk =>
    let bytes := before.unfinished ++ chunk
    let stop := lastLineEnd bytes bytes.size
    let (state, output, wantsMore) := deal before.state (linesOf (bytes.extract 0 stop))
    ⟨⟨bytes.extract stop bytes.size, state⟩, toBytes output, wantsMore, 0⟩

end Filter

end Runbook.Shell
