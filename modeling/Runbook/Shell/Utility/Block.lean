import Runbook.Shell.Utility.Basic

/-!
# Copying blocks

`dd` copies a number of blocks from one place to another, and says how many there were: a block that
was not read in full counts apart. What it copies to a place in the middle of a file is kept until
everything has been read.
-/

namespace Runbook.Shell.Utility

namespace Blocks

/-- What `dd` is asked to do. -/
structure Request where
  input : Option Text
  output : Option Text
  /-- The sizes of the blocks that are read and of those that are written. -/
  inputSize : Nat
  outputSize : Nat
  /-- Whether each block that is read is written as one. -/
  isEven : Bool
  /-- Whether a block is read to its end even if its bytes come one after another. -/
  isWhole : Bool
  count : Option Nat
  /-- The blocks that are passed over before reading and before writing. -/
  skipped : Nat
  sought : Nat
  conversions : List Text
  status : Text

/-- What is asked for by no arguments. -/
def Request.start : Request := ⟨none, none, 512, 512, false, false, none, 0, 0, [], []⟩

/-- What may be done with blocks. -/
def knownConversions : List Text :=
  ["ucase", "lcase", "swab", "sync", "notrunc", "noerror", "nocreat", "excl", "fsync", "fdatasync"]

/-- How files may be opened, read and written. -/
def knownFlags : List Text :=
  ["append", "direct", "directory", "dsync", "sync", "nonblock", "noatime", "nocache", "noctty",
    "nofollow", "fullblock", "count_bytes", "skip_bytes", "seek_bytes"]

/-- A number of bytes that an argument means, with its name. -/
def blockNumber (text : Text) (least : Nat) : Except (Bool × Text) Nat :=
  match amount? text with
  | some n => if n < least then .error (false, "invalid number: " ++ named text) else .ok n
  | none => .error (false, "invalid number: " ++ named text)

/-- What is asked for with one more argument; a fault comes with whether help is offered. -/
def Request.after (request : Request) (argument : Text) : Except (Bool × Text) Request := do
  let name := argument.takeWhile (· ≠ '=')
  let value := argument.drop (name.length + 1)
  let unknown : Except (Bool × Text) Request :=
    .error (true, "unrecognized operand " ++ named argument)
  if name.length = argument.length then unknown
  else if name = "if" then return { request with input := some value }
  else if name = "of" then return { request with output := some value }
  else if name = "bs" then
    let size ← blockNumber value 1
    return { request with inputSize := size, outputSize := size, isEven := true }
  else if name = "ibs" then return { request with inputSize := ← blockNumber value 1 }
  else if name = "obs" then return { request with outputSize := ← blockNumber value 1 }
  else if name = "count" then return { request with count := some (← blockNumber value 0) }
  else if name = "skip" || name = "iseek" then
    return { request with skipped := ← blockNumber value 0 }
  else if name = "seek" || name = "oseek" then
    return { request with sought := ← blockNumber value 0 }
  else if name = "conv" then
    let wanted := Text.pieces ',' value
    match wanted.find? (!knownConversions.elem ·) with
    | some text => .error (true, "invalid conversion: " ++ quoted text)
    | none => return { request with conversions := request.conversions ++ wanted }
  else if name = "status" then
    if (["none", "noxfer", "progress"] : List Text).elem value then
      return { request with status := value }
    else .error (true, "invalid status level: " ++ quoted value)
  else if name = "iflag" || name = "oflag" then
    let wanted := Text.pieces ',' value
    let direction : Text := if name = "iflag" then "input" else "output"
    match wanted.find? (!knownFlags.elem ·) with
    | some text => .error (true, "invalid " ++ direction ++ " flag: " ++ quoted text)
    | none =>
      let isWhole := request.isWhole || (name = "iflag" && wanted.elem ("fullblock" : Text))
      return { request with isWhole }
  else if name = "cbs" then return request
  else unknown

/-- Neighbouring elements in the place of one another. -/
def swapped {α : Type} : List α → List α
  | a :: b :: rest => b :: a :: swapped rest
  | rest => rest

/-- Whether something is to be done with blocks. -/
def Request.wants (request : Request) (conversion : Text) : Bool :=
  request.conversions.elem conversion

/-- What becomes of a block. -/
def Request.converted (request : Request) (block : ByteArray) : ByteArray :=
  let padded := if request.wants "sync" then
      block ++ ⟨Array.replicate (request.inputSize - block.size) 0⟩ else block
  if request.wants "ucase" then toBytes ((ofBytes padded).map Char.toUpper)
  else if request.wants "lcase" then toBytes ((ofBytes padded).map Char.toLower)
  else if request.wants "swab" then ⟨(swapped padded.toList).toArray⟩
  else padded

/-- How far the copying has come. -/
structure Progress where
  /-- The blocks that were read in full, and the others. -/
  full : Nat
  short : Nat
  /-- The sizes of what was written. -/
  written : Nat
  fullOut : Nat
  /-- What is written at the end. -/
  kept : ByteArray

/-- What is said at the end. -/
def Request.report (request : Request) (progress : Progress) : List Text :=
  let records (full short : Nat) (direction : Text) : Text :=
    Text.ofNat full ++ '+' :: Text.ofNat short ++ " records " ++ direction
  let out := if request.isEven then
      records progress.fullOut (progress.full + progress.short - progress.fullOut) "out"
    else records (progress.written / request.outputSize)
      (if progress.written % request.outputSize = 0 then 0 else 1) "out"
  if request.status = "none" then []
  else [records progress.full progress.short "in", out] ++
    if request.status = "noxfer" then [] else
      [Text.ofNat progress.written ++ (if progress.written = 1 then " byte" else " bytes") ++
        " copied, 0 s, Infinity B/s"]

/-- Ends with what is said at the end. -/
def Request.close (request : Request) (status : Nat) (progress : Progress) : Activity :=
  (request.report progress).foldr Activity.complain (.finish status)

/-- Reads a block of the given size in at most `bound` pieces, after what is already there of it. -/
def gather (next : Received → Activity) : Nat → Nat → ByteArray → Source → Activity
  | 0, _, held, source => next (.bytes held source)
  | bound + 1, left, held, source =>
    .read source left fun
      | .bytes chunk rest =>
        if chunk.size < left then gather next bound (left - chunk.size) (held ++ chunk) rest
        else next (.bytes (held ++ chunk) rest)
      | ending => next (if held.isEmpty then ending else .bytes held source)

/-- Reads blocks and deals with each of them, at most `bound` of them. A block is put together from
what is read at once. -/
def copyFor (job : Job) (request : Request) (target : Option Nat)
    (finish : Nat → Progress → Activity) : Nat → Source → Progress → Activity
  | 0, _, progress => finish 0 progress
  | bound + 1, source, progress =>
    let piece (next : Received → Activity) : Activity := gather next
      (if request.isWhole then request.inputSize else 1) request.inputSize .empty source
    piece fun
      | .finished => finish 0 progress
      | .refused reason =>
        let name := request.input.getD "standard input"
        job.complain ("error reading " ++ named name ++ ": " ++ reason)
          (if reason = badDescriptor then
            job.complain ("closing input file " ++ named name ++ ": " ++ reason) (.finish 1)
          else finish 1 progress)
      | .bytes chunk rest =>
        let block := request.converted chunk
        let isFull := chunk.size = request.inputSize
        let progress : Progress := {
          full := progress.full + if isFull then 1 else 0
          short := progress.short + if isFull then 0 else 1
          written := progress.written + block.size
          fullOut := progress.fullOut + if block.size = request.outputSize then 1 else 0
          kept := if target.isSome then progress.kept else progress.kept ++ block }
        let next := copyFor job request target finish bound rest progress
        match target with
        | some descriptor => .write descriptor block next
        | none => next

/-- Passes over bytes, which are read in at most `bound` pieces. -/
def skipFor (next : Bool → Source → Activity) : Nat → Nat → Source → Activity
  | 0, _, source => next true source
  | _, 0, source => next true source
  | bound + 1, left, source =>
    .read source (min left Activity.chunkSize) fun
      | .bytes chunk rest => skipFor next bound (left - chunk.size) rest
      | _ => next false source

/-- Writes what was kept to its place in a file. -/
def Request.place (request : Request) (job : Job) (name : Text) (status : Nat)
    (progress : Progress) : Activity :=
  .change fun files =>
    match files.find job.dir name with
    | .error _ => (files, request.close 1 progress)
    | .ok (path, node) =>
      let position := request.sought * request.outputSize
      let before := if request.wants "notrunc" then node.content
        else node.content.extract 0 position
      let files := match files.number? path with
        | some number => files.write number (overwritten before position progress.kept)
        | none => files
      (files, request.close status progress)

/-- Copies what is asked for. -/
def Request.run (request : Request) (job : Job) : Activity :=
  let failure (name : Text) (error : SystemError) : Activity :=
    job.complain ("failed to open " ++ named name ++ ": " ++ error.reason) (.finish 1)
  let copy (source : Source) (target : Option Nat) (finish : Nat → Progress → Activity) :
      Activity :=
    skipFor (fun isDone source =>
        let copy := copyFor job request target finish (request.count.getD Activity.readLimit) source
          ⟨0, 0, 0, 0, .empty⟩
        if isDone then copy
        else job.complain (named (request.input.getD "standard input") ++
          ": cannot skip to specified offset") copy)
      Activity.readLimit (request.skipped * request.inputSize) source
  match (request.input.map job.source).getD (.ok (.descriptor 0)) with
  | .error error => failure (request.input.getD []) error
  | .ok source =>
    match request.output with
    | none => copy source (some 1) request.close
    | some name =>
      let isPlaced := request.sought > 0 || request.wants "notrunc"
      .create name isPlaced fun
        | .error error => failure name error
        | .ok descriptor =>
          if isPlaced then copy source none (request.place job name)
          else copy source (some descriptor) request.close

end Blocks

open Blocks in
/-- `dd` copies blocks. -/
def dd : Utility := withSwitches { plain := [] } 1 fun job given =>
  match given.operands.foldlM Request.after Request.start with
  | .error (true, text) => job.misused 1 text
  | .error (false, text) => job.complain text (.finish 1)
  | .ok request => request.run job

end Runbook.Shell.Utility
