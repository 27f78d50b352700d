import Runbook.Shell.Format
import Runbook.Shell.Pattern
import Runbook.Shell.Utility.Basic

/-!
# Replacing bytes

`tr` is given one or two sets of bytes. A set is read as a list of `SetPart`s: single bytes, ranges,
classes, and bytes that are repeated, perhaps as often as it takes to make the second set as long as
the first one. `Translation` is what becomes of each byte.
-/

namespace Runbook.Shell.Utility

/-- A part of a set. -/
inductive SetPart where
  | bytes (bytes : List UInt8)
  /-- A class of bytes by its name. -/
  | named (name : Text)
  /-- A byte that is repeated; as often as it takes if no number is given. -/
  | times (byte : UInt8) (count : Option Nat)

namespace SetPart

/-- The letter that a backslash makes of one behind it. -/
def letterEscape : Char → Char
  | 'a' => '\x07'
  | 'b' => '\x08'
  | 'f' => '\x0c'
  | 'n' => '\n'
  | 'r' => '\r'
  | 't' => '\t'
  | 'v' => '\x0b'
  | c => c

/-- Characters without the backslashes before them; one that had a backslash means itself. -/
def bare : Text → List Guarded
  | [] => []
  | ['\\'] => [('\\', true)]
  | '\\' :: c :: rest =>
    if isOctal c then
      match rest with
      | d :: e :: rest =>
        if isOctal d && isOctal e && Text.numeralValueIn 8 [c, d, e] < 256 then
          (Char.ofNat (Text.numeralValueIn 8 [c, d, e]), true) :: bare rest
        else if isOctal d then (Char.ofNat (Text.numeralValueIn 8 [c, d]), true) :: bare (e :: rest)
        else (Char.ofNat (Text.numeralValueIn 8 [c]), true) :: bare (d :: e :: rest)
      | [d] =>
        if isOctal d then [(Char.ofNat (Text.numeralValueIn 8 [c, d]), true)]
        else (Char.ofNat (Text.numeralValueIn 8 [c]), true) :: bare [d]
      | [] => [(Char.ofNat (Text.numeralValueIn 8 [c]), true)]
    else (letterEscape c, true) :: bare rest
  | c :: rest => (c, false) :: bare rest

/-- The characters up to a sign and a closing bracket, and what follows these. -/
def upTo (sign : Char) : List Guarded → Option (Text × List Guarded)
  | [] => none
  | (c, guarded) :: rest =>
    match rest with
    | (']', false) :: after =>
      if c = sign && !guarded then some ([], after)
      else (upTo sign rest).map fun (text, rest) => (c :: text, rest)
    | _ => (upTo sign rest).map fun (text, rest) => (c :: text, rest)

/-- A byte that is repeated, at the start of what follows an opening bracket. -/
def repeated? : List Guarded → Option (Except Text (SetPart × List Guarded))
  | (c, _) :: ('*', false) :: rest =>
    let digits := rest.takeWhile (·.1 ≠ ']')
    match rest.drop digits.length with
    | (']', false) :: rest =>
      let text := digits.map (·.1)
      let part (n : Nat) : Except Text (SetPart × List Guarded) :=
        .ok (.times (charByte c) (if n = 0 then none else some n), rest)
      if text.isEmpty then some (part 0)
      else if text.head? = some '0' && text.all isOctal then
        some (part (Text.numeralValueIn 8 text))
      else if text.all Char.isDigit && text.head? ≠ some '0' then
        some (part (Text.numeralValue text))
      else some (.error ("invalid repeat count " ++ quoted text ++ " in [c*n] construct"))
    | _ => none
  | _ => none

/-- A character as a complaint shows it. -/
def printable (c : Char) : Text := (unprinted? c).getD [c]

/-- What characters without backslashes mean, `bound` being how many there are. -/
def read : Nat → List Guarded → Except Text (List SetPart)
  | 0, _ => return []
  | _, [] => return []
  | bound + 1, (c, guarded) :: rest => do
    let plain : Except Text (List SetPart) := match rest with
      | ('-', false) :: (d, _) :: rest =>
        if d < c then .error ("range-endpoints of '" ++ printable c ++ "-" ++ printable d ++
            "' are in reverse collating sequence order")
        else
          let range := (List.range (d.toNat + 1 - c.toNat)).map fun i => UInt8.ofNat (c.toNat + i)
          (read bound rest).map (.bytes range :: ·)
      | rest => (read bound rest).map (.bytes [charByte c] :: ·)
    let isBracket := c = '[' && !guarded
    let orRepeated (otherwise : Except Text (List SetPart)) : Except Text (List SetPart) :=
      match if isBracket then repeated? rest else none with
      | some (.ok (part, rest)) => (read bound rest).map (part :: ·)
      | some (.error text) => .error text
      | none => otherwise
    match isBracket, rest with
    | true, (':', false) :: inner => match upTo ':' inner with
      | some ([], _) => .error "missing character class name '[::]'"
      | some (name, rest) =>
        if classNames.elem name then (read bound rest).map (.named name :: ·)
        else orRepeated (.error ("invalid character class " ++ quoted name))
      | none => orRepeated plain
    | true, ('=', false) :: inner => match upTo '=' inner with
      | some ([], _) => .error "missing equivalence class character '[==]'"
      | some ([c], rest) => (read bound rest).map (.bytes [charByte c] :: ·)
      | some (name, _) =>
        orRepeated (.error (name ++ ": equivalence class operand must be a single character"))
      | none => orRepeated plain
    | _, _ => orRepeated plain

/-- The bytes of a part, if it does not depend on the length of another set. -/
def members : SetPart → List UInt8
  | .bytes all => all
  | .named name => ((List.range 128).filter fun b =>
      (classRanges name).any fun (a, z) => a.toNat ≤ b && b ≤ z.toNat).map UInt8.ofNat
  | .times byte count => List.replicate (count.getD 0) byte

/-- Whether the part is a byte that is repeated as often as it takes. -/
def isOpen : SetPart → Bool
  | .times _ none => true
  | _ => false

/-- Whether the part is the class of the small or of the capital letters. -/
def isCase : SetPart → Bool
  | .named name => name = "upper" || name = "lower"
  | _ => false

/-- The bytes of a set that is filled up to a length. -/
def filled (length : Nat) (parts : List SetPart) : List (SetPart × List UInt8) :=
  let known := parts.foldl (fun known part => known + part.members.length) 0
  parts.map fun part => match part with
    | .times byte none => (part, List.replicate (length - known) byte)
    | part => (part, part.members)

/-- The positions at which the classes of the letters begin. -/
def caseStarts (parts : List (SetPart × List UInt8)) : List Nat :=
  (parts.foldl (fun (position, found) (part, members) =>
    (position + members.length, if part.isCase then position :: found else found)) (0, [])).2

end SetPart

/-- What becomes of bytes that are replaced, dropped, and kept only once in a run. -/
structure Translation where
  /-- By byte; none drops it. -/
  bytes : Array (Option UInt8)
  once : Array Bool

/-- Replaces bytes; the filter remembers the last byte it wrote. -/
def Translation.filter (translation : Translation) : Filter (Option UInt8) := fun last chunk =>
  let (output, last) := chunk.foldl (fun (output, last) b =>
    match translation.bytes.getD b.toNat none with
    | none => (output, last)
    | some b =>
      if translation.once.getD b.toNat false && last = some b then (output, last)
      else (output.push b, some b)) (ByteArray.empty, last)
  ⟨last, output, true, 0⟩

/-- All bytes. -/
def allBytes : List UInt8 := (List.range 256).map UInt8.ofNat

/-- What the options of `tr` and its two sets make of bytes. -/
def readTranslation (given : Given) (first : Text) (second : Option Text) :
    Except Text Translation := do
  let drops := given.has 'd'
  let isComplement := given.has 'c' || given.has 'C'
  let read (text : Text) : Except Text (List SetPart) :=
    let chars := SetPart.bare text
    SetPart.read chars.length chars
  let firstParts ← read first
  if firstParts.any SetPart.isOpen then .error "the [c*] repeat construct may not appear in string1"
  let found := firstParts.flatMap SetPart.members
  let set := if isComplement then allBytes.filter (!found.elem ·) else found
  let secondParts ← match second with
    | some text => read text
    | none => pure []
  if 1 < (secondParts.filter SetPart.isOpen).length then
    .error "only one [c*] repeat construct may appear in string2"
  let translates := second.isSome && !drops
  if !translates && secondParts.any SetPart.isOpen then
    .error "the [c*] construct may appear in string2 only when translating"
  let filled := SetPart.filled set.length secondParts
  let into := filled.flatMap (·.2)
  let isOdd : SetPart → Bool
    | .named name => name ≠ "upper" && name ≠ "lower"
    | _ => false
  if translates then
    if secondParts.any isOdd then
      .error ("when translating, the only character classes that may appear in\n" ++
        "string2 are 'upper' and 'lower'")
    let starts := SetPart.caseStarts (firstParts.map fun part => (part, part.members))
    if (SetPart.caseStarts filled).any (!starts.elem ·) then
      .error "misaligned [:upper:] and/or [:lower:] construct"
    if into.isEmpty && !set.isEmpty && !given.has 't' then
      .error "when not truncating set1, string2 must be non-empty"
  let pairs := if given.has 't' then set.zip into
    else set.zipIdx.map fun (b, i) => (b, (into[i]?).getD (into.getLastD 0))
  let replaced := pairs.reverse
  let replace (b : UInt8) : Option UInt8 :=
    if drops then if set.elem b then none else some b
    else if translates then some ((replaced.lookup b).getD b)
    else some b
  let joined := if second.isSome then into else set
  let once (b : UInt8) : Bool := given.has 's' && joined.elem b
  return ⟨(allBytes.map replace).toArray, (allBytes.map once).toArray⟩

/-- The options of `tr`. -/
def translationSwitches : Switches where
  plain := "cCdst"
  long := [("complement", 'c'), ("delete", 'd'), ("squeeze-repeats", 's'), ("truncate-set1", 't')]
  areLeading := true

/-- `tr` replaces, drops and joins bytes. -/
def tr : Utility := withSwitches translationSwitches 1 fun job given =>
  let drops := given.has 'd'
  let joins := given.has 's'
  let help : Text := "Try '" ++ job.name ++ " --help' for more information."
  let wrong (text reason : Text) : Activity :=
    job.complain text (.complain reason (.complain help (.finish 1)))
  let run (first : Text) (second : Option Text) : Activity :=
    match readTranslation given first second with
    | .error text => job.complain text (.finish 1)
    | .ok translation =>
      let isLoose := [first, second.getD []].any fun text =>
        (text.reverse.takeWhile (· == '\\')).length % 2 = 1
      let work : Activity := .pump (.descriptor 0) [1] translation.filter none
        (fun _ reason => job.complain ("read error: " ++ reason) (.finish 1)) fun _ => .finish 0
      if isLoose then
        job.complain "warning: an unescaped backslash at end of string is not portable" work
      else work
  match given.operands with
  | [] => job.misused 1 "missing operand"
  | [first] =>
    let missing : Text := "missing operand after " ++ quoted first
    if drops && joins then
      wrong missing "Two strings must be given when both deleting and squeezing repeats."
    else if drops || joins then run first none
    else wrong missing "Two strings must be given when translating."
  | [first, second] =>
    if drops && !joins then
      wrong ("extra operand " ++ quoted second)
        "Only one string may be given when deleting without squeezing repeats."
    else run first (some second)
  | _ :: second :: extra :: _ =>
    job.misused 1 ("extra operand " ++ quoted (if drops && !joins then second else extra))

end Runbook.Shell.Utility
