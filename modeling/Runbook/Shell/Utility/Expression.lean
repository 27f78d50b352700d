import Runbook.Shell.Regex.Notation
import Runbook.Shell.Utility.Basic

/-!
# Expressions given word by word

`expr` works out an expression each part of which is an argument of its own, and shows the value. A
value is a text; where a number is wanted it has to look like one, and numbers may be of any size.

The value is worked out while the arguments are read, so that of two faults the one met first is
reported. Where an operand cannot matter it is read but not worked out.
-/

namespace Runbook.Shell.Utility

namespace Expression

/-- How far arguments have been read. -/
structure Progress where
  /-- The argument before those that are left. -/
  last : Text
  rest : List Text

/-- Reading a part of an expression. -/
abbrev Reading := StateT Progress (Except Text)

/-- Stops because of a fault. -/
def stop {α : Type} (text : Text) : Reading α := throw text

/-- Stops because the arguments are no expression. -/
def wrong {α : Type} (text : Text) : Reading α := stop ("syntax error: " ++ text)

/-- Goes on to the next argument if it is one of the given ones. -/
def accept (wanted : List Text) : Reading (Option Text) := do
  match (← get).rest with
  | text :: rest =>
    if wanted.elem text then
      set (⟨text, rest⟩ : Progress)
      return some text
    else return none
  | [] => return none

/-- Takes the next argument, which there has to be. -/
def take : Reading Text := do
  match (← get).rest with
  | text :: rest =>
    set (⟨text, rest⟩ : Progress)
    return text
  | [] => wrong ("missing argument after " ++ quoted (← get).last)

/-- The number that a text looks like. -/
def integer? (text : Text) : Option Int := match text with
  | '-' :: digits => (natural? digits).map fun n => -(n : Int)
  | digits => (natural? digits).map fun n => (n : Int)

/-- Whether a value counts as nothing: it is empty, or zero in whatever way that is written. -/
def isNothing (text : Text) : Bool :=
  let digits := if text.head? = some '-' then text.drop 1 else text
  text.isEmpty || (!digits.isEmpty && digits.all (· == '0'))

/-- The operators, those that bind least first. -/
def levels : List (List String) := [
  ["|"], ["&"], ["<", "<=", "=", "==", "!=", ">=", ">"], ["+", "-"], ["*", "/", "%"], [":"]]

/-- What a comparison of two values says. -/
def compare (operator left right : Text) : Bool :=
  let order : Ordering := match integer? left, integer? right with
    | some a, some b => Ord.compare a b
    | _, _ => if left = right then .eq else if textBefore left right then .lt else .gt
  if operator = "<" then order = .lt
  else if operator = "<=" then order ≠ .gt
  else if operator = ">" then order = .gt
  else if operator = ">=" then order ≠ .lt
  else if operator = "!=" then order ≠ .eq
  else order = .eq

/-- The start of a text that an expression matches: its first group, or its length if there are no
groups. -/
def matched (text pattern : Text) : Reading Text :=
  match Regex.readCounted ⟨false, false, false, true⟩ pattern with
  | .error fault => stop fault.message
  | .ok (regex, 0) => return Text.ofNat (((regex.matchStart? text).map (·.text.length)).getD 0)
  | .ok (regex, _) => return ((regex.matchStart? text).bind (·.groups.lookup 1)).getD []

/-- The value of a calculation with two numbers. -/
def calculated (operator left right : Text) : Reading Text :=
  match integer? left, integer? right with
  | some a, some b =>
    if operator = "+" then return Text.ofInt (a + b)
    else if operator = "-" then return Text.ofInt (a - b)
    else if operator = "*" then return Text.ofInt (a * b)
    else if b = 0 then stop "division by zero"
    else return Text.ofInt (if operator = "/" then a.tdiv b else a.tmod b)
  | _, _ => stop "non-integer argument"

/-- The value of an operator and its operands. -/
def combined (operator left right : Text) : Reading Text :=
  if operator = "|" then
    return if !isNothing left then left else if isNothing right then ['0'] else right
  else if operator = "&" then return if isNothing left || isNothing right then ['0'] else left
  else if operator = ":" then matched left right
  else if (["+", "-", "*", "/", "%"] : List Text).elem operator then calculated operator left right
  else return if compare operator left right then ['1'] else ['0']

/-- The characters of a text from a position on, at most as many as given. -/
def part (text position count : Text) : Text :=
  match integer? position, integer? count with
  | some position, some count =>
    if position ≤ 0 || count ≤ 0 then [] else (text.drop (position.toNat - 1)).take count.toNat
  | _, _ => []

/-- The position of the first character of a text that is one of the given ones, from one on. -/
def positionOf (text chars : Text) : Nat := ((text.findIdx? chars.elem).map (· + 1)).getD 0

/-! ## Recursive descent

Every reader takes a bound on its depth, and whether the value matters. -/

mutual

/-- Reads operands joined by the operators of the given levels. -/
def readLevels : Nat → Bool → List (List String) → Reading Text
  | 0, _, _ => stop "expression too complex"
  | n + 1, matters, [] => readOperand n matters
  | n + 1, matters, level :: tighter => do
    let left ← readLevels n matters tighter
    readAfter n matters level tighter left

/-- Reads the operators of a level after a left operand. -/
def readAfter : Nat → Bool → List String → List (List String) → Text → Reading Text
  | 0, _, _, _, _ => stop "expression too complex"
  | n + 1, matters, level, tighter, left => do
    match ← accept (level.map String.toList) with
    | none => return left
    | some operator =>
      let isPassed := (operator = "|" && !isNothing left) || (operator = "&" && isNothing left)
      let right ← readLevels n (matters && !isPassed) tighter
      let value ← if matters then combined operator left right else pure left
      readAfter n matters level tighter value

/-- Reads an operand, or a word that does something with the operands behind it. -/
def readOperand : Nat → Bool → Reading Text
  | 0, _ => stop "expression too complex"
  | n + 1, matters => do
    match ← accept ["+", "length", "match", "index", "substr", "(", ")"] with
    | none => take
    | some word =>
      if word = "+" then take
      else if word = "length" then return Text.ofNat (← readOperand n matters).length
      else if word = "match" then
        let text ← readOperand n matters
        let pattern ← readOperand n matters
        if matters then matched text pattern else return []
      else if word = "index" then
        let text ← readOperand n matters
        return Text.ofNat (positionOf text (← readOperand n matters))
      else if word = "substr" then
        let text ← readOperand n matters
        let position ← readOperand n matters
        return part text position (← readOperand n matters)
      else if word = ")" then wrong "unexpected ')'"
      else
        let value ← readLevels n matters levels
        match ← get with
        | ⟨last, []⟩ => wrong ("expecting ')' after " ++ quoted last)
        | ⟨_, text :: rest⟩ =>
          if text ≠ ")" then wrong ("expecting ')' instead of " ++ quoted text)
          set (⟨text, rest⟩ : Progress)
          return value

end

/-- Reads a whole expression. -/
def readWhole (bound : Nat) : Reading Text := do
  let value ← readLevels bound true levels
  match (← get).rest with
  | [] => return value
  | text :: _ => wrong ("unexpected argument " ++ quoted text)

end Expression

open Expression in
/-- `expr` shows the value of an expression. It fails if that counts as nothing. -/
def expr : Utility := fun job =>
  let arguments := if job.arguments.head? = some "--" then job.arguments.drop 1 else job.arguments
  if arguments.isEmpty then job.misused 2 "missing operand"
  else match (readWhole (10 * arguments.length + 20)).run ⟨job.name, arguments⟩ with
    | .error text => job.complain text (.finish 2)
    | .ok (value, _) => .say (value ++ ['\n']) (.finish (if isNothing value then 1 else 0))

end Runbook.Shell.Utility
