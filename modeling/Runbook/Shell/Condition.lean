import Runbook.Shell.Bytes
import Runbook.Files
import Runbook.Text.Numeral

/-!
# Conditions

`Condition.holds` is the command `test`: it says whether the condition holds that its arguments
state about texts, whole numbers and files. What an argument is depends on those after it, so that
texts which look like operators can still be compared: an operator before one argument is taken for
a text if nothing follows it, or if a comparison does. Conditions are joined by `-a` and `-o`, the
former of which binds closer.
-/

namespace Runbook.Shell.Condition

/-- Where files are looked up. -/
structure Place where
  files : Files
  dir : Path

/-- Reading a condition may end in a complaint. -/
abbrev Verdict := Except Text

/-- Stops with a complaint. -/
def complain {α : Type} (text : Text) : Verdict α := throw text

/-- The whole number that an argument denotes. -/
def integer (text : Text) : Verdict Int :=
  let trimmed := trim text
  let (negative, digits) := match trimmed with
    | '-' :: rest => (true, rest)
    | '+' :: rest => (false, rest)
    | rest => (false, rest)
  let size := Text.numeralValue digits
  let limit := if negative then 9223372036854775808 else 9223372036854775807
  if digits.isEmpty || !digits.all Char.isDigit || limit < size then
    complain ("Illegal number: " ++ text)
  else return if negative then -(size : Int) else size

/-- The operators before one argument. -/
def unaryOperators : Text := "bcdefghknprstuwxzLSGO"

/-- Whether a text is an operator before one argument. -/
def isUnary (text : Text) : Bool := match text with
  | ['-', c] => unaryOperators.elem c
  | _ => false

/-- The operators between two arguments. -/
def binaryOperators : List Text := [
  "=", "!=", "<", ">", "-eq", "-ne", "-lt", "-le", "-gt", "-ge", "-nt", "-ot", "-ef"]

/-- Whether a text is an operator between two arguments. -/
def isBinary (text : Text) : Bool := binaryOperators.elem text

/-- What an operator says about one argument. -/
def unary (place : Place) (operator argument : Text) : Verdict Bool :=
  let node := (place.files.find place.dir argument).toOption.map (·.2)
  let holds (test : FileNode → Bool) : Verdict Bool := return (node.map test).getD false
  let hasBit (bit : Nat) : Verdict Bool := holds fun node => node.permissions / bit % 2 = 1
  match operator.getLast? with
  | some 'z' => return argument.isEmpty
  | some 'n' => return !argument.isEmpty
  | some 't' => do
    let _ ← integer argument
    return false
  | some 'L' | some 'h' =>
    let found := (place.files.findLink false place.dir argument).toOption
    return (found.map (·.2.isLink)).getD false
  | some 'f' => holds FileNode.isFile
  | some 'd' => holds FileNode.isDirectory
  | some 'c' => holds fun node => match node.kind with
    | .device _ => true
    | _ => false
  | some 'p' => holds fun node => match node.kind with
    | .pipe => true
    | _ => false
  | some 's' => holds fun node => node.isDirectory || node.content.size != 0
  | some 'x' => holds fun node => node.isDirectory || node.isExecutable
  | some 'u' => hasBit 2048
  | some 'g' => hasBit 1024
  | some 'k' => hasBit 512
  | some c => return ("erwOG" : Text).elem c && node.isSome
  | none => return false

/-- What an operator says about two arguments. -/
def binary (place : Place) (first operator second : Text) : Verdict Bool := do
  let path? (name : Text) : Option Path := (place.files.find place.dir name).toOption.map (·.1)
  let number? (name : Text) : Option Nat := (path? name).bind place.files.number?
  let time? (name : Text) : Option Nat :=
    ((path? name).bind place.files.get?).map FileNode.modified
  let times (compare : Nat → Nat → Bool) : Verdict Bool :=
    return match time? first, time? second with
      | some a, some b => compare a b
      | _, _ => false
  let numbers (compare : Int → Int → Bool) : Verdict Bool := do
    return compare (← integer first) (← integer second)
  if operator = "=" then return first == second
  else if operator = "!=" then return first != second
  else if operator = "<" then return decide (first < second)
  else if operator = ">" then return decide (second < first)
  else if operator = "-eq" then numbers (· == ·)
  else if operator = "-ne" then numbers (· != ·)
  else if operator = "-lt" then numbers (decide <| · < ·)
  else if operator = "-le" then numbers (decide <| · ≤ ·)
  else if operator = "-gt" then numbers (decide <| · > ·)
  else if operator = "-ge" then numbers (decide <| · ≥ ·)
  else if operator = "-nt" then times (decide <| · > ·)
  else if operator = "-ot" then times (decide <| · < ·)
  else return (number? first).isSome && number? first == number? second

/-! ## Reading conditions

The readers below are given the arguments from the one on that they look at, and what that one is.
They give back the arguments from the last one on that belongs to what they have read.
-/

/-- What an argument is. -/
inductive Token where
  | finished
  | or
  | and
  | not
  | opening
  | closing
  | unary
  | operand

/-- Whether an operator before one argument is taken for a text, given the arguments behind it. -/
def isText : List Text → Bool
  | [] => true
  | [_] => false
  | next :: _ => isBinary next

/-- What the first argument is. -/
def token : List Text → Token
  | [] => .finished
  | word :: rest =>
    if word = "-o" then .or
    else if word = "-a" then .and
    else if word = "!" then .not
    else if word = "(" then (if rest.isEmpty then .operand else .opening)
    else if word = ")" then .closing
    else if isUnary word && !isText rest then .unary
    else .operand

mutual

/-- Reads conditions of which one has to hold. -/
def oneOf (place : Place) : Nat → Token → List Text → Verdict (Bool × List Text)
  | 0, _, _ => complain "argument expected"
  | n + 1, first, words => do
    let (value, words) ← allOf place n first words
    match token words.tail with
    | .or =>
      let words := words.drop 2
      let (other, words) ← oneOf place n (token words) words
      return (value || other, words)
    | _ => return (value, words)

/-- Reads conditions all of which have to hold. -/
def allOf (place : Place) : Nat → Token → List Text → Verdict (Bool × List Text)
  | 0, _, _ => complain "argument expected"
  | n + 1, first, words => do
    let (value, words) ← negated place n first words
    match token words.tail with
    | .and =>
      let words := words.drop 2
      let (other, words) ← allOf place n (token words) words
      return (value && other, words)
    | _ => return (value, words)

/-- Reads a condition that may have exclamation marks before it. -/
def negated (place : Place) : Nat → Token → List Text → Verdict (Bool × List Text)
  | 0, _, _ => complain "argument expected"
  | n + 1, .not, words => do
    let (value, words) ← match token words.tail with
      | .finished => negated place n .finished words
      | next => negated place n next words.tail
    return (!value, words)
  | n + 1, first, words => single place n first words

/-- Reads one condition. -/
def single (place : Place) : Nat → Token → List Text → Verdict (Bool × List Text)
  | 0, _, _ => complain "argument expected"
  | n + 1, first, words =>
    match first, words with
    | .finished, words => return (false, words)
    | .opening, words =>
      match token words.tail with
      | .closing => return (false, words.tail)
      | next => do
        let (value, words) ← oneOf place n next words.tail
        match token words.tail with
        | .closing => return (value, words.tail)
        | _ => complain "closing paren expected"
    | .unary, operator :: argument :: rest =>
      return (← unary place operator argument, argument :: rest)
    | .unary, operator :: [] => complain (operator ++ ": argument expected")
    | _, operand :: operator :: rest =>
      if isBinary operator then
        match rest with
        | [] => complain (operator ++ ": argument expected")
        | other :: _ => return (← binary place operand operator other, rest)
      else return (!operand.isEmpty, words)
    | _, words => return (words.any (!·.isEmpty), words)

end

/-- Whether a condition holds that is read from a first argument on; all have to belong to it. -/
def holdsFrom (place : Place) (first : Token) (words : List Text) : Verdict Bool := do
  match ← oneOf place (4 * words.length + 4) first words with
  | (_, last :: _ :: _) => complain (last ++ ": unexpected operator")
  | (value, _) => return value

/-- Whether a condition holds. Of three arguments a comparison in the middle is always one; of three
or four a leading exclamation mark turns what the others say round, and a pair of brackets around
the others is left out. -/
def holds (place : Place) : List Text → Verdict Bool
  | [] => return false
  | first :: rest =>
    let words := first :: rest
    if words.length = 3 && (rest.head?.map isBinary).getD false then
      holdsFrom place .operand words
    else if words.length = 3 || words.length = 4 then
      if first = "(" && rest.getLast? = some [')'] then
        holdsFrom place (token rest.dropLast) rest.dropLast
      else if first = "!" then return !(← holds place rest)
      else holdsFrom place (token words) words
    else holdsFrom place (token words) words

/-- Whether the condition between brackets holds, the closing one being an argument too. -/
def holdsBracketed (place : Place) (arguments : List Text) : Verdict Bool :=
  if (arguments.getLast?.bind List.head?) = some ']' then holds place arguments.dropLast
  else complain "missing ]"

end Runbook.Shell.Condition
