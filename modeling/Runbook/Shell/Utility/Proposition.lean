import Runbook.Shell.Condition
import Runbook.Shell.Utility.Basic

/-!
# Conditions as programs decide them

`test` and `[` as programs read the same conditions as the commands of the shell do, but go by the
number of arguments first: up to four of them have a meaning of their own, and only more are read as
conditions that are joined. A `Reader` takes arguments from the front of those that are left.
-/

namespace Runbook.Shell.Utility.Proposition

/-- What a condition is about: the place where files are looked up, and the last argument. -/
structure Setting where
  place : Condition.Place
  last : Text

/-- Reads arguments, or complains about them. -/
abbrev Reader := StateT (List Text) (Except Text)

/-- Complains that something is missing behind the last argument. -/
def missing {α : Type} (setting : Setting) : Reader α :=
  throw ("missing argument after " ++ quoted setting.last)

/-- Whether a text is an operator between two arguments. -/
def isBinary (text : Text) : Bool :=
  text = "==" || (text ≠ "<" && text ≠ ">" && Condition.isBinary text)

/-- Whether a text looks like an operator before one argument. -/
def looksUnary (text : Text) : Bool := text.length = 2 && text.head? = some '-'

/-- The whole number that a text denotes. -/
def integer (text : Text) : Reader Int :=
  let trimmed := trim text
  let (negative, digits) := match trimmed with
    | '-' :: rest => (true, rest)
    | '+' :: rest => (false, rest)
    | rest => (false, rest)
  let size : Int := Text.numeralValue digits
  if digits.isEmpty || !digits.all Char.isDigit then throw ("invalid integer " ++ quoted text)
  else return if negative then -size else size

/-- The operators that compare numbers. -/
def comparisons : List (Text × (Int → Int → Bool)) := [
  ("-eq", (· == ·)), ("-ne", (· != ·)), ("-lt", (decide <| · < ·)), ("-le", (decide <| · ≤ ·)),
  ("-gt", (decide <| · > ·)), ("-ge", (decide <| · ≥ ·))]

/-- What an operator says about two arguments. -/
def compare (setting : Setting) (first operator second : Text) : Reader Bool := do
  match comparisons.lookup operator with
  | some holds => return holds (← integer first) (← integer second)
  | none =>
    let operator := if operator = "==" then ['='] else operator
    match Condition.binary setting.place first operator second with
    | .ok holds => return holds
    | .error text => throw text

/-- Takes an operator and its argument. -/
def takeUnary (setting : Setting) : Reader Bool := do
  match ← get with
  | operator :: argument :: rest =>
    set rest
    let letter := operator.getLastD 'n'
    if letter = 't' then
      let _ ← integer argument
    if !isKnown operator then throw (quoted operator ++ ": unary operator expected")
    match if letter = 't' then .ok false else Condition.unary setting.place operator argument with
    | .ok holds => return holds
    | .error text => throw text
  | [operator] =>
    if isKnown operator then missing setting
    else throw (quoted operator ++ ": unary operator expected")
  | [] => missing setting
where
  /-- Whether a text is an operator before one argument. -/
  isKnown (text : Text) : Bool := text = "-N" || Condition.isUnary text

/-- Takes two arguments and the operator between them. The length of a text may stand for it. -/
def takeBinary (setting : Setting) : Reader Bool := do
  match ← get with
  | ['-', 'l'] :: text :: operator :: second :: rest =>
    set rest
    compare setting (Text.ofNat text.length) operator second
  | first :: operator :: second :: rest =>
    set rest
    compare setting first operator second
  | _ => missing setting

/-- Takes one argument, which holds unless it is empty. -/
def takeOne (setting : Setting) : Reader Bool := do
  match ← get with
  | word :: rest =>
    set rest
    return !word.isEmpty
  | [] => missing setting

/-- Drops one argument. -/
def dropOne : Reader Unit := modify (·.drop 1)

/-- Takes two arguments. -/
def takeTwo (setting : Setting) : Reader Bool := do
  match ← get with
  | word :: _ =>
    if word = "!" then
      dropOne
      return !(← takeOne setting)
    else if looksUnary word then takeUnary setting
    else missing setting
  | [] => missing setting

/-- The number of arguments between the brackets at the start of some, which counts up to four: with
more of them all that is left belongs to the condition. -/
def lengthInBrackets (words : List Text) : Nat :=
  let inner := (words.drop 1).takeWhile (· ≠ [')'])
  let length := inner.length + 1
  if length ≤ 4 then length else words.length

mutual

/-- Takes conditions of which one has to hold. -/
def takeAny (setting : Setting) : Nat → Reader Bool
  | 0 => missing setting
  | n + 1 => do
    let first ← takeAll setting n
    if (← get).head? = some "-o" then
      dropOne
      return first || (← takeAny setting n)
    else return first

/-- Takes conditions all of which have to hold. -/
def takeAll (setting : Setting) : Nat → Reader Bool
  | 0 => missing setting
  | n + 1 => do
    let first ← takeTerm setting n
    if (← get).head? = some "-a" then
      dropOne
      return first && (← takeAll setting n)
    else return first

/-- Takes a condition that no others are joined to outside brackets. -/
def takeTerm (setting : Setting) : Nat → Reader Bool
  | 0 => missing setting
  | n + 1 => do
    let words ← get
    match words with
    | [] => missing setting
    | word :: rest =>
      if word = "!" then
        dropOne
        return !(← takeTerm setting n)
      else if word = "(" then
        if rest.isEmpty then missing setting
        dropOne
        let holds ← takeSome setting (lengthInBrackets rest) n
        match ← get with
        | [] => throw (quoted [')'] ++ " expected")
        | closing :: _ =>
          if closing = ")" then
            dropOne
            return holds
          else throw (quoted [')'] ++ " expected, found " ++ quoted closing)
      else if word = "-l" && 4 ≤ words.length && isBinary ((rest[1]?).getD []) ||
          3 ≤ words.length && isBinary (rest.headD []) then takeBinary setting
      else if looksUnary word then takeUnary setting
      else takeOne setting

/-- Takes a condition of so many arguments. -/
def takeSome (setting : Setting) : Nat → Nat → Reader Bool
  | _, 0 => missing setting
  | 1, _ => takeOne setting
  | 2, _ => takeTwo setting
  | 3, n + 1 => do
    match ← get with
    | first :: second :: third :: _ =>
      if isBinary second then takeBinary setting
      else if first = "!" then
        dropOne
        return !(← takeTwo setting)
      else if first = "(" && third = ")" then
        dropOne
        let holds ← takeOne setting
        dropOne
        return holds
      else if second = "-a" || second = "-o" then takeAny setting n
      else throw (quoted second ++ ": binary operator expected")
    | _ => missing setting
  | 4, n + 1 => do
    match ← get with
    | first :: _ :: _ :: fourth :: _ =>
      if first = "!" then
        dropOne
        return !(← takeSome setting 3 n)
      else if first = "(" && fourth = ")" then
        dropOne
        let holds ← takeTwo setting
        dropOne
        return holds
      else takeAny setting n
    | _ => missing setting
  | _, n + 1 => takeAny setting n

end

/-- Whether the condition holds that arguments state; all of them have to belong to it. -/
def holds (place : Condition.Place) (words : List Text) : Except Text Bool := do
  if words.isEmpty then return false
  let setting : Setting := ⟨place, words.getLastD []⟩
  match ← (takeSome setting words.length (4 * words.length + 4)).run words with
  | (holds, []) => return holds
  | (_, extra :: _) => throw ("extra argument " ++ quoted extra)

/-- Whether the condition between brackets holds, the closing one being an argument too. -/
def holdsBracketed (place : Condition.Place) (arguments : List Text) : Except Text Bool :=
  if arguments.getLast? = some [']'] then holds place arguments.dropLast
  else throw ("missing " ++ quoted [']'])

end Runbook.Shell.Utility.Proposition

namespace Runbook.Shell.Utility

/-- What a condition says, as a status. -/
def verdict (job : Job) : Except Text Bool → Activity
  | .ok true => .finish 0
  | .ok false => .finish 1
  | .error text => job.complain text (.finish 2)

/-- `test` decides a condition. -/
def test : Utility := fun job =>
  verdict job (Proposition.holds ⟨job.visible, job.dir⟩ job.arguments)

/-- `[` decides a condition, up to a closing bracket. -/
def bracket : Utility := fun job =>
  verdict job (Proposition.holdsBracketed ⟨job.visible, job.dir⟩ job.arguments)

end Runbook.Shell.Utility
