import Runbook.Shell.Bytes
import Runbook.Text.Numeral

/-!
# Calculations

A calculation works on whole numbers of 64 bits, with the operators and precedences of a C
expression. Variables are read and assigned by name; one without a value counts as zero.

`Arithmetic.evaluate` works while it reads, so that of two faults the one met first is reported. The
operand that `&&`, `||` and `?` pass over is read but not worked out: it neither assigns a variable
nor divides by zero.
-/

namespace Runbook.Shell.Arithmetic

/-- A symbol of an expression. -/
inductive Token where
  | number (value : Int)
  | name (name : Text)
  | operator (symbol : Text)
  /-- A character that belongs to no symbol, at which reading stops. -/
  | stray
  deriving DecidableEq

/-- The operators, longer ones first. -/
def operators : List Text :=
  (["<<=", ">>=", "<<", ">>", "<=", ">=", "==", "!=", "&&", "||", "+=", "-=", "*=", "/=", "%=",
    "&=", "|=", "^=", "+", "-", "*", "/", "%", "<", ">", "!", "~", "&", "|", "^", "?", ":", "(",
    ")", "="] : List String).map String.toList

/-- A number of 64 bits: what is left of a whole number in that range. -/
def wrap (n : Int) : Int := Int.bmod n UInt64.size

/-! ## Numbers -/

/-- Whether `c` is a digit in base eight. -/
def isOctalDigit (c : Char) : Bool := '0' ≤ c && c ≤ '7'

/-- Whether `c` is a digit in base sixteen. -/
def isHexDigit (c : Char) : Bool :=
  c.isDigit || ('a' ≤ c && c ≤ 'f') || ('A' ≤ c && c ≤ 'F')

/-- The digits at the start of a text and their base, which is eight after a zero, and sixteen after
`0x` and a digit. How many characters they take comes last. -/
def leadingDigits (text : Text) : Nat × Text × Nat :=
  let digits (base skipped : Nat) (isDigit : Char → Bool) : Nat × Text × Nat :=
    let found := (text.drop skipped).takeWhile isDigit
    (base, found, skipped + found.length)
  match text with
  | '0' :: 'x' :: c :: _ | '0' :: 'X' :: c :: _ =>
    if isHexDigit c then digits 16 2 isHexDigit else (8, ['0'], 1)
  | '0' :: _ => digits 8 0 isOctalDigit
  | _ => digits 10 0 Char.isDigit

/-- The number at the start of a text, and how many characters it takes. -/
def leadingNumber (text : Text) : Nat × Nat :=
  let (base, digits, length) := leadingDigits text
  (Text.numeralValueIn base digits, length)

/-- The largest number of 64 bits. -/
def largest : Nat := 9223372036854775807

/-- The number that the value of a variable denotes; blanks may surround it. -/
def valueNumber? (text : Text) : Option Int :=
  let text := trim text
  let (negative, digits) := match text with
    | '-' :: rest => (true, rest)
    | '+' :: rest => (false, rest)
    | rest => (false, rest)
  let (n, length) := leadingNumber digits
  if text.isEmpty then some 0
  else if length = 0 || length < digits.length then none
  else if negative then (if n ≤ largest + 1 then some (-n) else none)
  else if n ≤ largest then some n else none

/-! ## Symbols -/

/-- The symbols of an expression of at most `bound` characters. A number that is too large counts as
the largest one. -/
def tokens : Nat → Text → List Token
  | 0, _ => []
  | bound + 1, text =>
    match text.dropWhile fun c => c == ' ' || c == '\t' || c == '\n' with
    | [] => []
    | c :: rest =>
      let text := c :: rest
      if c.isDigit then
        let (value, length) := leadingNumber text
        .number (min value largest) :: tokens bound (text.drop length)
      else if c.isAlpha || c == '_' then
        let word := text.takeWhile fun d => d.isAlphanum || d == '_'
        .name word :: tokens bound (text.drop word.length)
      else match operators.find? (·.isPrefixOf text) with
        | some symbol => .operator symbol :: tokens bound (text.drop symbol.length)
        | none => [.stray]

/-! ## Steps -/

/-- A calculation under way: the symbols that are left, and the variables. -/
structure Progress where
  tokens : List Token
  bindings : List (Text × Text)

/-- Why a calculation stops. -/
inductive Stop where
  /-- Something else is expected. -/
  | expecting (what : Text)
  | zeroDivision
  | tooComplex
  /-- The value of a variable is no number. -/
  | value (text : Text)

/-- Why a calculation with an expression stopped, in words. -/
def Stop.message (expression : Text) (stop : Stop) : Text :=
  let about (reason : Text) : Text :=
    "arithmetic expression: " ++ reason ++ ": \"" ++ expression ++ "\""
  match stop with
  | .expecting what => about ("expecting " ++ what)
  | .zeroDivision => about "division by zero"
  | .tooComplex => about "expression too complex"
  | .value text => "Illegal number: " ++ text

/-- A part of a calculation. -/
abbrev Calculation := ExceptT Stop (StateM Progress)

/-- Stops a calculation because something else is expected. -/
def expecting {α : Type} (what : Text) : Calculation α := throw (.expecting what)

/-- The value of a variable. -/
def lookUp (name : Text) : Calculation Int := do
  match (← get).bindings.lookup name with
  | none => return 0
  | some text =>
    match valueNumber? text with
    | some value => return value
    | none => throw (.value text)

/-- Assigns a value to a variable. -/
def assign (name : Text) (value : Int) : Calculation Unit := modify fun progress =>
  { progress with bindings := (name, Text.ofInt value) :: progress.bindings }

/-- The next symbol. -/
def peek : Calculation (Option Token) := return (← get).tokens.head?

/-- Goes on to the next symbol. -/
def advance : Calculation Unit := modify fun progress =>
  { progress with tokens := progress.tokens.tail }

/-- How tightly a binary operator binds; it is zero for symbols that are none. -/
def precedence (symbol : Text) : Nat :=
  if symbol = "|" then 1
  else if symbol = "^" then 2
  else if symbol = "&" then 3
  else if symbol = "==" || symbol = "!=" then 4
  else if symbol = "<" || symbol = ">" || symbol = "<=" || symbol = ">=" then 5
  else if symbol = "<<" || symbol = ">>" then 6
  else if symbol = "+" || symbol = "-" then 7
  else if symbol = "*" || symbol = "/" || symbol = "%" then 8
  else 0

/-- The binary operator that a symbol applies to a variable and its new value, if it is such a
symbol; that of a plain assignment is empty. -/
def assignedBy (symbol : Text) : Option Text :=
  if symbol.getLast? = some '=' && precedence symbol = 0 then some symbol.dropLast else none

/-- The truth value as a number. -/
def truth (b : Bool) : Int := if b then 1 else 0

/-- The bits of a number, as a natural number. -/
def bits (n : Int) : Nat := (n % UInt64.size).toNat

/-- The result of a binary operator. -/
def combine (symbol : Text) (a b : Int) : Calculation Int := do
  if symbol = "+" then return wrap (a + b)
  else if symbol = "-" then return wrap (a - b)
  else if symbol = "*" then return wrap (a * b)
  else if symbol = "/" then if b = 0 then throw .zeroDivision else return wrap (Int.tdiv a b)
  else if symbol = "%" then if b = 0 then throw .zeroDivision else return wrap (Int.tmod a b)
  else if symbol = "<<" then return wrap (a * Nat.pow 2 (bits b % 64))
  else if symbol = ">>" then return wrap (Int.fdiv a (Nat.pow 2 (bits b % 64)))
  else if symbol = "<" then return truth (a < b)
  else if symbol = ">" then return truth (a > b)
  else if symbol = "<=" then return truth (a ≤ b)
  else if symbol = ">=" then return truth (a ≥ b)
  else if symbol = "==" then return truth (a = b)
  else if symbol = "!=" then return truth (a ≠ b)
  else if symbol = "&" then return wrap (Nat.land (bits a) (bits b))
  else if symbol = "|" then return wrap (Nat.lor (bits a) (bits b))
  else return wrap (Nat.xor (bits a) (bits b))

/-! ## Expressions

Every part takes a bound on its depth, and whether it is passed over. -/

mutual

/-- Works out an assignment, or an expression without one. -/
def assignment : Nat → Bool → Calculation Int
  | 0, _ => throw .tooComplex
  | n + 1, passed => do
    match (← get).tokens with
    | .name name :: .operator symbol :: _ =>
      match assignedBy symbol with
      | some operator =>
        advance
        advance
        let value ← assignment n passed
        if passed then return value
        let value ← if operator.isEmpty then pure value else combine operator (← lookUp name) value
        assign name value
        return value
      | none => conditional n passed
    | _ => conditional n passed

/-- Works out a choice between two expressions. -/
def conditional : Nat → Bool → Calculation Int
  | 0, _ => throw .tooComplex
  | n + 1, passed => do
    let condition ← disjunction n passed
    if (← peek) = some (.operator "?") then
      advance
      let yes ← assignment n (passed || condition = 0)
      if (← peek) ≠ some (.operator ":") then expecting "':'"
      advance
      let no ← conditional n (passed || condition ≠ 0)
      return if condition ≠ 0 then yes else no
    else return condition

/-- Works out operands joined by `||`. -/
def disjunction : Nat → Bool → Calculation Int
  | 0, _ => throw .tooComplex
  | n + 1, passed => do
    let left ← conjunction n passed
    if (← peek) = some (.operator "||") then
      advance
      let right ← disjunction n (passed || left ≠ 0)
      return truth (left ≠ 0 || right ≠ 0)
    else return left

/-- Works out operands joined by `&&`. -/
def conjunction : Nat → Bool → Calculation Int
  | 0, _ => throw .tooComplex
  | n + 1, passed => do
    let left ← binary n passed 1
    if (← peek) = some (.operator "&&") then
      advance
      let right ← conjunction n (passed || left = 0)
      return truth (left ≠ 0 && right ≠ 0)
    else return left

/-- Works out operators that bind at least as tightly as given. -/
def binary : Nat → Bool → Nat → Calculation Int
  | 0, _, _ => throw .tooComplex
  | n + 1, passed, least => do
    let left ← unary n passed
    binaryAfter n passed least left

/-- Works out the operators after a left operand. -/
def binaryAfter : Nat → Bool → Nat → Int → Calculation Int
  | 0, _, _, _ => throw .tooComplex
  | n + 1, passed, least, left => do
    match ← peek with
    | some (.operator symbol) =>
      let level := precedence symbol
      if level = 0 || level < least then return left
      advance
      let right ← binary n passed (level + 1)
      binaryAfter n passed least (← if passed then pure right else combine symbol left right)
    | _ => return left

/-- Works out an operand with the signs before it. -/
def unary : Nat → Bool → Calculation Int
  | 0, _ => throw .tooComplex
  | n + 1, passed => do
    match ← peek with
    | some (.number value) =>
      advance
      return value
    | some (.name name) =>
      advance
      if passed then return 0 else lookUp name
    | some (.operator symbol) =>
      advance
      if symbol = "(" then
        let value ← assignment n passed
        if (← peek) ≠ some (.operator ")") then expecting "')'"
        advance
        return value
      else if symbol = "-" then return wrap (-(← unary n passed))
      else if symbol = "+" then unary n passed
      else if symbol = "!" then return truth ((← unary n passed) = 0)
      else if symbol = "~" then return wrap (-(← unary n passed) - 1)
      else expecting "primary"
    | some .stray | none => expecting "primary"

end

/-- Works out a whole expression. -/
def whole (bound : Nat) : Calculation Int := do
  let value ← assignment bound false
  if (← peek).isSome then expecting "EOF" else return value

/-- The value of an expression, or why there is none, and the variables after it. -/
def calculate (bindings : List (Text × Text)) (expression : Text) :
    Except Stop Int × List (Text × Text) :=
  let tokens := tokens (expression.length + 1) expression
  let (result, progress) := (whole (16 * tokens.length + 16)).run.run ⟨tokens, bindings⟩
  (result, progress.bindings)

/-- The value of an expression, or in words why there is none, and the variables after it. -/
def evaluate (bindings : List (Text × Text)) (expression : Text) :
    Except Text Int × List (Text × Text) :=
  let (result, bindings) := calculate bindings expression
  (result.mapError (Stop.message expression), bindings)

end Runbook.Shell.Arithmetic
