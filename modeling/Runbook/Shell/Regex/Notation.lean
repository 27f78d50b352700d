import Runbook.Shell.Pattern
import Runbook.Shell.Regex
import Runbook.Text.Numeral

/-!
# How regular expressions are written

`Regex.read` gives the expression that a text denotes, or the `Fault` that is met first. In the
basic notation brackets, bounds and alternatives are written behind a backslash, in the extended one
without. A `loose` reader lets a sign of repetition stand where there is nothing to repeat.
-/

namespace Runbook.Shell.Regex

/-- How an expression is written. -/
structure Dialect where
  extended : Bool
  ignoreCase : Bool
  /-- Every line feed ends one line and starts another. -/
  manyLines : Bool
  loose : Bool

/-- Why a text denotes no expression. -/
inductive Fault where
  | badReference
  | badRange
  | badClass
  | badElement
  | badBounds
  | badRepetition
  | badExpression
  | classOutsideBracket
  | openBracket
  | openBounds
  | openGroup
  | closedGroup
  | loneBackslash
  | tooBig
  deriving DecidableEq

/-- Why a text denotes no expression, in words. -/
def Fault.message : Fault → Text
  | .badReference => "Invalid back reference"
  | .badRange => "Invalid range end"
  | .badClass => "Invalid character class name"
  | .badElement => "Invalid collation character"
  | .badBounds => "Invalid content of \\\x7b\\\x7d"
  | .badRepetition => "Invalid preceding regular expression"
  | .badExpression => "Invalid regular expression"
  | .classOutsideBracket => "character class syntax is [[:space:]], not [:space:]"
  | .openBracket => "Unmatched [, [^, [:, [., or [="
  | .openBounds => "Unmatched \\\x7b"
  | .openGroup => "Unmatched ( or \\("
  | .closedGroup => "Unmatched ) or \\)"
  | .loneBackslash => "Trailing backslash"
  | .tooBig => "Regular expression too big"

/-! ## Brackets -/

/-- The names of the classes of characters. -/
def classNames : List Text :=
  ["alpha", "upper", "lower", "digit", "xdigit", "space", "punct", "alnum", "print", "graph",
    "cntrl", "blank"]

/-- A member of a bracket. -/
inductive Member where
  | char (c : Char)
  | ranges (ranges : List (Char × Char))

/-- Takes the name up to a mark and a closing bracket. -/
def takeNamed (mark : Char) : Text → Option (Text × Text)
  | [] => none
  | c :: rest =>
    if c = mark && rest.head? = some ']' then some ([], rest.drop 1)
    else (takeNamed mark rest).map fun (name, rest) => (c :: name, rest)

/-- Reads one member of a bracket. -/
def readMember : Text → Except Fault (Member × Text)
  | '[' :: ':' :: rest =>
    match takeNamed ':' rest with
    | none => throw .openBracket
    | some (name, rest) =>
      if classNames.elem name then return (.ranges (classRanges name), rest) else throw .badClass
  | '[' :: '.' :: rest => element '.' rest
  | '[' :: '=' :: rest => element '=' rest
  | c :: rest => return (.char c, rest)
  | [] => throw .openBracket
where
  /-- Reads a character between marks. -/
  element (mark : Char) (rest : Text) : Except Fault (Member × Text) :=
    match takeNamed mark rest with
    | none => throw .openBracket
    | some ([c], rest) => return (.char c, rest)
    | some _ => throw .badElement

/-- Reads the members of a bracket of at most `bound` characters up to its end. A closing bracket
that comes `first` is one of the characters. -/
def readMembers : Nat → Bool → Text → Except Fault (List (Char × Char) × Text)
  | 0, _, _ => throw .openBracket
  | _, _, [] => throw .openBracket
  | bound + 1, first, c :: rest => do
    if c = ']' && !first then return ([], rest)
    let after (ranges : List (Char × Char)) (rest : Text) := do
      let (more, rest) ← readMembers bound false rest
      return (ranges ++ more, rest)
    match ← readMember (c :: rest) with
    | (.ranges ranges, rest) => after ranges rest
    | (.char a, '-' :: ']' :: rest) => after [(a, a)] ('-' :: ']' :: rest)
    | (.char a, '-' :: rest) =>
      if rest.isEmpty then throw .openBracket
      match ← readMember rest with
      | (.char b, rest) => if a ≤ b then after [(a, b)] rest else throw .badRange
      | (.ranges _, _) => throw .badRange
    | (.char a, rest) =>
      if a = '-' && c = '-' && !first && rest.head? ≠ some ']' then throw .badRange
      after [(a, a)] rest

/-- Whether the inside of a bracket looks like a class without a bracket around it. -/
def looksLikeClass (inside : Text) : Bool :=
  inside.head? = some ':' && inside.getLast? = some ':' && inside.any (· ≠ ':') &&
    !inside.elem '['

/-- Reads a bracket from behind its start. -/
def readBracket (dialect : Dialect) (text : Text) : Except Fault (Regex × Text) := do
  let (negated, body) := match text with
    | '^' :: rest => (true, rest)
    | rest => (false, rest)
  if body.isEmpty then throw .badExpression
  let (ranges, rest) ← readMembers body.length true body
  if looksLikeClass (body.take (body.length - rest.length - 1)) then throw .classOutsideBracket
  return (.oneOf negated dialect.ignoreCase ranges, rest)

/-! ## Parts -/

/-- The special sign at the start of a text, and how long it is. -/
def sign? (dialect : Dialect) : Text → Option (Char × Nat)
  | '\\' :: c :: _ =>
    if !dialect.extended && ("()\x7b\x7d|+?" : Text).elem c then some (c, 2) else none
  | c :: _ =>
    if ("*.[^$" : Text).elem c then some (c, 1)
    else if dialect.extended && ("()\x7b\x7d|+?" : Text).elem c then some (c, 1)
    else none
  | [] => none

/-- Bounds of a repetition, or why there are none. -/
inductive Bounds where
  | between (least : Nat) (most : Option Nat) (rest : Text)
  /-- What stands there is no number, up to the end of the text if `unclosed`. -/
  | senseless (unclosed : Bool)

/-- Reads the bounds of a repetition up to their closing brace. -/
def readBounds (dialect : Dialect) (text : Text) : Bounds :=
  let least := text.takeWhile Char.isDigit
  let rest := text.drop least.length
  let isClosing (rest : Text) : Bool := (sign? dialect rest).map (·.1) = some '\x7d'
  let closing := if dialect.extended then 1 else 2
  let closes : Bool := (text.zipIdx.any fun (_, i) => isClosing (text.drop i))
  match rest with
  | ',' :: after =>
    let most := after.takeWhile Char.isDigit
    let after := after.drop most.length
    if isClosing after then
      .between (Text.numeralValue least)
        (if most.isEmpty then none else some (Text.numeralValue most)) (after.drop closing)
    else .senseless !closes
  | rest =>
    if !least.isEmpty && isClosing rest then
      .between (Text.numeralValue least) (some (Text.numeralValue least)) (rest.drop closing)
    else .senseless !closes

/-- The most repetitions that may be asked for. -/
def repetitionLimit : Nat := 32767

/-- The anchor, or the class of characters, that a letter behind a backslash denotes. -/
def escaped? (c : Char) : Option Regex :=
  let wordRanges : List (Char × Char) := ('_', '_') :: classRanges "alnum"
  if c = '<' then some (.at .wordStart)
  else if c = '>' then some (.at .wordEnd)
  else if c = 'b' then some (.at .wordEdge)
  else if c = 'B' then some (.at .noWordEdge)
  else if c = '`' then some (.at .textStart)
  else if c = '\'' then some (.at .textEnd)
  else if c = 'w' then some (.oneOf false false wordRanges)
  else if c = 'W' then some (.oneOf true false wordRanges)
  else if c = 's' then some (.oneOf false false (classRanges "space"))
  else if c = 'S' then some (.oneOf true false (classRanges "space"))
  else none

/-- What is left to be read, how many groups were opened, and which of them can be referred to. -/
structure Pending where
  rest : Text
  opened : Nat
  closed : List Nat

/-- A reader of expressions. -/
abbrev Reader := StateT Pending (Except Fault)

/-- Goes on by `n` characters. -/
def skip (n : Nat) : Reader Unit := modify fun pending =>
  { pending with rest := pending.rest.drop n }

/-- The sign that stands next. -/
def nextSign (dialect : Dialect) : Reader (Option (Char × Nat)) :=
  return sign? dialect (← get).rest

/-- Whether the special sign repeats what is before it. -/
def repeats (c : Char) : Bool := c == '*' || c == '+' || c == '?' || c == '\x7b'

/-- Reads the signs of repetition behind a part. -/
def readRepeats (dialect : Dialect) : Nat → Bool → Regex → Reader Regex
  | 0, _, part => return part
  | n + 1, isFirst, part => do
    match ← nextSign dialect with
    | some (c, length) =>
      if !repeats c then return part
      if !isFirst && !dialect.extended && !dialect.loose && (c == '*' || c == '\x7b') then
        throw .badRepetition
      if c = '\x7b' then
        match readBounds dialect ((← get).rest.drop length) with
        | .between least most rest =>
          if (most.map (decide <| · < least)).getD false then throw .badBounds
          if repetitionLimit < most.getD least then throw .tooBig
          modify ({ · with rest })
          readRepeats dialect n false (.repeated part least most)
        | .senseless unclosed =>
          if dialect.extended && dialect.loose then return part
          else throw (if unclosed then .openBounds else .badBounds)
      else
        skip length
        let (least, most) := if c = '*' then (0, none) else if c = '+' then (1, none)
          else (0, some 1)
        readRepeats dialect n false (.repeated part least most)
    | none => return part

/-- The expression of one character. -/
def ofChar (dialect : Dialect) (c : Char) : Regex := .oneOf false dialect.ignoreCase [(c, c)]

/-- Reads a character behind a backslash. -/
def readEscaped (dialect : Dialect) (c : Char) : Reader Regex := do
  if '1' ≤ c && c ≤ '9' then
    let number := Text.digitValue c
    if (← get).closed.elem number then
      skip 2
      return .again number dialect.ignoreCase
    else throw .badReference
  else
    skip 2
    return (escaped? c).getD (ofChar dialect c)

/-- What is before a part. -/
inductive Before where
  /-- Nothing. -/
  | nothing
  | anchor
  | part
  deriving DecidableEq

/-- Whether a part is an anchor, which cannot be repeated. -/
def isAnchor : Regex → Bool
  | .at _ => true
  | _ => false

/-- Whether a dollar sign is an anchor, given what comes after it. -/
def isLineEnd (dialect : Dialect) (after : Text) : Bool :=
  dialect.extended || after.isEmpty ||
    match sign? dialect after with
    | some (')', _) | some ('|', _) => true
    | _ => false

mutual

/-- Reads alternatives; `depth` is the number of groups around them. -/
def readEither (dialect : Dialect) : Nat → Nat → Reader Regex
  | 0, _ => throw .tooBig
  | n + 1, depth => do
    let before := (← get).closed
    let first ← readBoth dialect n depth .nothing
    match ← nextSign dialect with
    | some ('|', length) =>
      let closed := (← get).closed
      skip length
      modify ({ · with closed := before })
      let second ← readEither dialect n depth
      modify fun pending => { pending with closed := closed ++ pending.closed }
      return .either first second
    | _ => return first

/-- Reads parts that follow one another. -/
def readBoth (dialect : Dialect) : Nat → Nat → Before → Reader Regex
  | 0, _, _ => throw .tooBig
  | n + 1, depth, before => do
    if (← get).rest.isEmpty then return .empty
    match ← nextSign dialect with
    | some ('|', _) => return .empty
    | some (')', _) => if 0 < depth then return .empty
    | _ => pure ()
    let part ← readPart dialect n depth before
    if isAnchor part then return part.andThen (← readBoth dialect n depth .anchor)
    let part ← readRepeats dialect n true part
    return part.andThen (← readBoth dialect n depth .part)

/-- Reads one part. At the start, or behind an anchor, there is nothing to repeat. -/
def readPart (dialect : Dialect) : Nat → Nat → Before → Reader Regex
  | 0, _, _ => throw .tooBig
  | n + 1, depth, before => do
    let rest := (← get).rest
    match ← nextSign dialect, rest with
    | some ('.', _), _ =>
      skip 1
      return .oneOf true false []
    | some ('^', _), _ =>
      skip 1
      if dialect.extended || before = .nothing then
        return .at (if dialect.manyLines then .lineStart else .textStart)
      return ofChar dialect '^'
    | some ('$', _), _ =>
      skip 1
      if isLineEnd dialect (rest.drop 1) then
        return .at (if dialect.manyLines then .lineEnd else .textEnd)
      return ofChar dialect '$'
    | some ('[', _), _ =>
      let (part, rest) ← readBracket dialect (rest.drop 1)
      modify ({ · with rest })
      return part
    | some ('(', length), _ =>
      skip length
      let number := (← get).opened + 1
      modify ({ · with opened := number })
      let part ← readEither dialect n (depth + 1)
      match ← nextSign dialect with
      | some (')', length) =>
        skip length
        modify fun pending => { pending with closed := number :: pending.closed }
        return .group number part
      | _ => throw .openGroup
    | some (')', length), _ =>
      if !(dialect.extended && dialect.loose) then throw .closedGroup
      skip length
      return ofChar dialect ')'
    | some (c, length), _ =>
      if !repeats c then
        skip length
        return ofChar dialect c
      if dialect.extended && before ≠ .part then
        if !dialect.loose then throw .badRepetition
        match c, readBounds dialect (rest.drop length) with
        | '\x7b', .between _ _ rest =>
          modify ({ · with rest })
          return .empty
        | '\x7b', .senseless _ =>
          skip length
          return ofChar dialect c
        | _, _ =>
          skip length
          return .empty
      if c = '\x7b' && !dialect.loose then throw .badRepetition
      skip length
      return ofChar dialect c
    | none, ['\\'] => throw .loneBackslash
    | none, '\\' :: c :: _ => readEscaped dialect c
    | none, c :: _ =>
      skip 1
      return ofChar dialect c
    | none, [] => return .empty

end

/-- The expression that a text denotes, and how many groups it has. -/
def readCounted (dialect : Dialect) (text : Text) : Except Fault (Regex × Nat) := do
  let (regex, pending) ← (readEither dialect (8 * text.length + 8) 0).run ⟨text, 0, []⟩
  return (regex, pending.opened)

/-- The expression that a text denotes. -/
def read (dialect : Dialect) (text : Text) : Except Fault Regex :=
  (readCounted dialect text).map (·.1)

end Runbook.Shell.Regex
