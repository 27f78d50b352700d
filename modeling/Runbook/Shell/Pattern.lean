import Runbook.Files

/-!
# Patterns

A pattern matches whole texts. In it an asterisk stands for any characters, a question mark for one,
and a bracket for one of those it lists; every other character, and every character that was quoted,
stands for itself. `Pattern.matching` finds the names of files that a pattern with slashes matches.
-/

namespace Runbook.Shell

/-- A character, and whether quotes keep it from having a special meaning. -/
abbrev Guarded := Char × Bool

/-- A part of a pattern. -/
inductive Atom where
  | char (c : Char)
  | anyChar
  | anyText
  | oneOf (negated : Bool) (ranges : List (Char × Char))

/-- A pattern: its parts in order. -/
abbrev Pattern := List Atom

/-- The ranges of characters of a named class. -/
def classRanges (name : Text) : List (Char × Char) :=
  if name = "digit" then [('0', '9')]
  else if name = "lower" then [('a', 'z')]
  else if name = "upper" then [('A', 'Z')]
  else if name = "alpha" then [('a', 'z'), ('A', 'Z')]
  else if name = "alnum" then [('a', 'z'), ('A', 'Z'), ('0', '9')]
  else if name = "space" then [(' ', ' '), ('\t', '\x0d')]
  else if name = "blank" then [(' ', ' '), ('\t', '\t')]
  else if name = "punct" then [('!', '/'), (':', '@'), ('[', '`'), ('\x7b', '~')]
  else if name = "xdigit" then [('0', '9'), ('a', 'f'), ('A', 'F')]
  else if name = "print" then [(' ', '~')]
  else if name = "graph" then [('!', '~')]
  else if name = "cntrl" then [('\x00', '\x1f'), ('\x7f', '\x7f')]
  else []

/-- The names of classes of characters. -/
def classNames : List Text := [
  "alnum", "alpha", "blank", "cntrl", "digit", "graph", "lower", "print", "punct", "space", "upper",
  "xdigit"]

/-- The class that is named after the opening of a bracket inside a bracket, and what follows it. -/
def namedClass? (chars : List Guarded) : Option (List (Char × Char) × List Guarded) :=
  classNames.findSome? fun name =>
    let start := ((':' :: name ++ [':', ']']).map fun c => (c, false) : List Guarded)
    if start.isPrefixOf chars then some (classRanges name, chars.drop start.length) else none

/-- Characters in which a backslash that is not quoted has been taken away, and the character after
it is guarded. -/
def unescaped : List Guarded → List Guarded
  | [] => []
  | ('\\', false) :: (c, _) :: rest => (c, true) :: unescaped rest
  | c :: rest => c :: unescaped rest

/-- The ranges of a bracket of at most `bound` parts up to its end, and what follows it. A closing
bracket that comes `first` is one of the characters. -/
def bracketRanges : Nat → Bool → List Guarded → Option (List (Char × Char) × List Guarded)
  | 0, _, _ => none
  | _, _, [] => none
  | bound + 1, first, (c, guarded) :: rest =>
    let after (ranges : List (Char × Char)) (rest : List Guarded) :=
      (bracketRanges bound false rest).map fun (more, rest) => (ranges ++ more, rest)
    if c = ']' && !guarded && !first then some ([], rest)
    else
      let named := if c = '[' && !guarded then namedClass? rest else none
      match named, rest with
      | some (ranges, rest), _ => after ranges rest
      | none, ('-', false) :: (']', false) :: _ => after [(c, c)] rest
      | none, ('-', false) :: (d, _) :: rest => after [(c, d)] rest
      | none, rest => after [(c, c)] rest

/-- The pattern that characters make, with room for `bound` parts. -/
def Pattern.ofChars : Nat → List Guarded → Pattern
  | 0, _ => []
  | _, [] => []
  | bound + 1, ('*', false) :: rest => .anyText :: ofChars bound rest
  | bound + 1, ('?', false) :: rest => .anyChar :: ofChars bound rest
  | bound + 1, ('[', false) :: rest =>
    let (negated, body) := match rest with
      | ('!', false) :: body => (true, body)
      | body => (false, body)
    match bracketRanges (body.length + 1) true body with
    | some (ranges, rest) => .oneOf negated ranges :: ofChars bound rest
    | none => .char '[' :: ofChars bound rest
  | bound + 1, (c, _) :: rest => .char c :: ofChars bound rest

/-- The pattern that characters make. -/
def Pattern.ofGuarded (chars : List Guarded) : Pattern :=
  Pattern.ofChars chars.length (unescaped chars)

/-- Whether a part of a pattern matches a character. -/
def Atom.accepts (atom : Atom) (c : Char) : Bool :=
  match atom with
  | .char d => c == d
  | .anyChar | .anyText => true
  | .oneOf negated ranges => negated != ranges.any fun (a, b) => a ≤ c && c ≤ b

/-- A text and everything that is left of it after a start. -/
def suffixes : Text → List Text
  | [] => [[]]
  | c :: rest => (c :: rest) :: suffixes rest

/-- Whether a pattern matches the whole of a text. -/
def Pattern.accepts : Pattern → Text → Bool
  | [], text => text.isEmpty
  | .anyText :: pattern, text => (suffixes text).any (Pattern.accepts pattern)
  | atom :: pattern, text =>
    match text with
    | [] => false
    | c :: rest => atom.accepts c && Pattern.accepts pattern rest

/-- Whether a pattern matches other texts than itself. -/
def Pattern.isOpen (pattern : Pattern) : Bool := pattern.any fun
  | .char _ => false
  | _ => true

/-- A text without the start or the end that a pattern matches, the shortest or the longest of them.
A null character, which ends an argument among several, ends what is matched. -/
def Pattern.trim (pattern : Pattern) (atEnd longest : Bool) (text : Text) : Text :=
  let lengths := List.range (text.length + 1)
  let lengths := if longest then lengths.reverse else lengths
  let found := lengths.find? fun n =>
    pattern.accepts ((if atEnd then text.drop (text.length - n) else text.take n).takeWhile
      (· ≠ Text.null))
  match found with
  | some n => if atEnd then text.take (text.length - n) else text.drop n
  | none => text

/-- Whether one text comes before another. -/
def textBefore (a b : Text) : Bool := decide (a < b) || a == b

/-! ## Names of files -/

/-- Whether a bracket closes before the next slash. -/
def closes : List Guarded → Bool
  | [] => false
  | ('/', _) :: _ => false
  | _ :: (']', false) :: _ => true
  | _ :: rest => closes rest

/-- Whether a name, which ends before the next slash, is a pattern. -/
def isOpenName : List Guarded → Bool
  | [] => false
  | (c, guarded) :: rest =>
    if c = '/' then false
    else if guarded then isOpenName rest
    else if c = '*' || c = '?' then true
    else if c = '[' then
      closes (match rest with
        | ('!', false) :: rest => rest
        | rest => rest) || isOpenName rest
    else isOpenName rest

/-- The names of a word, each up to a slash. -/
def nameParts (word : List Guarded) : List (List Guarded) :=
  word.foldr (fun c parts => if c.1 = '/' then [] :: parts else parts.modifyHead (c :: ·)) [[]]

/-- The texts of existing files that begin with `start`, which ends in a slash or is empty, and go
on with names that patterns match. -/
def matchNames (files : Files) (dir : Path) : Text → List (List Guarded) → List Text
  | start, [] => if (files.findLink false dir start).isOk then [start] else []
  | start, name :: rest =>
    if !isOpenName name then
      let text := start ++ name.map (·.1)
      if rest.isEmpty then (if (files.findLink false dir text).isOk then [text] else [])
      else matchNames files dir (text ++ ['/']) rest
    else match files.find dir (if start.isEmpty then ['.'] else start) with
      | .error _ => []
      | .ok (path, _) =>
        let pattern := Pattern.ofGuarded name
        let isHidden (child : Text) : Bool :=
          child.head? = some '.' && (name.head?.map (·.1)) ≠ some '.'
        let found := (['.'] :: ['.', '.'] :: files.children path).filter fun child =>
          !isHidden child && pattern.accepts child
        if rest.isEmpty then found.map (start ++ ·)
        else found.flatMap fun child => matchNames files dir (start ++ child ++ ['/']) rest

/-- The names of files that a word matches, in order; the word itself if it matches none or has no
special character. -/
def matching (files : Files) (dir : Path) (word : List Guarded) : List Text :=
  let parts := nameParts (unescaped word)
  if !parts.any isOpenName then [word.map (·.1)]
  else match (matchNames files dir [] parts).mergeSort textBefore with
    | [] => [word.map (·.1)]
    | found => found

end Runbook.Shell
