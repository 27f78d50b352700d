import Runbook.Shell.Editing.Basic
import Runbook.Shell.Format

/-!
# Escapes in scripts that edit lines

`withoutEscapes` replaces the escapes that stand for a character by that character. All other
characters behind backslashes keep these, so that the text can be read further. `partsOf` gives the
pieces of a replacement.
-/

namespace Runbook.Shell.Editing

/-- What a text is for. -/
inductive TextKind where
  | pattern
  | replacement
  | plain
  deriving DecidableEq

/-- The character that digits behind an escape denote, of which there are at most `most`, and how
many there are. Without digits the letter of the escape stands for itself. -/
def numbered (base most : Nat) (letter : Char) (rest : Text) : Char × Nat :=
  let digits := (rest.take most).takeWhile (Format.isDigitIn base)
  if digits.isEmpty then (letter, 0)
  else (byteChar (Text.numeralValueIn base digits), digits.length)

/-- The control character of a character. -/
def control (c : Char) : Char :=
  let n := c.toUpper.toNat
  byteChar (if n / 64 % 2 = 1 then n - 64 else n + 64)

/-- The character that an escape stands for, given what follows its backslash, and how long it is
without that. -/
def escaped? : Text → Option (Char × Nat)
  | 'a' :: _ => some ('\x07', 1)
  | 'f' :: _ => some ('\x0c', 1)
  | 'n' :: _ => some ('\n', 1)
  | 'r' :: _ => some ('\r', 1)
  | 't' :: _ => some ('\t', 1)
  | 'v' :: _ => some ('\x0b', 1)
  | 'c' :: '\\' :: '\\' :: _ => some (control '\\', 3)
  | 'c' :: c :: _ => some (control c, 2)
  | ['c'] => some ('\\', 1)
  | 'd' :: rest => after 10 3 'd' rest
  | 'o' :: rest => after 8 3 'o' rest
  | 'x' :: rest => after 16 2 'x' rest
  | _ => none
where
  /-- The character of a number, and its length with the letter before it. -/
  after (base most : Nat) (letter : Char) (rest : Text) : Option (Char × Nat) :=
    let (c, length) := numbered base most letter rest
    some (c, length + 1)

/-- A text of at most `bound` characters with its escapes replaced. A character of a replacement
that would mean more than itself keeps a backslash. -/
def withoutEscapesIn (kind : TextKind) : Nat → Text → Text
  | 0, text => text
  | _, [] => []
  | bound + 1, '\\' :: rest =>
    match escaped? rest with
    | some (c, length) =>
      let isSpecial : Bool := kind = .replacement && (c = '&' || c = '\\') ||
        kind = .plain && c = '\\'
      let start := if isSpecial then ['\\', c] else [c]
      start ++ withoutEscapesIn kind bound (rest.drop length)
    | none => match rest with
      | c :: rest => '\\' :: c :: withoutEscapesIn kind bound rest
      | [] => ['\\']
  | bound + 1, c :: rest => c :: withoutEscapesIn kind bound rest

/-- A text with its escapes replaced. -/
def withoutEscapes (kind : TextKind) (text : Text) : Text := withoutEscapesIn kind text.length text

/-- A text without the backslashes that guard characters. -/
def withoutGuards : Text → Text
  | [] => []
  | '\\' :: c :: rest => c :: withoutGuards rest
  | c :: rest => c :: withoutGuards rest

/-- The pieces of a replacement. The text before the current place from its last piece on is given
with the last character first, then the casing, and what becomes of the first letter. -/
def partsFrom (start : Text) (casing : Casing) (first : Option Casing) (after : Casing) :
    Text → List Part
  | [] => if start.isEmpty then [] else [⟨start.reverse, none, casing, first⟩]
  | '&' :: rest => ⟨start.reverse, some 0, casing, first⟩ :: partsFrom [] after none after rest
  | '\\' :: c :: rest =>
    let piece (text : Text) (group : Option Nat) : Part := ⟨text.reverse, group, casing, first⟩
    if c.isDigit then
      piece start (some (Text.digitValue c)) :: partsFrom [] after none after rest
    else if c = 'L' then piece start none :: partsFrom [] .lower none .lower rest
    else if c = 'U' then piece start none :: partsFrom [] .upper none .upper rest
    else if c = 'E' then piece start none :: partsFrom [] .same none .same rest
    else if c = 'l' then piece start none :: partsFrom [] after (some .lower) after rest
    else if c = 'u' then piece start none :: partsFrom [] after (some .upper) after rest
    else piece (c :: start) none :: partsFrom [] after none after rest
  | c :: rest => partsFrom (c :: start) casing first after rest

/-- The pieces of a replacement. -/
def partsOf (text : Text) : List Part := partsFrom [] .same none .same text

end Runbook.Shell.Editing
