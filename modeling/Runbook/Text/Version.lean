import Runbook.Text.Numeral

/-!
# The order of names with numbers

`Text.compareVersions` puts names in an order in which the numbers in them count as numbers: `a9`
comes before `a10`. Endings such as `.tar.gz` are looked at only if the names are otherwise equal,
and hidden names come before all others.
-/

namespace Runbook.Text

/-- The rank of the first character of a text, where a number or the end may stand as well. A tilde
comes before the end, letters come before other signs. -/
def versionRank : Text → Int
  | [] => -1
  | c :: _ =>
    if c.isDigit then 0
    else if c.isAlpha then c.toNat
    else if c = '~' then -2
    else c.toNat + 256

/-- Whether a text starts with something else than a digit. -/
def startsWord (t : Text) : Bool := (t.head?.map (!·.isDigit)).getD false

/-- Compares the texts up to the next number in each, and gives what follows; `bound` is how long
they are together. -/
def compareWords : Nat → Text → Text → Ordering × Text × Text
  | 0, a, b => (.eq, a, b)
  | bound + 1, a, b =>
    if startsWord a || startsWord b then
      match compare (versionRank a) (versionRank b) with
      | .eq => compareWords bound (a.drop 1) (b.drop 1)
      | order => (order, a, b)
    else (.eq, a, b)

/-- Compares texts by words and numbers in turn; `bound` is how long they are together. -/
def compareParts : Nat → Text → Text → Ordering
  | 0, _, _ => .eq
  | bound + 1, a, b =>
    if a.isEmpty && b.isEmpty then .eq
    else
      match compareWords (a.length + b.length) a b with
      | (.eq, a, b) =>
        let first := a.takeWhile Char.isDigit
        let second := b.takeWhile Char.isDigit
        match compare (numeralValue first) (numeralValue second) with
        | .eq => compareParts bound (a.drop first.length) (b.drop second.length)
        | order => order
      | (order, _, _) => order

/-- The length of a name without its endings: a point and a letter start each of them. The endings
before the `position` have been passed over, and `plain` is where the last character was that
belongs to none. -/
def stemLength : Nat → Nat → Nat → Text → Nat
  | 0, _, plain, _ => plain
  | bound + 1, position, plain, text =>
    match text with
    | [] => plain
    | '.' :: c :: rest =>
      if (c.isAlpha || c = '~') && 0 < position then
        let ending := rest.takeWhile fun c => c.isAlphanum || c = '~'
        stemLength bound (position + 2 + ending.length) plain (rest.drop ending.length)
      else stemLength bound (position + 1) (position + 1) (c :: rest)
    | _ :: rest => stemLength bound (position + 1) (position + 1) rest

/-- The rank of a name by the point it may start with: none, one that is alone, two, or one before
other characters. -/
def hiddenRank : Text → Nat
  | [] => 0
  | ['.'] => 1
  | ['.', '.'] => 2
  | '.' :: _ => 3
  | _ => 4

/-- Compares names in which numbers count as numbers. -/
def compareVersions (a b : Text) : Ordering :=
  match compare (hiddenRank a) (hiddenRank b) with
  | .eq =>
    if hiddenRank a < 3 then .eq
    else
      let first := a.take (stemLength (a.length + 1) 0 0 a)
      let second := b.take (stemLength (b.length + 1) 0 0 b)
      match compareParts (first.length + second.length + 1) first second with
      | .eq => compareParts (a.length + b.length + 1) a b
      | order => order
  | order => order

end Runbook.Text
