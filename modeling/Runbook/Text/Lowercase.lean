import Runbook.Text.Basic
import Runbook.Text.Lowercase.Table

/-!
# Lower case

`Text.lower` is the full Unicode lower-casing of a text. All characters but two have a single
partner, found in `lowercaseRuns`. The dotted capital i becomes two characters. The capital sigma
depends on its place: at the end of a word it becomes the final sigma, and a word ends where
neither side, looked at through the characters that do not interrupt a word, continues with a
letter that has case.
-/

namespace Runbook.Text

/-- Whether one of the intervals contains the code point of `c`. -/
def inIntervals (intervals : List (Nat × Nat)) (c : Char) : Bool :=
  intervals.any fun (first, last) => first ≤ c.toNat && c.toNat ≤ last

/-- Whether `run` gives the code point `n` a partner. -/
def CaseRun.covers (run : CaseRun) (n : Nat) : Bool :=
  run.first ≤ n && n ≤ run.last && (n - run.first) % run.stride == 0

/-- The lower-case partner of `c`; a character without one is its own. -/
def lowerChar (c : Char) : Char :=
  match lowercaseRuns.find? (·.covers c.toNat) with
  | some run => Char.ofNat (c.toNat + run.up - run.down)
  | none => c

/-- Whether `t` continues with a letter that has case, once the characters that do not interrupt a
word are skipped. -/
def meetsCased (t : Text) : Bool :=
  match t.dropWhile (inIntervals caseIgnorableIntervals) with
  | [] => false
  | c :: _ => inIntervals casedIntervals c

/-- The lower case of `c` between the characters before it, nearest first, and those after it. -/
def lowerAt (before : Text) (c : Char) (after : Text) : Text :=
  if c = '\u0130' then ['i', '\u0307']
  else if c = '\u03A3' then
    if meetsCased before && !meetsCased after then ['\u03C2'] else ['\u03C3']
  else [lowerChar c]

/-- The lower case of the text after `before`, which is held nearest character first. -/
def lowerFrom (before : Text) : Text → Text
  | [] => []
  | c :: after => lowerAt before c after ++ lowerFrom (c :: before) after

/-- The full lower case of a text. Reference: `str::to_lowercase`. -/
def lower (t : Text) : Text := lowerFrom [] t

end Runbook.Text
