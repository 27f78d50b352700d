import Runbook.Shell.Bytes
import Runbook.Text.Numeral

/-!
# Names and values in complaints

A complaint shows what it is about between quotes. The name of a file is shown as a shell would read
it back (`named`), a value with escapes in the place of what cannot be printed (`quoted`).
-/

namespace Runbook.Shell

/-- The escape for a character that cannot be printed; there is none for other characters. -/
def unprinted? (c : Char) : Option Text :=
  if c = '\x07' then some "\\a"
  else if c = '\x08' then some "\\b"
  else if c = '\t' then some "\\t"
  else if c = '\n' then some "\\n"
  else if c = '\x0b' then some "\\v"
  else if c = '\x0c' then some "\\f"
  else if c = '\r' then some "\\r"
  else if ' ' ≤ c && c ≤ '~' then none
  else
    let digits := Nat.toDigits 8 c.toNat
    some ('\\' :: List.replicate (3 - digits.length) '0' ++ digits)

/-- A value between quotes. -/
def quoted (text : Text) : Text :=
  '\'' :: text.flatMap (fun c => match unprinted? c with
    | some escape => escape
    | none => if c = '\'' || c = '\\' then ['\\', c] else [c]) ++ ['\'']

/-- The inside of a text between the quotes of a shell; `escaping` says whether the quotes are those
for escapes. -/
def shellInside (escaping : Bool) : Text → Text
  | [] => []
  | c :: rest =>
    match unprinted? c with
    | some escape => (if escaping then [] else ("'$'" : Text)) ++ escape ++ shellInside true rest
    | none =>
      if c = '\'' then "'\\''" ++ shellInside false rest
      else (if escaping then ['\'', '\''] else []) ++ c :: shellInside false rest

/-- Whether a character means something to a shell wherever it stands. -/
def isShellSign (c : Char) : Bool := (" !\"$&'()*;<=>?[\\^`|" : Text).elem c

/-- Whether a name has to be quoted, so that a shell takes it for a word and no colon in it seems to
end it. -/
def wantsQuotes (text : Text) : Bool :=
  text.isEmpty || text.any (fun c => isShellSign c || c = ':' || (unprinted? c).isSome) ||
    text.head? = some '#' || text.head? = some '~' || text = "\x7b" || text = "\x7d"

/-- Whether a text means the same between double quotes. -/
def suitsDoubleQuotes (text : Text) : Bool :=
  text.zipIdx.all fun (c, i) =>
    (unprinted? c).isNone &&
      (c = ' ' || c = '\'' || (c = '#' || c = '~') && i = 0 ||
        !(isShellSign c || c = '#' || c = '~' || c = '\x7b' || c = '\x7d'))

/-- The name of a file between quotes. -/
def named (name : Text) : Text :=
  if name.elem '\'' && suitsDoubleQuotes name then '"' :: name ++ ['"']
  else '\'' :: shellInside false name ++ ['\'']

/-- The name of a file, between quotes if it needs any. -/
def shown (name : Text) : Text := if wantsQuotes name then named name else name

end Runbook.Shell
