/-!
# Texts

A text is a list of characters, and every operation on texts is an operation on lists: the laws of
cutting a text into lines, of trimming it and of joining pieces are then laws about lists.

`Text.isBlank` is the Unicode property `White_Space`, `Text.trim` removes blank characters at both
ends, and `Text.lines` cuts at line feeds. A line does not keep its line feed nor the one carriage
return just before it; a carriage return anywhere else is an ordinary character.
-/

namespace Runbook

/-- A text: its characters in order. -/
abbrev Text := List Char

/-- A string stands for its characters wherever a text is wanted. -/
instance : Coe String Text := ⟨String.toList⟩

namespace Text

/-! ## Blank characters -/

/-- Whether `c` has the Unicode property `White_Space`. Reference: `char::is_whitespace`. -/
def isBlank (c : Char) : Bool :=
  let n := c.toNat
  (0x09 ≤ n && n ≤ 0x0D) || n == 0x20 || n == 0x85 || n == 0xA0 || n == 0x1680 ||
    (0x2000 ≤ n && n ≤ 0x200A) || n == 0x2028 || n == 0x2029 || n == 0x202F || n == 0x205F ||
    n == 0x3000

/-- Whether `t` has blank characters only; the empty text is blank. -/
def blank (t : Text) : Bool := t.all isBlank

/-- `t` without the blank characters at its start. -/
def trimStart (t : Text) : Text := t.dropWhile isBlank

/-- `t` without the blank characters at its end. -/
def trimEnd (t : Text) : Text := (t.reverse.dropWhile isBlank).reverse

/-- `t` without the blank characters at either end. Reference: `str::trim`. -/
def trim (t : Text) : Text := trimEnd (trimStart t)

/-! ## Lines -/

/-- One step of `lines`, from the right: the lines after `c`, and whether the character after `c`
is a line feed, give the lines from `c` on. -/
def lineStep (c : Char) (after : Bool × List Text) : Bool × List Text :=
  if c = '\n' then (true, [] :: after.2)
  else if c = '\r' ∧ after.1 then (false, after.2)
  else match after.2 with
    | [] => (false, [[c]])
    | line :: more => (false, (c :: line) :: more)

/-- The lines of `t`: cut at each line feed, with one carriage return before it removed as well. No
empty line follows a final line feed. Reference: `str::lines`. -/
def lines (t : Text) : List Text := (t.foldr lineStep (false, [])).2

/-- The text that has each of `ls` followed by a line feed. -/
def unlines (ls : List Text) : Text := ls.flatMap (· ++ ['\n'])

/-- `t`, with a line feed after it unless it already ends in one. -/
def endLine (t : Text) : Text := if t.getLast? = some '\n' then t else t ++ ['\n']

/-- Whether `t` ends in a line feed or holds nothing, so that a note may follow on a fresh line. -/
def atLineStart (t : Text) : Bool := t.isEmpty || t.getLast? == some '\n'

/-- `t`, closed by a line feed if it is an unfinished line, and then `note`. Reference:
`signal_note`, `ExecutionResult::timed_out`. -/
def appendNote (t note : Text) : Text := (if atLineStart t then t else t ++ ['\n']) ++ note

/-! ## Pieces -/

/-- The pieces of a text between the characters equal to `c`. -/
def pieces (c : Char) (t : Text) : List Text :=
  t.foldr (fun d found => if d = c then [] :: found else found.modifyHead (d :: ·)) [[]]

/-- The null character. -/
def null : Char := Char.ofNat 0

end Text

end Runbook
