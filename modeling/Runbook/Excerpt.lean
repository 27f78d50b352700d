import Runbook.Text.Numeral
import Runbook.Word

/-!
# Excerpts

Long output is shown as its first lines, a separator, and its last lines. A `Policy` says from how
many lines on a text counts as long, and how many lines of each end are shown. Blank characters at
the ends of a text neither make it long nor take a place among the lines shown.

`Excerpt.ofText` is the excerpt itself; `Excerpt.abridge` computes it in machine words, where the
sum of the two ends of the window may overflow.
-/

namespace Runbook

/-- When a text is abridged, and how much of it is then shown. Reference: `TruncationPolicy`. -/
structure Policy where
  /-- The greatest number of lines that is shown in full. -/
  maxLines : UInt64
  /-- How many lines of the start a longer text shows. -/
  head : UInt64
  /-- How many lines of the end a longer text shows. -/
  tail : UInt64
  deriving Repr, DecidableEq

/-- Ten lines of either end of a text of more than a hundred. Reference:
`TruncationPolicy::default`. -/
def Policy.default : Policy := ⟨100, 10, 10⟩

/-- What is shown of a text. Reference: `Excerpt`. -/
inductive Excerpt where
  /-- There was nothing to show. -/
  | empty
  /-- The text is short enough to be shown as it is. -/
  | full (text : Text)
  /-- The two ends of a long text, and how many lines were left out between them. -/
  | window (head tail : List Text) (omitted : Nat)
  deriving Repr, DecidableEq

namespace Excerpt

/-- The line that stands for the lines left out. Reference: `SEPARATOR`. -/
def separator : Text := "..."

/-- The lines that are shown. Reference: `Excerpt::lines`. -/
def lines : Excerpt → List Text
  | .empty => []
  | .full text => Text.lines text
  | .window head tail _ => head ++ separator :: tail

/-- The excerpt as it is printed, ending in a line feed unless it is empty. Reference:
`Excerpt::fmt`. -/
def render : Excerpt → Text
  | .empty => []
  | .full text => Text.endLine text
  | .window head tail _ => Text.unlines (head ++ separator :: tail)

/-- The texts that are written one after another to print the excerpt. A text that lacks a final
line feed, and each line of a window, has its line feed written by itself. Reference: the writes of
`Excerpt::fmt`. -/
def pieces : Excerpt → List Text
  | .empty => []
  | .full text => if text.getLast? = some '\n' then [text] else [text, ['\n']]
  | .window head tail _ => (head ++ separator :: tail).flatMap fun line => [line, ['\n']]

/-- The excerpt of a text under a policy. Reference: `abridge`. -/
def ofText (policy : Policy) (text : Text) : Excerpt :=
  let lines := Text.lines (Text.trim text)
  if text.isEmpty then .empty
  else if lines.length ≤ policy.maxLines.toNat then .full text
  else
    .window (lines.take policy.head.toNat) (lines.drop (lines.length - policy.tail.toNat))
      (lines.length - (policy.head.toNat + policy.tail.toNat))

/-- The excerpt of a text under a policy, computed in machine words: a window whose two ends are
together longer than a word can count stops the computation. Reference: `abridge`. -/
def abridge (policy : Policy) (text : Text) : Except Overflow Excerpt :=
  match ofText policy text with
  | .window head tail omitted => do
    let _ ← addWord policy.head.toNat policy.tail.toNat
    return .window head tail omitted
  | excerpt => .ok excerpt

end Excerpt

end Runbook
