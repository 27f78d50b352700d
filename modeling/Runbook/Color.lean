import Runbook.Text.Lowercase

/-!
# The choice of colour

Whether the output of a failed command is highlighted: always, never, or only on a terminal, and
there only as long as the environment does not ask for output without colour.
-/

namespace Runbook

/-- When to highlight in colour. Reference: `ColorChoice`. -/
inductive ColorChoice where
  | auto
  | always
  | never
  deriving Repr, DecidableEq

/-- What the output of the program goes to. -/
structure Screen where
  /-- Whether it is a terminal. -/
  terminal : Bool
  /-- Whether the environment asks for output without colour: the variable `NO_COLOR` is set, to any
  value. -/
  noColor : Bool
  deriving Repr, DecidableEq

namespace ColorChoice

/-- The name of a choice. -/
def name : ColorChoice → Text
  | .auto => "auto"
  | .always => "always"
  | .never => "never"

/-- The choice with exactly the given name. Reference: the value names of `ColorChoice`. -/
def ofName? (name : Text) : Option ColorChoice :=
  if name = "auto" then some .auto
  else if name = "always" then some .always
  else if name = "never" then some .never
  else none

/-- The name of a choice is read as the choice. -/
theorem ofName?_name (choice : ColorChoice) : ofName? choice.name = some choice := by
  cases choice <;> decide +kernel

/-- Reads the name of a choice in any letter case and with blank characters around it. A text that
names no choice is given back as it was compared: trimmed and in lower case. Reference:
`ColorChoice::from_str`. -/
def read (text : Text) : Except Text ColorChoice :=
  let name := Text.lower (Text.trim text)
  match ofName? name with
  | some choice => .ok choice
  | none => .error name

/-- What to say of a text that names no choice. Reference: `ColorChoice::from_str`. -/
def refusal (name : Text) : Text :=
  "invalid color choice: " ++ name ++ " (expected \"auto\", \"always\" or \"never\")"

/-- Whether the choice highlights, unless that depends on the terminal. -/
def fixed? : ColorChoice → Option Bool
  | .auto => none
  | .always => some true
  | .never => some false

/-- Whether the choice highlights on the screen. Reference: `ColorChoice::enabled`. -/
def enabled (choice : ColorChoice) (screen : Screen) : Bool :=
  choice.fixed?.getD (!screen.noColor && screen.terminal)

end ColorChoice

end Runbook
