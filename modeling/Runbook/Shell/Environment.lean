import Runbook.Shell.Bytes
import Runbook.Shell.Switch
import Runbook.Text.Numeral

/-!
# The environment of a shell

What a shell remembers between commands: variables, arguments, switches, and the status of the last
command. Some names, such as `?` and `#`, are not variables but stand for these values.
-/

namespace Runbook.Shell

/-- A variable. One may be exported before it has a value. -/
structure Variable where
  value : Option Text
  exported : Bool
  readOnly : Bool

/-- The number that a text means to the shell; blanks may surround it. -/
def wholeNumber? (text : Text) : Option Nat :=
  let digits := match trim text with
    | '+' :: rest => rest
    | rest => rest
  let value := Text.numeralValue digits
  if !digits.isEmpty && digits.all Char.isDigit && value < 2147483648 then some value else none

/-- How far arguments have been searched for options: the number of the argument that comes next,
and how many characters of the one before it have been dealt with if it is not done. -/
structure OptionPlace where
  next : Nat
  done : Option Nat

/-- The place before all arguments. -/
def OptionPlace.start : OptionPlace := ⟨1, none⟩

/-- The entries of a list by name in the order in which the shell goes through them: by the sum of
the codes of the characters, of which the first counts 17 times, modulo a number. -/
def inBuckets {α : Type} (modulus : Nat) (entries : List (Text × α)) : List (Text × α) :=
  let bucket (name : Text) : Nat :=
    name.foldl (fun sum c => sum + c.toNat) (16 * (name.headD Text.null).toNat) % modulus
  entries.mergeSort fun a b => bucket a.1 ≤ bucket b.1

/-- The memory of a shell. -/
structure Environment where
  bindings : List (Text × Variable)
  arguments : List Text
  /-- How far the arguments have been searched for options. -/
  optionPlace : OptionPlace
  /-- What the shell was called. -/
  name : Text
  /-- The status of the last command. -/
  status : Nat
  /-- The process that the shell was started as. -/
  shellId : Nat
  /-- The last process that was started in the background. -/
  lastBackground : Option Nat
  /-- What is switched on. -/
  switches : List Switch

namespace Environment

/-- The variable of a name. -/
def find? (env : Environment) (name : Text) : Option Variable := env.bindings.lookup name

/-- The environment with a variable of the given name. -/
def put (env : Environment) (name : Text) (entry : Variable) : Environment :=
  { env with bindings :=
      if env.bindings.any (·.1 = name) then
        env.bindings.map fun binding => if binding.1 = name then (name, entry) else binding
      else env.bindings ++ [(name, entry)] }

/-- The variables that are there in any case, with or without a value. -/
def lasting : List Text := [
  "IFS", "MAIL", "MAILPATH", "OPTIND", "PATH", "PS1", "PS2", "PS4"]

/-- The environment without the variable of a name, or without a value for it if it is a lasting
one. -/
def unset (env : Environment) (name : Text) : Environment :=
  match (env.find? name).filter fun _ => lasting.elem name with
  | some entry => env.put name { entry with value := none }
  | none => { env with bindings := env.bindings.filter (·.1 ≠ name) }

/-- Whether something is switched on. -/
def isOn (env : Environment) (switch : Switch) : Bool := env.switches.elem switch

/-- The name of the variable that says which argument is searched for options next. -/
def optionIndex : Text := "OPTIND"

/-- The environment with a value assigned to a variable. -/
def assign (env : Environment) (name value : Text) : Environment :=
  let entry := (env.find? name).getD ⟨none, false, false⟩
  let env := env.put name
    { entry with value := some value, exported := entry.exported || env.isOn .exportAll }
  if name = optionIndex then
    { env with optionPlace := ⟨max 1 ((wholeNumber? value).getD 1), none⟩ }
  else env

/-- The environment with other arguments. -/
def withArguments (env : Environment) (arguments : List Text) : Environment :=
  { env with arguments, optionPlace := .start }

/-- The environment with a variable exported. -/
def markExported (env : Environment) (name : Text) : Environment :=
  match env.find? name with
  | some entry => env.put name { entry with exported := true }
  | none => env.put name ⟨none, true, false⟩

/-- Whether a variable may not be changed. -/
def isReadOnly (env : Environment) (name : Text) : Bool :=
  ((env.find? name).map (·.readOnly)).getD false

/-- The characters at which values are split into fields. -/
def separators (env : Environment) : Text :=
  match (env.find? "IFS").bind (·.value) with
  | some text => text
  | none => [' ', '\t', '\n']

/-- The value of a name, unless it has none. The names of all arguments give them joined. -/
def value? (env : Environment) (name : Text) : Option Text :=
  if name = "@" || name = "*" then
    if env.arguments.isEmpty then none
    else some (List.intercalate (env.separators.take 1) env.arguments)
  else if name = "#" then some (Text.ofNat env.arguments.length)
  else if name = "?" then some (Text.ofNat env.status)
  else if name = "-" then some (Switch.letters env.switches)
  else if name = "$" then some (Text.ofNat env.shellId)
  else if name = "!" then env.lastBackground.map Text.ofNat
  else if name.all Char.isDigit then
    match Text.numeralValue name with
    | 0 => some env.name
    | n + 1 => env.arguments[n]?
  else (env.find? name).bind (·.value)

/-- The exported variables that have a value, in the order in which programs are given them. -/
def exports (env : Environment) : List (Text × Text) :=
  inBuckets 39 <| env.bindings.filterMap fun (name, entry) =>
    if entry.exported then entry.value.map (name, ·) else none

end Environment

end Runbook.Shell
