import Runbook.Shell.Arithmetic
import Runbook.Shell.Environment
import Runbook.Shell.Fields
import Runbook.Shell.Script

/-!
# Working out words

A word becomes spans of characters, from left to right, and these become fields, each of which is
matched against the names of files. Where a single text is wanted, as in an assignment, nothing is
split or matched.

A word may want the output of a script, which takes the shell more than one step. Therefore
`Working` is work that is done, or has been stopped by a fault, or waits for such an output and says
how it goes on then.
-/

namespace Runbook.Shell

/-- What the worth of a word depends on. -/
structure Scene where
  env : Environment
  files : Files
  dir : Path

/-- What keeps something from being worked out. -/
structure Fault where
  reason : Text
  /-- Whether it counts to the line up to which the script has been read, and not to that of the
  command. -/
  isOfReading : Bool

/-- Work that ends in a value. -/
inductive Working (α : Type) where
  | done (value : α) (scene : Scene)
  | stopped (fault : Fault) (scene : Scene)
  /-- It waits for the output of a script. -/
  | awaits (script : Script) (scene : Scene) (resume : Text → Scene → Working α)

/-- Work that goes on with the value of other work. -/
def Working.andThen {α β : Type} (next : α → Scene → Working β) : Working α → Working β
  | .done value scene => next value scene
  | .stopped fault scene => .stopped fault scene
  | .awaits script scene resume =>
    .awaits script scene fun text scene => (resume text scene).andThen next

/-- Work whose value may be a fault, which does not stop it. -/
def Working.attempt {α : Type} : Working α → Working (Except Fault α)
  | .done value scene => .done (.ok value) scene
  | .stopped fault scene => .done (.error fault) scene
  | .awaits script scene resume =>
    .awaits script scene fun text scene => (resume text scene).attempt

/-- Working something out in a scene, which may change. -/
def Expansion (α : Type) : Type := Scene → Working α

instance : Monad Expansion where
  pure value := fun scene => .done value scene
  bind expansion next := fun scene => (expansion scene).andThen next

namespace Expansion

/-- The scene. -/
def scene : Expansion Scene := fun scene => .done scene scene

/-- What the shell remembers. -/
def env : Expansion Environment := fun scene => .done scene.env scene

/-- Changes what the shell remembers. -/
def modifyEnv (change : Environment → Environment) : Expansion Unit :=
  fun scene => .done () { scene with env := change scene.env }

/-- Stops because of a fault. -/
def stop {α : Type} (reason : Text) : Expansion α := fun scene => .stopped ⟨reason, false⟩ scene

/-- Stops because of a fault that counts to the line up to which the script has been read. -/
def misread {α : Type} (reason : Text) : Expansion α := fun scene => .stopped ⟨reason, true⟩ scene

/-- The value, or the fault that would have stopped it. -/
def attempt {α : Type} (expansion : Expansion α) : Expansion (Except Fault α) :=
  fun scene => (expansion scene).attempt

/-- The output of a script. -/
def output (script : Script) : Expansion Text :=
  fun scene => .awaits script scene fun text scene => .done text scene

end Expansion

open Expansion

/-! ## Values -/

/-- How a piece is worked out. -/
structure Aim where
  /-- Whether fields are wanted. -/
  isSplit : Bool
  /-- Whether the characters stand in for a value, so that they are split like one. -/
  isInner : Bool

/-- Characters as they are written. -/
def Aim.written (aim : Aim) (text : Text) : List Span :=
  [⟨text.map (.char · false), if aim.isInner then .split else .fixed⟩]

/-- Characters that were quoted. -/
def quotedSpan (text : Text) : List Span := [⟨.quotes :: text.map (.char · true), .fixed⟩]

/-- A value without quotes around it. -/
def splitSpan (text : Text) : List Span := [⟨text.map (.char · false), .split⟩]

/-- A value. -/
def valueSpan (quotes : Bool) (text : Text) : List Span :=
  if quotes then [⟨text.map (.char · true), .fixed⟩] else splitSpan text

/-- Whether a name stands for all arguments. -/
def meansArguments (name : Text) : Bool := name = "@" || name = "*"

/-- The arguments with what stands between them where `fields` are wanted or not: null characters
that keep them apart, or the first separator. -/
def joinedArguments (env : Environment) (isSplit quotes : Bool) (name : Text) : Text :=
  let isApart := isSplit && (!quotes || name = "@")
  let between : Text :=
    match (env.find? "IFS").bind (·.value) with
    | some separators => if isApart then [Text.null] else separators.take 1
    | none => if isApart && quotes then [Text.null] else [' ']
  List.intercalate between env.arguments

/-- The value of a name, unless it has none. -/
def valueIn (env : Environment) (isSplit quotes : Bool) (name : Text) : Option Text :=
  if meansArguments name then some (joinedArguments env isSplit quotes name) else env.value? name

/-- A value that was asked for by a name. -/
def namedSpan (env : Environment) (quotes : Bool) (name text : Text) : List Span :=
  if quotes && name = "@" && !env.arguments.isEmpty then
    [⟨text.map (.char · true), .arguments⟩]
  else valueSpan quotes text

/-- Stops because a variable has no value. -/
def noValue {α : Type} (name : Text) : Expansion α := stop (name ++ ": parameter not set")

/-- The home directory of a user; that of the shell's own user has no name before it. -/
def homeOf? (env : Environment) (user : Text) : Option Text :=
  if user.isEmpty then env.value? "HOME" else if user = "root" then some "/root" else none

/-- Why a value may not be assigned to a variable, if that is so. -/
def Environment.refusal? (env : Environment) (name value : Text) : Option Text :=
  if env.isReadOnly name then some (name ++ ": is read only")
  else if name = Environment.optionIndex && (wholeNumber? value).isNone then
    some ("Illegal number: " ++ value)
  else none

/-- Assigns a value to a variable. -/
def assign (name value : Text) : Expansion Unit := do
  match (← env).refusal? name value with
  | some reason => stop reason
  | none => modifyEnv (·.assign name value)

/-- Assigns values to variables, one after another. -/
def assignEach : List (Text × Text) → Expansion Unit
  | [] => return ()
  | (name, value) :: rest => do
    assign name value
    assignEach rest

/-- The value of a calculation. -/
def calculate (expression : Text) : Expansion Int := do
  let env ← env
  let values := env.bindings.filterMap fun (name, entry) => entry.value.map (name, ·)
  let (result, changed) := Arithmetic.evaluate values expression
  assignEach (changed.take (changed.length - values.length)).reverse
  match result with
  | .error message => stop message
  | .ok value => return value

/-! ## Pieces -/

/-- The value of a variable. -/
def expandValue (aim : Aim) (quotes : Bool) (name : Text) : Expansion (List Span) := do
  let env ← env
  match valueIn env aim.isSplit quotes name with
  | some text => return namedSpan env quotes name text
  | none => if env.isOn .needValues then noValue name else return valueSpan quotes []

mutual

/-- Works out a piece of a word. -/
def expandPiece (aim : Aim) : Piece → Expansion (List Span)
  | .plain text => return aim.written text
  | .quoted text => return quotedSpan text
  | .home user => do
    match homeOf? (← env) user with
    | some home => return [⟨home.map (.char · true), .fixed⟩]
    | none => return aim.written ('~' :: user)
  | .output quotes script => do
    return valueSpan quotes (← output script)
  | .arithmetic quotes expression => do
    let text := spanText (← expandPieces ⟨false, false⟩ expression)
    return valueSpan quotes (Text.ofInt (← calculate text))
  | .variable quotes name form => expandForm aim quotes name form

/-- Works out what is taken of a variable. -/
def expandForm (aim : Aim) (quotes : Bool) (name : Text) : Form → Expansion (List Span)
  | .value => expandValue aim quotes name
  | .followed word => do
    let value ← expandValue aim quotes name
    return value ++ (← expandPieces aim word)
  | .length => do
    let env ← env
    match valueIn env false quotes name with
    | some text => return namedSpan env quotes name (Text.ofNat text.length)
    | none =>
      if env.isOn .needValues then noValue name else return valueSpan quotes ['0']
  | .fallback kind orEmpty word => do
    let env ← env
    let value := (valueIn env aim.isSplit quotes name).filter
      fun text => !(orEmpty && text.isEmpty)
    match kind, value with
    | .alternative, none => return valueSpan quotes []
    | .alternative, some _ | .substitute, none =>
      expandPieces { aim with isInner := !quotes } word
    | _, some text => return namedSpan env quotes name text
    | .assign, none =>
      let text := spanText (← expandPieces ⟨false, false⟩ word)
      if !(name.head?.map fun c => c.isAlpha || c == '_').getD false then
        stop (name ++ ": bad variable name")
      else
        assign name text
        return valueSpan quotes text
    | .stop, none =>
      let text := spanText (← expandPieces ⟨false, false⟩ word)
      if word.isEmpty then
        stop (name ++ ": parameter not set" ++ (if orEmpty then " or null".toList else []))
      else stop (name ++ ": " ++ text)
  | .trim atEnd longest pattern => do
    let before ← env
    match valueIn before aim.isSplit quotes name with
    | none =>
      if before.isOn .needValues then noValue name else return valueSpan quotes []
    | some text =>
      let pattern := Pattern.ofGuarded (guardedChars (← expandPieces ⟨false, false⟩ pattern))
      return namedSpan before quotes name (pattern.trim atEnd longest text)
  | .unknown => stop "Bad substitution"

/-- Works out the pieces of a word. -/
def expandPieces (aim : Aim) : List Piece → Expansion (List Span)
  | [] => return []
  | piece :: rest => do
    let spans ← expandPiece aim piece
    return spans ++ (← expandPieces aim rest)

end

/-! ## Words -/

/-- The fields of a word, matched against the names of files. -/
def expandWord (word : Word) : Expansion (List Text) := do
  let spans ← expandPieces ⟨true, false⟩ word
  let scene ← scene
  let found := fields scene.env.separators none spans
  if scene.env.isOn .noMatching then return found.map (·.map (·.1))
  else return found.flatMap (matching scene.files scene.dir)

/-- The fields of several words. -/
def expandWords : List Word → Expansion (List Text)
  | [] => return []
  | word :: rest => do
    let first ← expandWord word
    return first ++ (← expandWords rest)

/-- The text of a word that is not split. -/
def expandText (word : Word) : Expansion Text :=
  return spanText (← expandPieces ⟨false, false⟩ word)

/-- The pattern of a word. -/
def expandPattern (word : Word) : Expansion Pattern :=
  return Pattern.ofGuarded (guardedChars (← expandPieces ⟨false, false⟩ word))

/-- The fields of the arguments of a command that declares variables: what it assigns is not split.
-/
def expandDeclared (assignment? : Word → Option Word) : List Word → Expansion (List Text)
  | [] => return []
  | word :: rest => do
    let first ← match assignment? word with
      | some word => do pure [← expandText word]
      | none => expandWord word
    return first ++ (← expandDeclared assignment? rest)

end Runbook.Shell
