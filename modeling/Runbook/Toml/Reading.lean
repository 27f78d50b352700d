import Runbook.Toml.DataError
import Runbook.Word

/-!
# Reading data from values

A reader takes a value of a document and gives what it stands for. Structures are read field by
field, from a table by the names of the fields or from an array by their order. A field that is
absent keeps the value it had, and what belongs to no field is passed over; but even there a number
that fits no machine word at all is an error. The first error counts, in the order of the table.
-/

namespace Runbook.Toml

/-- Reads something from a value. -/
abbrev Decoder (α : Type) := Value → Except DataError α

/-- What a value is called in an error. -/
def Value.found : Decoder Found
  | .string text => .ok (.string text)
  | .integer n =>
    if -(signedLimit : Int) ≤ n && n < wordSize then .ok (.integer n)
    else if -(doubleLimit : Int) ≤ n && n < doubleLimit then .ok (.longInteger n true)
    else if 0 ≤ n && n < 2 * doubleLimit then .ok (.longInteger n false)
    else .error .integerOverflow
  | .badInteger => .error .integerOverflow
  | .float value => .ok (.float value)
  | .hugeFloat => .error .floatOverflow
  | .boolean value => .ok (.boolean value)
  | .datetime => .ok .map
  | .array _ => .ok .sequence
  | .table _ => .ok .map

/-- The error of a value of the wrong type. -/
def wrongType {α : Type} (expected : Text) (value : Value) : Except DataError α := do
  throw (.invalidType (← value.found) expected)

/-- Reads a string, which an error calls `expected`. -/
def readText (expected : Text) : Decoder Text
  | .string text => .ok text
  | value => wrongType expected value

/-- Reads a truth value. -/
def readBool : Decoder Bool
  | .boolean value => .ok value
  | value => wrongType "a boolean" value

/-- Reads a count, which fits in a machine word. -/
def readCount : Decoder UInt64
  | .integer n =>
    if 0 ≤ n && n < wordSize then .ok (UInt64.ofNat n.toNat)
    else if -(signedLimit : Int) ≤ n && n < 0 then .error (.invalidValue (.integer n) "usize")
    else wrongType "usize" (.integer n)
  | value => wrongType "usize" value

mutual

/-- Passes over a value. -/
def ignore : Value → Except DataError Unit
  | .array items => ignoreItems items
  | .table entries => ignoreEntries entries
  | .integer n => (Value.found (.integer n)).map fun _ => ()
  | .badInteger => .error .integerOverflow
  | .hugeFloat => .error .floatOverflow
  | .string _ | .float _ | .boolean _ | .datetime => .ok ()

/-- Passes over the items of an array. -/
def ignoreItems : List Value → Except DataError Unit
  | [] => .ok ()
  | value :: rest => do
    ignore value
    ignoreItems rest

/-- Passes over the entries of a table. -/
def ignoreEntries : List (Text × Value) → Except DataError Unit
  | [] => .ok ()
  | (_, value) :: rest => do
    ignore value
    ignoreEntries rest

end

/-- A field of a structure under construction: its name, and how a value is read into it. -/
structure FieldReader (α : Type) where
  name : Text
  read : α → Decoder α

/-- Reads the entries of a table into the fields they name. -/
def readEntries {α : Type} (fields : List (FieldReader α)) : α → Table → Except DataError α
  | built, [] => .ok built
  | built, (key, value) :: rest =>
    match fields.find? (·.name = key) with
    | some field => do readEntries fields (← field.read built value) rest
    | none => do
      ignore value
      readEntries fields built rest

/-- Reads the items of an array into the fields in their order. Items beyond the last field are not
looked at. -/
def readItems {α : Type} : List (FieldReader α) → α → List Value → Except DataError α
  | field :: fields, built, value :: rest => do
    readItems fields (← field.read built value) rest
  | _, built, _ => .ok built

/-- Reads a structure, which an error calls `expected`, onto `initial`. A date counts as a table
that names no field. -/
def readStructure {α : Type} (expected : Text) (fields : List (FieldReader α)) (initial : α) :
    Decoder α
  | .table entries => readEntries fields initial entries
  | .datetime => .ok initial
  | .array items => readItems fields initial items
  | value => wrongType expected value

/-- Reads an array item by item. -/
def readArray {α : Type} (item : Decoder α) : Decoder (List α)
  | .array items => items.mapM item
  | value => wrongType "a sequence" value

/-- Reads the empty table or array that may accompany a name. -/
def readNothing : Decoder Unit
  | .table [] => .ok ()
  | .table _ => .error .tableNotEmpty
  | .array [] => .ok ()
  | .array _ => .error .arrayNotEmpty
  | .string _ => .error (.notATable .string)
  | .integer _ | .badInteger => .error (.notATable .integer)
  | .float _ | .hugeFloat => .error (.notATable .float)
  | .boolean _ => .error (.notATable .boolean)
  | .datetime => .error (.notATable .datetime)

/-- Reads a choice: its name, or a table with its name as the only key and nothing under it. -/
def readChoice {α : Type} (names : List Text) (ofName? : Text → Option α) : Decoder α
  | .string name => choose name
  | .table [(name, value)] => do
    let choice ← choose name
    readNothing value
    return choice
  | .table [] => .error .noChoice
  | .table _ => .error .severalChoices
  | _ => .error .notAChoice
where
  /-- The choice of a given name. -/
  choose (name : Text) : Except DataError α :=
    match ofName? name with
    | some choice => .ok choice
    | none => .error (.unknownVariant name names)

end Runbook.Toml
