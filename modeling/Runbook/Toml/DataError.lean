import Runbook.Text.Quoted
import Runbook.Toml.Value

/-!
# Errors of reading data

A document may be well-formed and still not hold what is looked for. `DataError` says what was
found and what was expected, by the kinds of value of the document and by the names of what is read
from it.
-/

namespace Runbook.Toml

/-- What was found in a document. -/
inductive Found where
  | string (text : Text)
  | integer (value : Int)
  /-- A whole number that fits no word of 64 bits but one of 128, with or without sign. -/
  | longInteger (value : Int) (signed : Bool)
  | float (value : Binary)
  | boolean (value : Bool)
  | sequence
  | map
  deriving Repr, DecidableEq

/-- A truth value as it is written. -/
def boolText (value : Bool) : Text := if value then "true" else "false"

/-- What was found, in words. -/
def Found.message : Found → Text
  | .string text => "string " ++ Text.quoted text
  | .integer value => "integer `" ++ Text.ofInt value ++ "`"
  | .longInteger value signed =>
    "integer `" ++ Text.ofInt value ++ (if signed then "` as i128" else "` as u128")
  | .float value => "floating point `" ++ value.describe ++ "`"
  | .boolean value => "boolean `" ++ boolText value ++ "`"
  | .sequence => "sequence"
  | .map => "map"

/-- What kind of value stands where a name with an empty table was wanted. -/
inductive Kind where
  | string
  | integer
  | float
  | boolean
  | datetime
  deriving Repr, DecidableEq

/-- The kind in a word. -/
def Kind.name : Kind → Text
  | .string => "string"
  | .integer => "integer"
  | .float => "float"
  | .boolean => "boolean"
  | .datetime => "datetime"

/-- Why a value is not what is looked for. -/
inductive DataError where
  | invalidType (found : Found) (expected : Text)
  | invalidValue (found : Found) (expected : Text)
  | tooShort (length : Nat) (expected : Text)
  | missingField (name : Text)
  | unknownVariant (name : Text) (known : List Text)
  | integerOverflow
  | floatOverflow
  /-- Neither a name nor a table stands where a choice is wanted. -/
  | notAChoice
  /-- A table that makes a choice has no key. -/
  | noChoice
  /-- A table that makes a choice has more than one key. -/
  | severalChoices
  /-- A choice comes with a table that is not empty. -/
  | tableNotEmpty
  /-- A choice comes with an array that is not empty. -/
  | arrayNotEmpty
  /-- A choice comes with a value that is neither table nor array. -/
  | notATable (kind : Kind)
  deriving Repr, DecidableEq

/-- The names between back quotes, with commas between them. -/
def nameList (names : List Text) : Text :=
  List.intercalate ", " (names.map fun name => "`" ++ name ++ "`")

/-- The reason in words. -/
def DataError.message : DataError → Text
  | .invalidType found expected => "invalid type: " ++ found.message ++ ", expected " ++ expected
  | .invalidValue found expected => "invalid value: " ++ found.message ++ ", expected " ++ expected
  | .tooShort length expected =>
    "invalid length " ++ Text.ofNat length ++ ", expected " ++ expected
  | .missingField name => "missing field `" ++ name ++ "`"
  | .unknownVariant name known =>
    "unknown variant `" ++ name ++ "`, expected one of " ++ nameList known
  | .integerOverflow => "integer number overflowed"
  | .floatOverflow => "floating-point number overflowed"
  | .notAChoice => "wanted string or table"
  | .noChoice => "wanted exactly 1 element, found 0 elements"
  | .severalChoices => "wanted exactly 1 element, more than 1 element"
  | .tableNotEmpty => "expected empty table"
  | .arrayNotEmpty => "expected empty array"
  | .notATable kind => "expected table, found " ++ kind.name

/-- Why a text gives no data: it is no document, or its document does not hold what is wanted. -/
inductive ReadError where
  | malformed
  | unfit (reason : DataError)
  deriving Repr, DecidableEq

/-- The reason in words. -/
def ReadError.message : ReadError → Text
  | .malformed => "not a TOML document"
  | .unfit reason => reason.message

end Runbook.Toml
