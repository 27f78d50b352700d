import Runbook.Decimal.Binary

/-!
# Values of a TOML document

A document is a table from keys to values. Whole numbers are kept exactly, of any size. Of a date or
a time only its being one is kept, since nothing is read from it.
-/

namespace Runbook.Toml

/-- A value of a document. -/
inductive Value where
  | string (text : Text)
  | integer (value : Int)
  /-- A whole number without a value: it has no digits, or something else among them. -/
  | badInteger
  | float (value : Binary)
  /-- A decimal beyond the range of floating-point numbers. -/
  | hugeFloat
  | boolean (value : Bool)
  | datetime
  | array (items : List Value)
  /-- The entries of a table, each key once, in the order of the keys. -/
  | table (entries : List (Text × Value))
  deriving Repr

/-- A table: its keys with their values. -/
abbrev Table := List (Text × Value)

end Runbook.Toml
