import EngineBridge.Binary64
import EngineBridge.Text.Utf8

/-!
# Values

The values that statements and user functions exchange with the engine, and their
storage classes.
-/

set_option autoImplicit false

namespace EngineBridge

/-- The storage class of a value. -/
inductive ColumnType where
  | integer
  | float
  | text
  | blob
  | null
deriving DecidableEq

namespace ColumnType

/-- The storage class with a native type code; unknown codes count as null. -/
def ofCode (code : Int32) : ColumnType :=
  if code = 1 then .integer
  else if code = 2 then .float
  else if code = 3 then .text
  else if code = 4 then .blob
  else .null

/-- How a storage class is shown. -/
def describe : ColumnType → String
  | .integer => "Integer"
  | .float => "Float"
  | .text => "Text"
  | .blob => "Blob"
  | .null => "Null"

end ColumnType

/-- A dynamically typed value. -/
inductive Value where
  | null
  | integer (v : Int64)
  | real (v : Binary64)
  | text (s : String)
  | blob (bs : Bytes)
deriving DecidableEq

namespace Value

/-- The storage class of a value. -/
def columnType : Value → ColumnType
  | .null => .null
  | .integer _ => .integer
  | .real _ => .float
  | .text _ => .text
  | .blob _ => .blob

/-- The integer, if the value is one. -/
def asInt64 : Value → Option Int64
  | .integer v => some v
  | _ => none

/-- The text, if the value is one. -/
def asText : Value → Option String
  | .text s => some s
  | _ => none

/-- Equality of values, numbers being compared as numbers and not as bits. -/
def agrees : Value → Value → Bool
  | .real x, .real y => x.sameNumber y
  | v, w => v == w

/-- The value of a 32-bit integer. -/
def ofInt32 (v : Int32) : Value := .integer v.toInt64

/-- The value of something that may be missing. -/
def ofOption {α : Type} (convert : α → Value) : Option α → Value
  | none => .null
  | some a => convert a

end Value

end EngineBridge
