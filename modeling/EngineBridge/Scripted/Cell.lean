import EngineBridge.Native.Call

/-!
# Native cells

What the engine holds for a value: its type code and its forms as an integer, a number, a
text and octets, each of which can be asked for.
-/

set_option autoImplicit false

namespace EngineBridge.Scripted

/-- A value as the engine holds it. -/
structure Cell where
  type : Int32 := 5
  int64 : Int64 := 0
  int : Int32 := 0
  double : Binary64 := .zero
  text : Option Bytes := none
  blob : Option Bytes := none
  bytes : Int32 := 0
deriving DecidableEq

namespace Cell

/-- The cell of a null. -/
def null : Cell := {}

/-- The cell of an integer, whose text is its decimal form. -/
def ofInt64 (v : Int64) : Cell :=
  let text := Utf8.encode (toString v.toInt)
  { type := 1, int64 := v, int := v.toInt32, double := .ofInt64 v, text := some text,
    blob := some text, bytes := Int32.ofNat text.length }

/-- The cell of a number. -/
def ofReal (x : Binary64) : Cell :=
  { type := 2, int64 := x.toInt64, int := x.toInt64.toInt32, double := x }

/-- The cell of a text, given by its octets. -/
def ofText (bs : Bytes) : Cell :=
  { type := 3, text := some bs, blob := some bs, bytes := Int32.ofNat bs.length }

/-- The cell of a value that is nothing but octets. -/
def ofBlob (bs : Bytes) : Cell :=
  { type := 4, text := some bs, blob := some bs, bytes := Int32.ofNat bs.length }

end Cell

/-- Where the engine takes a cell from. -/
inductive CellSource where
  /-- The cell itself. -/
  | given (cell : Cell)
  /-- What is bound to a parameter of the statement. -/
  | parameter (index : Int32)
  /-- The result of a user function. -/
  | call (name : String) (arguments : List CellSource)

end EngineBridge.Scripted
