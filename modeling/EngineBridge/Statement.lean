import EngineBridge.Policy
import EngineBridge.Text.Quoted
import EngineBridge.Value

/-!
# Prepared statements

A statement is prepared, steps from row to row, is done, and can be rewound; once
finalized it is gone for good.  Column values can be read while a row is current,
the names and types of columns at any time before that end.
-/

set_option autoImplicit false

namespace EngineBridge

open Native

variable {E : Engine} {H : Host}

/-- How far a statement has come. -/
inductive StatementState where
  /-- Not stepped yet, or rewound. -/
  | prepared
  /-- The last step gave a row. -/
  | stepping
  /-- The last step came to the end or failed. -/
  | done
  | finalized
deriving DecidableEq

/-- How a statement state is shown. -/
def StatementState.describe : StatementState → String
  | .prepared => "Prepared"
  | .stepping => "Stepping"
  | .done => "Done"
  | .finalized => "Finalized"

/-- A prepared statement. -/
structure Statement where
  /-- The connection that prepared it. -/
  connection : ConnectionId
  /-- The engine's object behind that connection. -/
  database : Database
  /-- The engine's object behind the statement, until it is finalized. -/
  handle : Option Program
  state : StatementState
  /-- The text that was prepared. -/
  sql : String
deriving DecidableEq

namespace Statement

/-- How a statement is shown. -/
def describe (stmt : Statement) : String :=
  "Statement \x7b sql: " ++ Text.quote stmt.sql ++ ", state: " ++ stmt.state.describe ++
    ", connection: " ++ stmt.connection.describe ++ " \x7d"

/-- The engine's object, unless the statement is finalized. -/
def live (stmt : Statement) : Fallible E H Program :=
  match stmt.handle with
  | some program => pure program
  | none => throw (.state .finalized)

/-- Make a call on a statement and take nothing but success. -/
def succeed (stmt : Statement) (c : Program → Call) (code : (p : Program) → (c p).Answer → Int32) :
    Fallible E H Unit := do
  let program ← stmt.live
  Fallible.succeed (some stmt.database) (c program) (code program)

/-- Rewind to before the first row.  The statement counts as rewound even if the engine
repeats the error of the last step. -/
def reset (stmt : Statement) : Bridge E H (Except BindError Unit × Statement) := do
  match stmt.handle with
  | none => pure (.error (.state .finalized), stmt)
  | some program =>
    let result ← (Fallible.succeed (some stmt.database) (.reset program) (·)).run
    pure (result, { stmt with state := .prepared })

/-- Finalize a statement.  The engine's object is gone even if the engine reports an
error. -/
def finalize (stmt : Statement) : Bridge E H (Except BindError Unit × Statement) := do
  match stmt.handle with
  | none => pure (.error (.state .finalized), stmt)
  | some program =>
    Bridge.report (.finalizing stmt.sql)
    let result ← (Fallible.succeed (some stmt.database) (.finalize program) (·)).run
    pure (result, { stmt with handle := none, state := .finalized })

/-- Let a statement go: unless it is finalized that is done now, and a failure is only
reported. -/
def drop (stmt : Statement) : Bridge E H Unit := do
  if stmt.handle.isSome then
    match (← stmt.finalize).1 with
    | .ok _ => pure ()
    | .error e => Bridge.report (.finalizeFailed e)

/-- Make all parameters null. -/
def clearBindings (stmt : Statement) : Fallible E H Unit :=
  stmt.succeed .clearBindings fun _ code => code

/-- Bind null to a parameter. -/
def bindNull (stmt : Statement) (index : Int32) : Fallible E H Unit :=
  stmt.succeed (.bindNull · index) fun _ code => code

/-- Bind a 32-bit integer to a parameter. -/
def bindInt (stmt : Statement) (index : Int32) (value : Int32) : Fallible E H Unit :=
  stmt.succeed (.bindInt · index value) fun _ code => code

/-- Bind a 64-bit integer to a parameter. -/
def bindInt64 (stmt : Statement) (index : Int32) (value : Int64) : Fallible E H Unit :=
  stmt.succeed (.bindInt64 · index value) fun _ code => code

/-- Bind a number to a parameter. -/
def bindDouble (stmt : Statement) (index : Int32) (value : Binary64) : Fallible E H Unit :=
  stmt.succeed (.bindDouble · index value) fun _ code => code

/-- Bind a text to a parameter; the engine copies it. -/
def bindText (stmt : Statement) (index : Int32) (value : String) : Fallible E H Unit := do
  let program ← stmt.live
  let buffer ← Fallible.ofExcept .ofCodec (Buffer.ofText value)
  Fallible.succeed (some stmt.database) (.bindText program index buffer transient) (·)

/-- Bind octets to a parameter; the engine copies them. -/
def bindBlob (stmt : Statement) (index : Int32) (value : Bytes) : Fallible E H Unit := do
  let program ← stmt.live
  let buffer ← Fallible.ofExcept .ofCodec (Buffer.ofBytes value)
  Fallible.succeed (some stmt.database) (.bindBlob program index buffer transient) (·)

/-- Bind a value to a parameter in its own storage class. -/
def bindValue (stmt : Statement) (index : Int32) : Value → Fallible E H Unit
  | .null => stmt.bindNull index
  | .integer v => stmt.bindInt64 index v
  | .real v => stmt.bindDouble index v
  | .text s => stmt.bindText index s
  | .blob bs => stmt.bindBlob index bs

/-- The largest parameter index. -/
def bindParameterCount (stmt : Statement) : Fallible E H Int32 := do
  let program ← stmt.live
  Fallible.lift (Bridge.call (.bindParameterCount program))

/-- The number of columns. -/
def columnCount (stmt : Statement) : Fallible E H Int32 := do
  let program ← stmt.live
  Fallible.lift (Bridge.call (.columnCount program))

/-- The engine's object, if the statement has a column with this index. -/
def column (stmt : Statement) (index : Int32) : Fallible E H Program := do
  let program ← stmt.live
  let count ← Fallible.lift (Bridge.call (.columnCount program))
  if index < 0 ∨ count ≤ index then throw (.state (.columnOutOfRange index count))
  pure program

/-- The engine's object, if a row is current and has a column with this index. -/
def rowColumn (stmt : Statement) (index : Int32) : Fallible E H Program := do
  if stmt.handle.isSome ∧ stmt.state ≠ .stepping then throw (.state .noCurrentRow)
  stmt.column index

/-- The name of a column. -/
def columnName (stmt : Statement) (index : Int32) : Fallible E H String := do
  let program ← stmt.column index
  let name ← Fallible.lift (Bridge.call (.columnName program index))
  Fallible.requiredString .columnName name

/-- The table that a column comes from, if it comes from one. -/
def columnTableName (stmt : Statement) (index : Int32) : Fallible E H (Option String) := do
  let program ← stmt.column index
  let name ← Fallible.lift (Bridge.call (.columnTableName program index))
  Fallible.string name

/-- The declared type of a column, if it has one. -/
def columnDecltype (stmt : Statement) (index : Int32) : Fallible E H (Option String) := do
  let program ← stmt.column index
  let name ← Fallible.lift (Bridge.call (.columnDecltype program index))
  Fallible.string name

/-- The storage class that the engine gives for a column of the current row. -/
def storedType (program : Program) (index : Int32) : Fallible E H ColumnType := do
  let code ← Fallible.lift (Bridge.call (.columnType program index))
  pure (.ofCode code)

/-- The storage class of a column. -/
def columnType (stmt : Statement) (index : Int32) : Fallible E H ColumnType := do
  let program ← stmt.rowColumn index
  storedType program index

/-- A column as text, or `none` for null.  The pointer is asked for before the length,
since the conversion to text decides the length. -/
def columnText (stmt : Statement) (index : Int32) : Fallible E H (Option String) := do
  let program ← stmt.rowColumn index
  if (← storedType program index) = .null then
    pure none
  else
    let pointer ← Fallible.lift (Bridge.call (.columnText program index))
    let length ← Fallible.lift (Bridge.call (.columnBytes program index))
    Fallible.ofExcept .ofCodec (decodeText pointer length)

/-- A column as octets, or `none` for null. -/
def columnBlob (stmt : Statement) (index : Int32) : Fallible E H (Option Bytes) := do
  let program ← stmt.rowColumn index
  if (← storedType program index) = .null then
    pure none
  else
    let pointer ← Fallible.lift (Bridge.call (.columnBlob program index))
    let length ← Fallible.lift (Bridge.call (.columnBytes program index))
    pure (decodeBlob pointer length)

/-- A column as a number. -/
def columnDouble (stmt : Statement) (index : Int32) : Fallible E H Binary64 := do
  let program ← stmt.rowColumn index
  Fallible.lift (Bridge.call (.columnDouble program index))

/-- A column as a 32-bit integer. -/
def columnInt (stmt : Statement) (index : Int32) : Fallible E H Int32 := do
  let program ← stmt.rowColumn index
  Fallible.lift (Bridge.call (.columnInt program index))

/-- A column as a 64-bit integer. -/
def columnInt64 (stmt : Statement) (index : Int32) : Fallible E H Int64 := do
  let program ← stmt.rowColumn index
  Fallible.lift (Bridge.call (.columnInt64 program index))

/-- The number of octets of a column. -/
def columnBytes (stmt : Statement) (index : Int32) : Fallible E H Int32 := do
  let program ← stmt.rowColumn index
  Fallible.lift (Bridge.call (.columnBytes program index))

/-- A column in its own storage class. -/
def columnValue (stmt : Statement) (index : Int32) : Fallible E H Value := do
  match ← stmt.columnType index with
  | .null => pure .null
  | .integer => pure (.integer (← stmt.columnInt64 index))
  | .float => pure (.real (← stmt.columnDouble index))
  | .text => pure (.ofOption .text (← stmt.columnText index))
  | .blob => pure (.ofOption .blob (← stmt.columnBlob index))

end Statement

end EngineBridge
