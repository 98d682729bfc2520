import EngineBridge.Scripted.Script

/-!
# The state of the scripted engine

Databases, statements and invocations are numbered from one in the order in which they
are made.
-/

set_option autoImplicit false

namespace EngineBridge.Scripted

open Native

/-- An open database. -/
structure DatabaseState where
  /-- The last message; it may be a null. -/
  message : Option Bytes := some (Utf8.encode "not an error")
  /-- The context of the busy handler, if there is one. -/
  handler : Option Nat := none
  /-- The context of each registered function, by folded name and arity. -/
  functions : List ((Bytes × Int32) × Option FunctionKey) := []
  /-- The limits that have been set. -/
  limits : List (Int32 × Int32) := []

/-- A database that was just opened. -/
def DatabaseState.fresh : DatabaseState := {}

/-- A prepared statement. -/
structure ProgramState where
  database : Database
  columns : List Column
  parameters : Int32
  /-- All rows. -/
  rows : List (List CellSource)
  /-- The rows that are still to come. -/
  coming : List (List CellSource)
  /-- The row that is current, if one is. -/
  current : Option (List Cell) := none
  /-- The result code that rewinding repeats. -/
  remembered : Int32 := 0
  /-- What is bound to parameters, the latest first. -/
  bound : List (Int32 × Cell) := []

/-- The result of a user function. -/
inductive FunctionResult where
  | null
  | int (v : Int32)
  | int64 (v : Int64)
  | double (v : Binary64)
  | text (bs : Bytes)
  | blob (bs : Bytes)
  | error (message : Bytes)
deriving DecidableEq

/-- The cell of a result, or the message of an error. -/
def FunctionResult.toCell : FunctionResult → Except Bytes Cell
  | .null => .ok .null
  | .int v => .ok (.ofInt64 v.toInt64)
  | .int64 v => .ok (.ofInt64 v)
  | .double v => .ok (.ofReal v)
  | .text bs => .ok (.ofText bs)
  | .blob bs => .ok (.ofBlob bs)
  | .error message => .error message

/-- An invocation of a user function. -/
structure Invocation where
  key : Option FunctionKey
  arguments : List Cell
  result : Option FunctionResult := none

/-- The state of the scripted engine. -/
structure State where
  script : Script := {}
  databases : List DatabaseState := []
  programs : List ProgramState := []
  invocations : List Invocation := []

namespace State

/-- A list with the element at a position counted from one changed. -/
def adjust {α : Type} (xs : List α) (number : Nat) (change : α → α) : List α :=
  if number = 0 then xs else xs.modify (number - 1) change

/-- The element at a position counted from one. -/
def pick {α : Type} (xs : List α) (number : Nat) : Option α :=
  if number = 0 then none else xs[number - 1]?

/-- A database. -/
def database? (s : State) (d : Database) : Option DatabaseState := pick s.databases d.number

/-- A statement. -/
def program? (s : State) (p : Program) : Option ProgramState := pick s.programs p.number

/-- An invocation. -/
def invocation? (s : State) (c : Context) : Option Invocation := pick s.invocations c.number

/-- The state with a database changed. -/
def onDatabase (s : State) (d : Database) (change : DatabaseState → DatabaseState) : State :=
  { s with databases := adjust s.databases d.number change }

/-- The state with a statement changed. -/
def onProgram (s : State) (p : Program) (change : ProgramState → ProgramState) : State :=
  { s with programs := adjust s.programs p.number change }

/-- The state with an invocation changed. -/
def onInvocation (s : State) (c : Context) (change : Invocation → Invocation) : State :=
  { s with invocations := adjust s.invocations c.number change }

/-- The next item for an export. -/
def take (s : State) (symbol : Symbol) : Option Item × State :=
  let (item, script) := s.script.take symbol
  (item, { s with script })

/-- The state with the message of a database changed. -/
def say (s : State) (d : Database) (message : Option Bytes) : State :=
  s.onDatabase d fun db => { db with message }

/-- The state with the message of a database changed to a text. -/
def sayText (s : State) (d : Database) (text : String) : State :=
  s.say d (some (Utf8.encode text))

/-- The state after a reaction on a database has left its message: the scripted one, or
one made from a scripted result code that is a failure. -/
def leaveMessage (s : State) (d : Option Database) (r : Reaction) : State :=
  match d, r.message, r.code with
  | none, _, _ => s
  | some d, some message, _ => s.say d message
  | some d, none, some code =>
    if code = 0 ∨ code = 100 ∨ code = 101 then s else s.sayText d s!"rc {code.toInt}"
  | some _, none, none => s

/-- The reaction to a call on a database, its message already left behind. -/
def react (s : State) (symbol : Symbol) (d : Option Database) : Reaction × State :=
  let (item, s) := s.take symbol
  let r := (item.map Item.toReaction).getD {}
  (r, s.leaveMessage d r)

/-- A scripted number, or the default. -/
def number (s : State) (symbol : Symbol) (default : Int32) : Int32 × State :=
  let (item, s) := s.take symbol
  ((item.map Item.toNumber).getD default, s)

/-- A scripted text, or the default. -/
def text (s : State) (symbol : Symbol) (default : Option Bytes) : Option CString × State :=
  let (item, s) := s.take symbol
  (((item.map Item.toText).getD default).map CString.ofBytes, s)

/-- The database of a statement. -/
def databaseOf (s : State) (p : Program) : Option Database :=
  (s.program? p).map (·.database)

/-- The reaction to a call on a statement, its message already left behind. -/
def reactOn (s : State) (symbol : Symbol) (p : Program) : Reaction × State :=
  s.react symbol (s.databaseOf p)

/-- A cell of the current row of a statement; the null cell if there is none. -/
def cell (s : State) (p : Program) (index : Int32) : Cell :=
  let row := ((s.program? p).bind (·.current)).getD []
  if index < 0 then .null else row[index.toInt.toNat]?.getD .null

/-- A column of a statement; one without names if there is none. -/
def column (s : State) (p : Program) (index : Int32) : Column :=
  let columns := ((s.program? p).map (·.columns)).getD []
  if index < 0 then {} else columns[index.toInt.toNat]?.getD {}

/-- The cell of an argument; the null cell if there is none. -/
def argument (s : State) (a : Argument) : Cell :=
  (((s.invocation? a.context).map (·.arguments)).getD [])[a.position]?.getD .null

/-- What is bound to a parameter; the null cell if nothing is. -/
def parameter (s : State) (p : Program) (index : Int32) : Cell :=
  (((s.program? p).map (·.bound)).getD []).lookup index |>.getD .null

end State

end EngineBridge.Scripted
