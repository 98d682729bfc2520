import EngineBridge.Upcall

/-!
# Steps of a session

A session is a list of steps on named slots: each slot holds a connection, a statement or
an interrupt handle.  A step names the slots that it is about and what it does there.
Steps register callbacks, and a callback may itself run steps.
-/

set_option autoImplicit false

namespace EngineBridge.Session

/-- The connection and the statement that a step is about. -/
structure Target where
  connection : Option String := none
  statement : Option String := none

namespace Target

/-- The connection slot of a step; one that is not named is the nameless one. -/
def connectionSlot (t : Target) : String := t.connection.getD ""

/-- The statement slot of a step; one that is not named is the nameless one. -/
def statementSlot (t : Target) : String := t.statement.getD ""

end Target

/-- What a step asks of a statement, other than to be prepared, moved or let go. -/
inductive Query where
  | bindNull (index : Int32)
  | bindInt (index : Int32) (value : Int32)
  | bindInt64 (index : Int32) (value : Int64)
  | bindDouble (index : Int32) (value : Binary64)
  | bindText (index : Int32) (value : String)
  | bindBlob (index : Int32) (value : Bytes)
  | bindValue (index : Int32) (value : Value)
  | clearBindings
  | bindParameterCount
  | columnCount
  | columnName (index : Int32)
  | columnTableName (index : Int32)
  | columnDecltype (index : Int32)
  | columnType (index : Int32)
  | columnText (index : Int32)
  | columnBlob (index : Int32)
  | columnDouble (index : Int32)
  | columnInt (index : Int32)
  | columnInt64 (index : Int32)
  | columnBytes (index : Int32)
  | columnValue (index : Int32)

mutual

/-- What a step does. -/
inductive Action (ι : Type) where
  -- with the slot of a connection
  | create
  | connect (path : String) (options : OpenOptions)
  | openWith (path : String) (options : OpenOptions)
  | close
  | dropConnection
  | executeBatch (sql : String)
  | busyTimeout (ms : UInt32)
  | registerBusyHandler (handler : HandlerBody ι)
  | clearBusyHandler
  | registerFunction (name : String) (arity : Int32) (flags : FunctionFlags)
      (function : FunctionBody ι)
  | removeFunction (name : String) (arity : Int32)
  | errmsg
  | version
  | changes
  | totalChanges
  | limit (limit : Limit) (value : Int32)
  | enableLoadExtension (on : Bool)
  | interrupt
  | keepInterruptHandle (slot : String)
  | describeConnection
  -- with no slot, or with that of an interrupt handle
  | enableSharedCache (on : Bool)
  | interruptBy (slot : String)
  -- with the slot of a statement
  | prepare (sql : String)
  | dropStatement
  | step
  | reset
  | finalize
  | query (query : Query)
  | describeStatement
  /-- The engine acts of its own accord. -/
  | stimulate (stimulus : ι)
  /-- A step that makes no sense. -/
  | invalid

/-- What a busy handler does. -/
inductive HandlerBody (ι : Type) where
  /-- Try again while there were fewer attempts. -/
  | whileBelow (n : Int)
  | panic (panic : Panic)
  /-- Run steps, then say whether to try again. -/
  | steps (steps : List (Target × Action ι)) (again : Bool)
  /-- Own the connection of a slot, and give up. -/
  | own (slot : String)
  /-- A handler that makes no sense. -/
  | invalid

/-- What a user function does. -/
inductive FunctionBody (ι : Type) where
  | constant (value : Value)
  /-- Give an argument, counted from zero. -/
  | argument (n : Int)
  /-- Describe all arguments. -/
  | describe
  /-- Count the arguments. -/
  | count
  /-- Add up the integers among the arguments. -/
  | sum
  /-- Give the first argument, which has to be a text. -/
  | text
  /-- Name the storage classes of the arguments. -/
  | kinds
  | error (message : String)
  | panic (panic : Panic)
  /-- Say how often the function has been run. -/
  | runs
  /-- Run steps, then give the first argument. -/
  | steps (steps : List (Target × Action ι))
  /-- Own the connection of a slot, and ask it for its changes. -/
  | own (slot : String)
  /-- A function that makes no sense. -/
  | invalid

end

/-- One step of a session. -/
abbrev Step (ι : Type) := Target × Action ι

end EngineBridge.Session
