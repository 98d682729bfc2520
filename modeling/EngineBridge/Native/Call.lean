import EngineBridge.Binary64
import EngineBridge.Codec
import EngineBridge.Slot
import EngineBridge.Symbol

/-!
# Native calls

The calls that the engine takes, with their arguments and the form of their answers.

A `Call` is answered at once.  An `Execution` runs a program of the engine, which may
call back before it ends.
-/

set_option autoImplicit false

namespace EngineBridge.Native

/-- The engine's object behind an open connection. -/
structure Database where
  number : Nat
deriving DecidableEq

/-- The engine's object behind a prepared statement. -/
structure Program where
  number : Nat
deriving DecidableEq

/-- One invocation of a user function, as the engine keeps it. -/
structure Context where
  number : Nat
deriving DecidableEq

/-- An argument of an invocation. -/
structure Argument where
  context : Context
  position : Nat
deriving DecidableEq

/-- The destructor that has the engine copy a value before it returns. -/
def transient : Int64 := -1

/-- A call that the engine answers at once. -/
inductive Call where
  | openV2 (path : CString) (flags : Int32) (vfs : Option CString)
  | closeV2 (database : Database)
  | errmsg (database : Database)
  | errstr (code : Int32)
  | libversion
  | prepareV2 (database : Database) (sql : CString) (size : Int32)
  | reset (program : Program)
  | finalize (program : Program)
  | clearBindings (program : Program)
  | bindParameterCount (program : Program)
  | bindNull (program : Program) (index : Int32)
  | bindInt (program : Program) (index : Int32) (value : Int32)
  | bindInt64 (program : Program) (index : Int32) (value : Int64)
  | bindDouble (program : Program) (index : Int32) (value : Binary64)
  | bindText (program : Program) (index : Int32) (value : Buffer) (destructor : Int64)
  | bindBlob (program : Program) (index : Int32) (value : Buffer) (destructor : Int64)
  | columnCount (program : Program)
  | columnType (program : Program) (index : Int32)
  | columnName (program : Program) (index : Int32)
  | columnTableName (program : Program) (index : Int32)
  | columnDecltype (program : Program) (index : Int32)
  | columnText (program : Program) (index : Int32)
  | columnBlob (program : Program) (index : Int32)
  | columnDouble (program : Program) (index : Int32)
  | columnInt (program : Program) (index : Int32)
  | columnInt64 (program : Program) (index : Int32)
  | columnBytes (program : Program) (index : Int32)
  /-- With `installed` the engine is to call back with `userData`, else not at all. -/
  | busyHandler (database : Database) (installed : Bool) (userData : Nat)
  | busyTimeout (database : Database) (milliseconds : Int32)
  /-- The flags say which of the entry points of the function are given. -/
  | createFunctionV2 (database : Database) (name : CString) (arity : Int32)
      (textRepresentation : Int32) (context : Option FunctionKey)
      (scalar step final destroy : Bool)
  | userData (context : Context)
  | valueType (argument : Argument)
  | valueInt64 (argument : Argument)
  | valueDouble (argument : Argument)
  | valueText (argument : Argument)
  | valueBlob (argument : Argument)
  | valueBytes (argument : Argument)
  | resultNull (context : Context)
  | resultText (context : Context) (value : Buffer) (destructor : Int64)
  | resultBlob (context : Context) (value : Buffer) (destructor : Int64)
  | resultDouble (context : Context) (value : Binary64)
  | resultInt (context : Context) (value : Int32)
  | resultInt64 (context : Context) (value : Int64)
  | resultError (context : Context) (message : Buffer)
  | limit (database : Database) (number : Int32) (value : Int32)
  | interrupt (database : Database)
  | changes (database : Database)
  | totalChanges (database : Database)
  | enableSharedCache (on : Bool)
  | enableLoadExtension (database : Database) (on : Bool)
deriving DecidableEq

/-- The answer to an attempt to open a database: a result code, and the object that was
made, if one was. -/
structure Opened where
  code : Int32
  database : Option Database
deriving DecidableEq

/-- The answer to an attempt to prepare a statement: a result code, the object that was
made, if one was, and where the text that was not used begins, as an offset from the
start of the text, if that was reported. -/
structure Prepared where
  code : Int32
  program : Option Program
  tail : Option Int
deriving DecidableEq

/-- The form of the answer to a call. -/
@[reducible] def Call.Answer : Call → Type
  | .openV2 .. => Opened
  | .prepareV2 .. => Prepared
  | .errmsg .. | .errstr .. | .libversion => Option CString
  | .columnName .. | .columnTableName .. | .columnDecltype .. => Option CString
  | .columnText .. | .columnBlob .. | .valueText .. | .valueBlob .. => Option Bytes
  | .columnDouble .. | .valueDouble .. => Binary64
  | .columnInt64 .. | .valueInt64 .. => Int64
  | .userData .. => Option FunctionKey
  | .resultNull .. | .resultText .. | .resultBlob .. | .resultDouble .. | .resultInt .. => Unit
  | .resultInt64 .. | .resultError .. | .interrupt .. => Unit
  | _ => Int32

/-- The export that a call goes to. -/
def Call.symbol : Call → Symbol
  | .openV2 .. => .openV2
  | .closeV2 .. => .closeV2
  | .errmsg .. => .errmsg
  | .errstr .. => .errstr
  | .libversion => .libversion
  | .prepareV2 .. => .prepareV2
  | .reset .. => .reset
  | .finalize .. => .finalize
  | .clearBindings .. => .clearBindings
  | .bindParameterCount .. => .bindParameterCount
  | .bindNull .. => .bindNull
  | .bindInt .. => .bindInt
  | .bindInt64 .. => .bindInt64
  | .bindDouble .. => .bindDouble
  | .bindText .. => .bindText
  | .bindBlob .. => .bindBlob
  | .columnCount .. => .columnCount
  | .columnType .. => .columnType
  | .columnName .. => .columnName
  | .columnTableName .. => .columnTableName
  | .columnDecltype .. => .columnDecltype
  | .columnText .. => .columnText
  | .columnBlob .. => .columnBlob
  | .columnDouble .. => .columnDouble
  | .columnInt .. => .columnInt
  | .columnInt64 .. => .columnInt64
  | .columnBytes .. => .columnBytes
  | .busyHandler .. => .busyHandler
  | .busyTimeout .. => .busyTimeout
  | .createFunctionV2 .. => .createFunctionV2
  | .userData .. => .userData
  | .valueType .. => .valueType
  | .valueInt64 .. => .valueInt64
  | .valueDouble .. => .valueDouble
  | .valueText .. => .valueText
  | .valueBlob .. => .valueBlob
  | .valueBytes .. => .valueBytes
  | .resultNull .. => .resultNull
  | .resultText .. => .resultText
  | .resultBlob .. => .resultBlob
  | .resultDouble .. => .resultDouble
  | .resultInt .. => .resultInt
  | .resultInt64 .. => .resultInt64
  | .resultError .. => .resultError
  | .limit .. => .limit
  | .interrupt .. => .interrupt
  | .changes .. => .changes
  | .totalChanges .. => .totalChanges
  | .enableSharedCache .. => .enableSharedCache
  | .enableLoadExtension .. => .enableLoadExtension

/-- A call that runs a program of the engine. -/
inductive Execution where
  /-- Run a prepared statement up to its next row. -/
  | step (program : Program)
  /-- Run all statements of a text.  Rows are not asked for, and errors are not either: no
  row callback, no context for one and no place for a message go with the call. -/
  | exec (database : Database) (sql : CString)
deriving DecidableEq

/-- The export that an execution goes to. -/
def Execution.symbol : Execution → Symbol
  | .step .. => .step
  | .exec .. => .exec

/-- An argument of a call as a transcript shows it. -/
inductive Operand where
  | database (d : Database)
  | program (p : Program)
  | integer (n : Int)
  | flag (b : Bool)
  | real (x : Binary64)
  | text (bs : Bytes)
  | octets (bs : Bytes)
  | missing
deriving DecidableEq

/-- The octets that belong to a value for the engine. -/
def content (value : Buffer) : Bytes :=
  readMemory value.memory value.length.toInt.toNat

/-- The arguments of a call, in order. -/
def Call.operands : Call → List Operand
  | .openV2 path flags vfs =>
    [.text path.content, .integer flags.toInt, (vfs.map fun v => .text v.content).getD .missing]
  | .closeV2 d | .errmsg d | .interrupt d | .changes d | .totalChanges d => [.database d]
  | .errstr code => [.integer code.toInt]
  | .libversion => []
  | .prepareV2 d sql size => [.database d, .text sql.content, .integer size.toInt]
  | .reset p | .finalize p | .clearBindings p | .bindParameterCount p | .columnCount p =>
    [.program p]
  | .bindNull p i => [.program p, .integer i.toInt]
  | .bindInt p i v => [.program p, .integer i.toInt, .integer v.toInt]
  | .bindInt64 p i v => [.program p, .integer i.toInt, .integer v.toInt]
  | .bindDouble p i v => [.program p, .integer i.toInt, .real v]
  | .bindText p i v destructor =>
    [.program p, .integer i.toInt, .text (content v), .integer v.length.toInt,
     .integer destructor.toInt]
  | .bindBlob p i v destructor =>
    [.program p, .integer i.toInt, .octets (content v), .integer v.length.toInt,
     .integer destructor.toInt]
  | .columnType p i | .columnName p i | .columnTableName p i | .columnDecltype p i
  | .columnText p i | .columnBlob p i | .columnDouble p i | .columnInt p i | .columnInt64 p i
  | .columnBytes p i => [.program p, .integer i.toInt]
  | .busyHandler d installed owner => [.database d, .flag installed, .integer owner]
  | .busyTimeout d ms => [.database d, .integer ms.toInt]
  | .createFunctionV2 d name arity rep context scalar step final destroy =>
    [.database d, .text name.content, .integer arity.toInt, .integer rep.toInt,
     .flag context.isSome, .flag scalar, .flag step, .flag final, .flag destroy]
  | .userData _ | .resultNull _ => []
  | .valueType a | .valueInt64 a | .valueDouble a | .valueText a | .valueBlob a
  | .valueBytes a => [.integer a.position]
  | .resultText _ v destructor =>
    [.text (content v), .integer v.length.toInt, .integer destructor.toInt]
  | .resultBlob _ v destructor =>
    [.octets (content v), .integer v.length.toInt, .integer destructor.toInt]
  | .resultDouble _ v => [.real v]
  | .resultInt _ v => [.integer v.toInt]
  | .resultInt64 _ v => [.integer v.toInt]
  | .resultError _ message => [.text (content message), .integer message.length.toInt]
  | .limit d number value => [.database d, .integer number.toInt, .integer value.toInt]
  | .enableSharedCache on => [.integer on.toInt]
  | .enableLoadExtension d on => [.database d, .integer on.toInt]

/-- The arguments of an execution, in order. -/
def Execution.operands : Execution → List Operand
  | .step p => [.program p]
  | .exec d sql => [.database d, .text sql.content, .flag false, .flag false, .flag false]

end EngineBridge.Native
