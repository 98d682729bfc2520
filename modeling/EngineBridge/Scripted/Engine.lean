import EngineBridge.Native.Engine
import EngineBridge.Scripted.State

/-!
# The scripted engine

An engine that runs no SQL and does what a script says.  It keeps the tables that an
engine keeps of its databases, statements, functions and handlers, so that what it does by
default fits the calls it has taken.
-/

set_option autoImplicit false

namespace EngineBridge.Scripted

open Native

/-- Octets with their ASCII letters in lower case. -/
def foldOctets (bs : Bytes) : Bytes :=
  bs.map fun b => if 65 ≤ b ∧ b ≤ 90 then b + 32 else b

/-- A result code whose default is success. -/
def Reaction.codeOrOk (r : Reaction) : Int32 := r.code.getD 0

/-- Bind a cell to a parameter. -/
def bindCell (s : State) (symbol : Symbol) (p : Program) (index : Int32) (cell : Cell) :
    Int32 × State :=
  let (r, s) := s.reactOn symbol p
  let count := ((s.program? p).map (·.parameters)).getD 0
  let fits : Bool := 1 ≤ index ∧ index ≤ count
  let (code, s) := match r.code, fits, s.databaseOf p with
    | some code, _, _ => (code, s)
    | none, true, _ => (0, s)
    | none, false, some d => (25, s.sayText d "column index out of range")
    | none, false, none => (25, s)
  if code = 0 ∧ fits then
    (code, s.onProgram p fun q => { q with bound := (index, cell) :: q.bound })
  else (code, s)

/-- Take the result of an invocation. -/
def setResult (s : State) (c : Context) (result : FunctionResult) : State :=
  s.onInvocation c fun i => { i with result := some result }

/-- Make a database, or fail to. -/
def openDatabase (s : State) : Opened × State :=
  let (item, s) := s.take .openV2
  let r := (item.map Item.toReaction).getD {}
  if r.makesObject then
    let d : Database := ⟨s.databases.length + 1⟩
    let s := { s with databases := s.databases ++ [DatabaseState.fresh] }
    (⟨r.codeOrOk, some d⟩, s.leaveMessage (some d) r)
  else (⟨r.codeOrOk, none⟩, s)

/-- Make a statement, or fail to. -/
def prepareProgram (s : State) (d : Database) (sql : CString) : Prepared × State :=
  let (r, s) := s.react .prepareV2 (some d)
  let tail := r.tail.getD (some sql.content.length)
  if r.codeOrOk = 0 ∧ r.makesObject then
    let program : ProgramState :=
      { database := d, columns := r.columns, parameters := r.parameters, rows := r.rows,
        coming := r.rows }
    (⟨r.codeOrOk, some ⟨s.programs.length + 1⟩, tail⟩,
      { s with programs := s.programs ++ [program] })
  else (⟨r.codeOrOk, none, tail⟩, s)

/-- The table of functions after a function has been registered or removed. -/
def changeFunctions (functions : List ((Bytes × Int32) × Option FunctionKey)) (name : CString)
    (arity : Int32) (key : Option FunctionKey) (keep : Bool) :
    List ((Bytes × Int32) × Option FunctionKey) :=
  let entry := (foldOctets name.content, arity)
  let others := functions.filter (·.1 != entry)
  if keep then (entry, key) :: others else others

/-- The answer to a call. -/
def answer (s : State) : (c : Call) → c.Answer × State
  | .openV2 .. => openDatabase s
  | .closeV2 d =>
    let (r, s) := s.react .closeV2 (some d)
    if r.codeOrOk = 0 then (0, s.onDatabase d fun db => { db with functions := [] })
    else (r.codeOrOk, s)
  | .errmsg d => s.text .errmsg ((s.database? d).bind (·.message))
  | .errstr code => s.text .errstr (some (Utf8.encode s!"code {code.toInt}"))
  | .libversion => s.text .libversion (some (Utf8.encode "3.0.0-scripted"))
  | .prepareV2 d sql _ => prepareProgram s d sql
  | .reset p =>
    let (r, s) := s.reactOn .reset p
    let code := r.code.getD (((s.program? p).map (·.remembered)).getD 0)
    (code, s.onProgram p fun q =>
      { q with remembered := 0, coming := q.rows, current := none })
  | .finalize p =>
    let (r, s) := s.reactOn .finalize p
    (r.code.getD (((s.program? p).map (·.remembered)).getD 0), s)
  | .clearBindings p =>
    let (r, s) := s.reactOn .clearBindings p
    if r.codeOrOk = 0 then (0, s.onProgram p fun q => { q with bound := [] })
    else (r.codeOrOk, s)
  | .bindParameterCount p =>
    s.number .bindParameterCount (((s.program? p).map (·.parameters)).getD 0)
  | .bindNull p i => bindCell s .bindNull p i .null
  | .bindInt p i v => bindCell s .bindInt p i (.ofInt64 v.toInt64)
  | .bindInt64 p i v => bindCell s .bindInt64 p i (.ofInt64 v)
  | .bindDouble p i v => bindCell s .bindDouble p i (.ofReal v)
  | .bindText p i v _ => bindCell s .bindText p i (.ofText (content v))
  | .bindBlob p i v _ => bindCell s .bindBlob p i (.ofBlob (content v))
  | .columnCount p =>
    s.number .columnCount (Int32.ofNat (((s.program? p).map (·.columns)).getD []).length)
  | .columnType p i => s.number .columnType (s.cell p i).type
  | .columnName p i => s.text .columnName (s.column p i).name
  | .columnTableName p i => s.text .columnTableName (s.column p i).table
  | .columnDecltype p i => s.text .columnDecltype (s.column p i).decltype
  | .columnText p i => ((s.cell p i).text, s)
  | .columnBlob p i => ((s.cell p i).blob, s)
  | .columnDouble p i => ((s.cell p i).double, s)
  | .columnInt p i => ((s.cell p i).int, s)
  | .columnInt64 p i => ((s.cell p i).int64, s)
  | .columnBytes p i => ((s.cell p i).bytes, s)
  | .busyHandler d installed userData =>
    let (r, s) := s.react .busyHandler (some d)
    if r.codeOrOk = 0 then
      (0, s.onDatabase d fun db => { db with handler := if installed then some userData else none })
    else (r.codeOrOk, s)
  | .busyTimeout d _ =>
    let (r, s) := s.react .busyTimeout (some d)
    if r.codeOrOk = 0 then (0, s.onDatabase d fun db => { db with handler := none })
    else (r.codeOrOk, s)
  | .createFunctionV2 d name arity _ key scalar _ _ _ =>
    let (r, s) := s.react .createFunctionV2 (some d)
    if r.codeOrOk = 0 ∧ ¬ r.keepsFunctions then
      (0, s.onDatabase d fun db =>
        { db with functions := changeFunctions db.functions name arity key scalar })
    else (r.codeOrOk, s)
  | .userData c =>
    match s.take .userData with
    | (some _, s) => (none, s)
    | (none, s) => ((s.invocation? c).bind (·.key), s)
  | .valueType a => s.number .valueType (s.argument a).type
  | .valueInt64 a => ((s.argument a).int64, s)
  | .valueDouble a => ((s.argument a).double, s)
  | .valueText a => ((s.argument a).text, s)
  | .valueBlob a => ((s.argument a).blob, s)
  | .valueBytes a => ((s.argument a).bytes, s)
  | .resultNull c => ((), setResult s c .null)
  | .resultText c v _ => ((), setResult s c (.text (content v)))
  | .resultBlob c v _ => ((), setResult s c (.blob (content v)))
  | .resultDouble c v => ((), setResult s c (.double v))
  | .resultInt c v => ((), setResult s c (.int v))
  | .resultInt64 c v => ((), setResult s c (.int64 v))
  | .resultError c message => ((), setResult s c (.error (content message)))
  | .limit d number value =>
    let stored := ((s.database? d).map (·.limits)).getD []
    let old := (stored.lookup number).getD (100 * (number + 1))
    let (old, s) := s.number .limit old
    if 0 ≤ value then
      (old, s.onDatabase d fun db => { db with limits := (number, value) :: db.limits })
    else (old, s)
  | .interrupt _ => ((), s)
  | .changes _ => s.number .changes 0
  | .totalChanges _ => s.number .totalChanges 0
  | .enableSharedCache _ =>
    let (r, s) := s.react .enableSharedCache none
    (r.codeOrOk, s)
  | .enableLoadExtension d _ =>
    let (r, s) := s.react .enableLoadExtension (some d)
    (r.codeOrOk, s)

/-- Invoke a user function on some cells: its result, if it sets one. -/
def invoke (key : Option FunctionKey) (cells : List Cell) (count : Int32) (nullArguments : Bool)
    (s : State) : Reply State (Option FunctionResult) :=
  let context : Context := ⟨s.invocations.length + 1⟩
  let arguments := (List.range cells.length).map fun position => (⟨context, position⟩ : Argument)
  .function context count (if nullArguments then none else some arguments)
    { s with invocations := s.invocations ++ [{ key, arguments := cells }] }
    fun s => .done ((s.invocation? context).bind (·.result)) s

/-- The function of a database with a name and an arity. -/
def function? (s : State) (d : Database) (name : Bytes) (arity : Int32) :
    Option (Option FunctionKey) :=
  (((s.database? d).map (·.functions)).getD []).lookup (foldOctets name, arity)

/-- Invoke the function that a name stands for: the one for this number of arguments, or
else the one for any number. -/
def invokeNamed (d : Database) (name : String) (cells : List Cell) (s : State) :
    Reply State (Except Bytes Cell) :=
  let octets := Utf8.encode name
  match (function? s d octets (Int32.ofNat cells.length)).or (function? s d octets (-1)) with
  | none => .done (.error (Utf8.encode s!"no such function: {name}")) s
  | some key =>
    (invoke key cells (Int32.ofNat cells.length) false s).bind fun result s =>
      .done ((result.getD .null).toCell) s

mutual

/-- The cell from a source, or the message of an error. -/
def evaluate (p : Option Program) (d : Database) :
    CellSource → State → Reply State (Except Bytes Cell)
  | .given cell, s => .done (.ok cell) s
  | .parameter index, s => .done (.ok ((p.map fun p => s.parameter p index).getD .null)) s
  | .call name arguments, s =>
    (evaluateAll p d arguments s).bind fun cells s =>
      match cells with
      | .error message => .done (.error message) s
      | .ok cells => invokeNamed d name cells s

/-- The cells from several sources in order, or the message of the first error. -/
def evaluateAll (p : Option Program) (d : Database) :
    List CellSource → State → Reply State (Except Bytes (List Cell))
  | [], s => .done (.ok []) s
  | source :: rest, s =>
    (evaluate p d source s).bind fun cell s =>
      match cell with
      | .error message => .done (.error message) s
      | .ok cell =>
        (evaluateAll p d rest s).bind fun cells s =>
          match cells with
          | .error message => .done (.error message) s
          | .ok cells => .done (.ok (cell :: cells)) s

end

/-- Wait for a lock that is free after so many more attempts, asking the busy handler each
time, and then go on. -/
def contend (d : Database) (otherwise : State → Reply State Int32) :
    Nat → Nat → State → Reply State Int32
  | 0, _, s => otherwise s
  | more + 1, attempts, s =>
    let locked (s : State) : Reply State Int32 := .done 5 (s.sayText d "database is locked")
    match (s.database? d).bind (·.handler) with
    | none => locked s
    | some userData =>
      .busy userData (Int32.ofNat attempts) s fun code s =>
        if code = 0 then locked s else contend d otherwise more (attempts + 1) s

/-- The course of an execution with a reaction and a default. -/
def follow (r : Reaction) (d : Database) (otherwise : State → Reply State Int32) (s : State) :
    Reply State Int32 :=
  match r.lockedFor, r.code with
  | some n, _ => contend d otherwise n.toNat 0 s
  | none, some code => .done code s
  | none, none => otherwise s

/-- Go on to the next row of a statement. -/
def advance (p : Program) (q : ProgramState) (s : State) : Reply State Int32 :=
  match q.coming with
  | [] => .done 101 (s.onProgram p fun q => { q with current := none })
  | row :: rest =>
    let s := s.onProgram p fun q => { q with coming := rest, current := none }
    (evaluateAll (some p) q.database row s).bind fun cells s =>
      match cells with
      | .error message => .done 1 (s.say q.database (some message))
      | .ok cells => .done 100 (s.onProgram p fun q => { q with current := some cells })

/-- The code that rewinding repeats after a step has ended with a code. -/
def remember (code : Int32) : Int32 :=
  if code = 0 ∨ code = 100 ∨ code = 101 then 0 else code

/-- The course of an execution. -/
def execute (s : State) : Execution → Reply State Int32
  | .step p =>
    match s.program? p with
    | none => .done 21 s
    | some q =>
      let (r, s) := s.react .step (some q.database)
      (follow r q.database (advance p q) s).bind fun code s =>
        .done code (s.onProgram p fun q => { q with remembered := remember code })
  | .exec d _ =>
    let (r, s) := s.react .exec (some d)
    follow r d (.done 0) s

/-- What can move the scripted engine to act of its own accord. -/
inductive Stimulus where
  /-- Invoke the function with exactly this name and arity.  A count may replace the number
  of arguments, up to that number. -/
  | invoke (database : Database) (name : String) (arity : Int32) (arguments : List CellSource)
      (count : Option Int32) (nullArguments : Bool)
  /-- Ask the busy handler. -/
  | contend (database : Database) (attempts : Int32)
  /-- Go on with more of a script. -/
  | extend (script : Script)

/-- What is seen of such an act. -/
inductive Response where
  | nothing
  /-- What the busy handler said. -/
  | said (code : Int32)
  /-- The result that a function set, if it set one. -/
  | result (result : Option FunctionResult)
deriving DecidableEq

/-- The course of an act of the engine's own accord. -/
def stimulate (s : State) : Stimulus → Reply State Response
  | .invoke d name arity arguments count nullArguments =>
    match function? s d (Utf8.encode name) arity with
    | none => .done .nothing s
    | some key =>
      (evaluateAll none d arguments s).bind fun cells s =>
        match cells with
        | .error message => .done (.result (some (.error message))) s
        | .ok cells =>
          let all := Int32.ofNat cells.length
          let given := match count with
            | none => all
            | some n => if n < all then n else all
          (Scripted.invoke key cells given nullArguments s).bind fun result s =>
            .done (.result result) s
  | .contend d attempts =>
    match (s.database? d).bind (·.handler) with
    | none => .done .nothing s
    | some userData => .busy userData attempts s fun code s => .done (.said code) s
  | .extend script => .done .nothing { s with script := s.script.append script }

/-- The engine that does what a script says. -/
@[reducible] def engine : Engine where
  State := State
  Stimulus := Stimulus
  Response := Response
  answer := answer
  execute := execute
  stimulate := stimulate

end EngineBridge.Scripted
