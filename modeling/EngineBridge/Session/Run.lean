import EngineBridge.Session.Callback

/-!
# Running sessions

A session runs step by step.  Steps that callbacks run are nested one level deeper, down
to a fixed depth.
-/

set_option autoImplicit false

namespace EngineBridge.Session

open Native

variable {E : Engine}

/-- Put a question to a statement. -/
def Query.ask (stmt : Statement) : Query → Fallible E (host E) (Payload E.Response)
  | .bindNull i => do stmt.bindNull i; pure .nothing
  | .bindInt i v => do stmt.bindInt i v; pure .nothing
  | .bindInt64 i v => do stmt.bindInt64 i v; pure .nothing
  | .bindDouble i v => do stmt.bindDouble i v; pure .nothing
  | .bindText i v => do stmt.bindText i v; pure .nothing
  | .bindBlob i v => do stmt.bindBlob i v; pure .nothing
  | .bindValue i v => do stmt.bindValue i v; pure .nothing
  | .clearBindings => do stmt.clearBindings; pure .nothing
  | .bindParameterCount => do pure (.integer (← stmt.bindParameterCount).toInt)
  | .columnCount => do pure (.integer (← stmt.columnCount).toInt)
  | .columnName i => do pure (.text (some (← stmt.columnName i)))
  | .columnTableName i => do pure (.text (← stmt.columnTableName i))
  | .columnDecltype i => do pure (.text (← stmt.columnDecltype i))
  | .columnType i => do pure (.text (some (← stmt.columnType i).describe))
  | .columnText i => do pure (.text (← stmt.columnText i))
  | .columnBlob i => do pure (.octets (← stmt.columnBlob i))
  | .columnDouble i => do pure (.real (← stmt.columnDouble i))
  | .columnInt i => do pure (.integer (← stmt.columnInt i).toInt)
  | .columnInt64 i => do pure (.integer (← stmt.columnInt64 i).toInt)
  | .columnBytes i => do pure (.integer (← stmt.columnBytes i).toInt)
  | .columnValue i => do pure (.value (← stmt.columnValue i))

/-- Run something during which calls on a connection are in progress. -/
def engage {α : Type} (id : ConnectionId) (computation : SessionM E α) : SessionM E α := do
  update fun s => { s with engaged := id :: s.engaged }
  let a ← computation
  update fun s => { s with engaged := s.engaged.erase id }
  pure a

/-- Take a step of the statement in a slot, which is in use meanwhile. -/
def advance (cb : Callbacks E (host E)) (slot : String) (stmt : Statement) :
    SessionM E (Except BindError StepOutcome) := do
  update fun s => { s with stepping := slot :: s.stepping }
  let (result, stmt) ← engage stmt.connection (stmt.step cb)
  update fun s => { s with stepping := s.stepping.erase slot }
  putStatement slot stmt
  pure result

/-- The result of an operation that has changed a handle, once the handle is back in its
place. -/
def Attempt.settle {α : Type} (result : Except BindError α) : Attempt E α :=
  match result with
  | .ok a => pure a
  | .error e => throw (.operation e)

open Attempt in
/-- Do what a step says, callbacks running by `cb`. -/
def act (cb : Callbacks E (host E)) (t : Target) :
    Action E.Stimulus → Attempt E (Payload E.Response)
  | .create => do
    vacate t.connectionSlot
    lift (do putConnection t.connectionSlot (← Connection.create))
    pure .nothing
  | .connect path options => do
    vacate t.connectionSlot
    let conn ← operation (Connection.connectWith path options)
    lift (putConnection t.connectionSlot conn)
    pure .nothing
  | .openWith path options => do
    let conn ← exclusive t.connectionSlot
    let (result, conn) ← lift (conn.openWith path options)
    lift (putConnection t.connectionSlot conn)
    settle result
    pure .nothing
  | .close => do
    let conn ← exclusive t.connectionSlot
    let (result, conn) ← lift conn.close
    lift (putConnection t.connectionSlot conn)
    settle result
    pure .nothing
  | .dropConnection => do
    let conn ← exclusive t.connectionSlot
    lift (dropConnection t.connectionSlot conn)
    pure .nothing
  | .executeBatch sql => do
    let conn ← connection t.connectionSlot
    let result ← lift (engage conn.id (conn.executeBatch cb sql).run)
    settle result
    pure .nothing
  | .busyTimeout ms => do
    let conn ← connection t.connectionSlot
    operation (conn.busyTimeout ms)
    pure .nothing
  | .registerBusyHandler body => do
    let closure ← handler body
    match (← lift state).connections.get? t.connectionSlot with
    | none =>
      lift (Bridge.dispose [.busy closure])
      throw .noSlot
    | some conn =>
      operation (conn.registerBusyHandler closure)
      pure .nothing
  | .clearBusyHandler => do
    let conn ← connection t.connectionSlot
    operation conn.clearBusyHandler
    pure .nothing
  | .registerFunction name arity flags body => do
    let closure ← function body
    match (← lift state).connections.get? t.connectionSlot with
    | none =>
      lift (Bridge.dispose [.function closure])
      throw .noSlot
    | some conn =>
      operation (conn.registerFunction name arity flags closure)
      pure .nothing
  | .removeFunction name arity => do
    let conn ← connection t.connectionSlot
    operation (conn.removeFunction name arity)
    pure .nothing
  | .errmsg => do
    let conn ← connection t.connectionSlot
    pure (.text (some (← operation conn.errmsg)))
  | .version => do
    let _ ← connection t.connectionSlot
    pure (.text (some (← operation Library.version)))
  | .changes => do
    let conn ← connection t.connectionSlot
    pure (.integer (← operation conn.changes).toInt)
  | .totalChanges => do
    let conn ← connection t.connectionSlot
    pure (.integer (← operation conn.totalChanges).toInt)
  | .limit limit value => do
    let conn ← connection t.connectionSlot
    pure (.integer (← operation (conn.limit limit value)).toInt)
  | .enableLoadExtension on => do
    let conn ← connection t.connectionSlot
    operation (conn.enableLoadExtension on)
    pure .nothing
  | .interrupt => do
    let conn ← connection t.connectionSlot
    lift (Connection.interrupt conn.id)
    pure .nothing
  | .keepInterruptHandle slot => do
    let conn ← connection t.connectionSlot
    lift (update fun s => { s with interrupts := s.interrupts.put slot conn.id })
    pure .nothing
  | .describeConnection => do
    pure (.connection (← connection t.connectionSlot))
  | .enableSharedCache on => do
    operation (Library.enableSharedCache on)
    pure .nothing
  | .interruptBy slot => do
    match (← lift state).interrupts.get? slot with
    | none => throw .noSlot
    | some id =>
      lift (Connection.interrupt id)
      pure (.text (some (← lift (Connection.describeHandle id))))
  | .prepare sql => do
    let s ← lift state
    if t.statementSlot ∈ s.stepping then throw .borrowed
    match s.statements.get? t.statementSlot with
    | none => pure ()
    | some stmt => lift (dropStatement t.statementSlot stmt)
    let conn ← connection t.connectionSlot
    let stmt ← operation (conn.prepare sql)
    lift (putStatement t.statementSlot stmt)
    pure (.text (some stmt.sql))
  | .dropStatement => do
    let stmt ← statement t.statementSlot
    lift (dropStatement t.statementSlot stmt)
    pure .nothing
  | .step => do
    let stmt ← statement t.statementSlot
    match ← settle (← lift (advance cb t.statementSlot stmt)) with
    | .row => pure (.text (some "Row"))
    | .done => pure (.text (some "Done"))
  | .reset => do
    let stmt ← statement t.statementSlot
    let (result, stmt) ← lift stmt.reset
    lift (putStatement t.statementSlot stmt)
    settle result
    pure .nothing
  | .finalize => do
    let stmt ← statement t.statementSlot
    let (result, stmt) ← lift stmt.finalize
    lift (putStatement t.statementSlot stmt)
    settle result
    pure .nothing
  | .query query => do
    let stmt ← statement t.statementSlot
    operation (query.ask stmt)
  | .describeStatement => do
    pure (.statement (← statement t.statementSlot))
  | .stimulate stimulus => do
    pure (.response (← lift (Upcall.stimulate cb stimulus)))
  | .invalid => throw .badRequest

/-- How the connection of a step stands, if the step names no statement. -/
def connectionStatus (t : Target) : SessionM E (Option (ConnectionState × Bool × Nat)) := do
  match t.statement, t.connection with
  | none, some slot =>
    match (← state).connections.get? slot with
    | none => pure none
    | some conn => pure (some (conn.state, conn.handle.isSome, ← conn.callbackCount))
  | _, _ => pure none

/-- How the statement of a step stands, unless a step of it is in progress. -/
def statementStatus (t : Target) : SessionM E (Option (StatementState × Bool)) := do
  match t.statement with
  | none => pure none
  | some slot =>
    let s ← state
    if slot ∈ s.stepping then pure none
    else pure ((s.statements.get? slot).map fun stmt => (stmt.state, stmt.handle.isSome))

/-- Report a result together with how things stand. -/
def conclude (t : Target) (result : Except Failure (Payload E.Response)) :
    SessionM E (Report E.Response) := do
  let connection ← connectionStatus t
  let statement ← statementStatus t
  pure { result, connection, statement }

/-- Perform a step, callbacks going at most so many levels deep. -/
def perform : Nat → Step E.Stimulus → SessionM E (Report E.Response)
  | 0, (t, _) => conclude t (.error .tooDeep)
  | depth + 1, (t, action) => do
    let result ← (act (callbacks (perform depth)) t action).run
    conclude t result

/-- How many levels deep steps may be nested. -/
def maxDepth : Nat := 20

/-- The end of a session: all statements go, in the order of their slots, and then all
connections. -/
def finish : SessionM E Unit := do
  let s ← state
  s.statements.entries.forM fun (slot, stmt) => dropStatement slot stmt
  s.connections.entries.forM fun (slot, conn) => dropConnection slot conn

/-- What is known of a step of a session once it is over. -/
structure Record (ρ : Type) where
  report : Report ρ
  /-- The reports of the steps run by callbacks, in the order in which they ended. -/
  nested : List (Report ρ)
  /-- What happened meanwhile, in order. -/
  entries : List Entry

/-- Run the next step of a session, callbacks going at most so many levels deep. -/
def next (depth : Nat) (step : Step E.Stimulus) : SessionM E (Record E.Response) := do
  let start := (← get).transcript.length
  update fun s => { s with nested := [] }
  let report ← perform depth step
  let w ← get
  pure { report, nested := w.host.nested.reverse, entries := w.since start }

/-- Run a session from its first step to its end, callbacks going at most so many levels
deep. -/
def session (depth : Nat) (steps : List (Step E.Stimulus)) :
    SessionM E (List (Record E.Response) × List Entry) := do
  let records ← steps.mapM (next depth)
  let start := (← get).transcript.length
  finish
  let w ← get
  pure (records, w.since start)

/-- The world before a session with an engine in some state. -/
def begin (E : Engine) (engine : E.State) : World E (host E) :=
  { engine, host := {} }

/-- The records of a session with an engine, and what happened at its end. -/
def run (E : Engine) (engine : E.State) (steps : List (Step E.Stimulus)) :
    List (Record E.Response) × List Entry :=
  ((session maxDepth steps).run (begin E engine)).1

end EngineBridge.Session
