import EngineBridge.Proofs.Operations.Readings
import EngineBridge.Proofs.Reentry.Performing

/-!
# What steps of a session do to the transcript

Around the operations a session looks slots up, fills them and empties them, and makes closures.
Nothing of this leaves a trace but the operations that it takes: handles that make room are closed
and finalized, and closures that find no connection go.  So a step goes on with the transcript in
the way of the operations, if it neither puts a question to a statement nor has the engine run
anything.
-/

set_option autoImplicit false

namespace EngineBridge.Session

open Native Attempt
open Bridge (Prolongs Routes)

variable {E : Engine} {α β : Type} {slot : String}

section

variable {step : List Entry → List Entry → Prop}

/-! ## Slots -/

/-- A change of the session's own state adds nothing. -/
theorem prolongs_update (change : State E.Response → State E.Response) :
    Prolongs step (update change : SessionM E Unit) :=
  .modifyGet fun _ => rfl

/-- Looking at the session's own state adds nothing. -/
theorem prolongs_state : Prolongs step (state : SessionM E (State E.Response)) :=
  .get_bind fun _ => .pure _

/-- Looking for a connection adds nothing, whether there is one or not. -/
theorem prolongs_connection (slot : String) :
    Prolongs step (connection slot : Attempt E Connection).run := by
  refine .run_bind (.run_lift prolongs_state) fun s => ?_
  split
  · exact .run_pure _
  · exact .run_throw _

/-- Looking for a statement adds nothing, whether there is one or not. -/
theorem prolongs_statement (slot : String) :
    Prolongs step (statement slot : Attempt E Statement).run := by
  refine .run_bind (.run_lift prolongs_state) fun s => ?_
  split
  · exact .run_throw _
  · split
    · exact .run_throw _
    · exact .run_pure _

/-- An operation of the library goes on with the transcript in a step, too. -/
theorem prolongs_operation {m : Fallible E (host E) α} (h : Prolongs step m.run) :
    Prolongs step (operation m).run := by
  refine .run_bind (.run_lift h) fun r => ?_
  split
  · exact .run_pure _
  · exact .run_throw _

/-- Handing on a result adds nothing. -/
theorem prolongs_settle (r : Except BindError α) :
    Prolongs step (settle r : Attempt E α).run := by
  cases r with
  | ok a => exact .run_pure a
  | error e => exact .run_throw _

/-- Making a closure adds nothing. -/
theorem prolongs_newClosure {Code : Type} (code : Code) (owned : Option Connection) :
    Prolongs step (lift (Bridge.newClosure code owned) : Attempt E (Closure Code)).run :=
  .run_lift (.modifyGet fun _ => rfl)

/-- A step that is one operation on a connection goes on with the transcript if the operation
does. -/
theorem prolongs_onConnection {m : Connection → Fallible E (host E) α} (g : α → β)
    (h : ∀ conn, Prolongs step (m conn).run) :
    Prolongs step (connection slot >>= fun conn =>
      operation (m conn) >>= fun a => pure (g a)).run :=
  .run_bind (prolongs_connection slot) fun conn =>
    .run_bind (prolongs_operation (h conn)) fun _ => .run_pure _

/-- A step that is one operation on a statement goes on with the transcript if the operation
does. -/
theorem prolongs_onStatement {m : Statement → SessionM E (Except BindError α × Statement)}
    (g : α → β) (h : ∀ stmt, Prolongs step (m stmt)) :
    Prolongs step (do
      let stmt ← statement slot
      let (result, stmt) ← lift (m stmt)
      lift (putStatement slot stmt)
      let a ← settle result
      pure (g a) : Attempt E β).run := by
  refine .run_bind (prolongs_statement slot) fun stmt => .run_bind (.run_lift (h stmt)) ?_
  rintro ⟨result, other⟩
  exact .run_bind (.run_lift (prolongs_update _)) fun _ =>
    .run_bind (prolongs_settle result) fun _ => .run_pure _

/-- How things stand is told without a trace. -/
theorem prolongs_conclude (t : Target) (result : Except Failure (Payload E.Response)) :
    Prolongs step (conclude t result) := by
  have connection : Prolongs step (connectionStatus t : SessionM E _) := by
    unfold connectionStatus
    split
    · refine .bind prolongs_state fun s => ?_
      split
      · exact .pure _
      · exact .get_bind fun _ => .pure _
    · exact .pure _
  have statement : Prolongs step (statementStatus t : SessionM E _) := by
    unfold statementStatus
    split
    · exact .pure _
    · refine .bind prolongs_state fun s => ?_
      split <;> exact .pure _
  exact .bind connection fun _ => .bind statement fun _ => .pure _

end

variable {step : List Entry → List Entry → Prop} (routes : Routes E (host E) Call.Manages step)

include routes

/-! ## Handles that make room -/

/-- Dropping the statement of a slot goes on with the transcript. -/
theorem prolongs_dropStatement (slot : String) (stmt : Statement) :
    Prolongs step (dropStatement slot stmt : SessionM E Unit) :=
  .bind (prolongs_update _) fun _ => routes.dropStatement stmt

/-- Dropping the connection of a slot goes on with the transcript. -/
theorem prolongs_dropConnection (slot : String) (conn : Connection) :
    Prolongs step (dropConnection slot conn : SessionM E Unit) :=
  .bind (prolongs_update _) fun _ => routes.dropConnection conn

/-- Dropping the statements of a connection goes on with the transcript. -/
theorem prolongs_dropStatementsOf (id : ConnectionId) :
    Prolongs step (dropStatementsOf id : SessionM E Unit) := by
  refine .bind prolongs_state fun s => .forM ?_ _
  rintro ⟨slot, stmt⟩
  exact prolongs_dropStatement routes slot stmt

/-- Checking that a connection is not in use adds nothing. -/
theorem prolongs_exclusive (slot : String) :
    Prolongs step (exclusive slot : Attempt E Connection).run := by
  refine .run_bind (prolongs_connection slot) fun conn => .run_bind (.run_lift prolongs_state)
    fun s => ?_
  have free : Prolongs step (do
      lift (dropStatementsOf conn.id)
      Pure.pure conn : Attempt E Connection).run :=
    .run_bind (.run_lift (prolongs_dropStatementsOf routes conn.id)) fun _ => .run_pure _
  split
  · exact .run_throw _
  · exact free

/-- Making room in a slot goes on with the transcript: what was there is dropped. -/
theorem prolongs_vacate (slot : String) :
    Prolongs step (vacate slot : Attempt E Unit).run := by
  refine .run_bind (.run_lift prolongs_state) fun s => ?_
  split
  · exact .run_pure _
  · exact .run_bind (prolongs_exclusive routes slot) fun conn =>
      .run_lift (prolongs_dropConnection routes slot conn)

/-- A step that needs a connection for itself goes on with the transcript if the operation does. -/
theorem prolongs_onExclusive {m : Connection → SessionM E (Except BindError Unit × Connection)}
    (h : ∀ conn, Prolongs step (m conn)) :
    Prolongs step (do
      let conn ← exclusive slot
      let (result, conn) ← lift (m conn)
      lift (putConnection slot conn)
      settle result
      pure Payload.nothing : Attempt E (Payload E.Response)).run := by
  refine .run_bind (prolongs_exclusive routes slot) fun conn => .run_bind (.run_lift (h conn)) ?_
  rintro ⟨result, other⟩
  exact .run_bind (.run_lift (prolongs_update _)) fun _ =>
    .run_bind (prolongs_settle result) fun _ => .run_pure _

/-! ## Closures -/

/-- Looking for the connection that a closure is to own adds nothing. -/
theorem prolongs_owned (slot : String) :
    Prolongs step (owned slot : Attempt E (Option Connection)).run := by
  have taken : Prolongs step (take slot : Attempt E Connection).run :=
    .run_bind (prolongs_exclusive routes slot) fun _ => .run_bind (.run_lift (prolongs_update _))
      fun _ => .run_pure _
  exact .run_bind taken fun _ => .run_pure _

/-- Making the closure of a busy handler adds nothing. -/
theorem prolongs_handler (body : HandlerBody E.Stimulus) :
    Prolongs step (handler body : Attempt E (Closure (HandlerBody E.Stimulus))).run := by
  cases body with
  | own slot => exact .run_bind (prolongs_owned routes slot) fun _ => prolongs_newClosure _ _
  | invalid => exact .run_throw _
  | _ => exact prolongs_newClosure _ _

/-- Making the closure of a user function adds nothing. -/
theorem prolongs_function (body : FunctionBody E.Stimulus) :
    Prolongs step (function body : Attempt E (Closure (FunctionBody E.Stimulus))).run := by
  cases body with
  | own slot => exact .run_bind (prolongs_owned routes slot) fun _ => prolongs_newClosure _ _
  | invalid => exact .run_throw _
  | _ => exact prolongs_newClosure _ _

/-- A step that registers a closure goes on with the transcript if the registration does. -/
theorem prolongs_withClosure {Code : Type} {make : Attempt E (Closure Code)}
    {register : Connection → Closure Code → Fallible E (host E) Unit}
    (wrap : Closure Code → Registration (host E)) (made : Prolongs step make.run)
    (registered : ∀ conn closure, Prolongs step (register conn closure).run) :
    Prolongs step (withClosure make wrap register slot).run := by
  refine .run_bind made fun closure => .run_bind (.run_lift prolongs_state) fun s => ?_
  split
  · exact .run_bind (.run_lift (routes.dispose _)) fun _ => .run_throw _
  · next conn _ =>
    exact .run_bind (prolongs_operation (registered conn closure)) fun _ => .run_pure _

/-! ## Steps -/

variable {cb : Callbacks E (host E)} (t : Target)

/-- A step that creates a connection goes on with the transcript. -/
theorem prolongs_create : Prolongs step (act cb t .create).run := by
  have placed : Prolongs step (do
      putConnection t.connectionSlot (← Connection.create) : SessionM E Unit) :=
    .bind Routes.create fun _ => prolongs_update _
  exact .run_bind (prolongs_vacate routes _) fun _ => .run_bind (.run_lift placed) fun _ =>
    .run_pure _

/-- A step that prepares a statement goes on with the transcript. -/
theorem prolongs_prepare (sql : String) : Prolongs step (act cb t (.prepare sql)).run := by
  have prepared : Prolongs step (do
      let conn ← connection t.connectionSlot
      let stmt ← operation (conn.prepare sql)
      lift (putStatement t.statementSlot stmt)
      pure (Payload.text (some stmt.sql)) : Attempt E (Payload E.Response)).run :=
    .run_bind (prolongs_connection _) fun conn =>
      .run_bind (prolongs_operation (routes.prepare conn sql)) fun _ =>
        .run_bind (.run_lift (prolongs_update _)) fun _ => .run_pure _
  refine .run_bind (.run_lift prolongs_state) fun s => ?_
  dsimp only
  split
  · exact .run_throw _
  · split
    · exact prepared
    · exact .run_bind (.run_lift (prolongs_dropStatement routes _ _)) fun _ => prepared

/-- A step that interrupts goes on with the transcript. -/
theorem prolongs_interruptBy (slot : String) :
    Prolongs step (act cb t (.interruptBy slot)).run := by
  refine .run_bind (.run_lift prolongs_state) fun s => ?_
  split
  · exact .run_throw _
  · next id _ =>
    have described : Prolongs step (Connection.describeHandle id : SessionM E String) :=
      .get_bind fun _ => .pure _
    exact .run_bind (.run_lift (routes.interrupt id)) fun _ =>
      .run_bind (.run_lift described) fun _ => .run_pure _

omit routes in
/-- A step that puts no question to a statement and has the engine run nothing. -/
def Action.Manages : Action E.Stimulus → Prop
  | .executeBatch _ | .step | .query _ | .stimulate _ => False
  | _ => True

/-- Such a step goes on with the transcript as its operations do. -/
theorem prolongs_act {action : Action E.Stimulus} (manages : Action.Manages action) :
    Prolongs step (act cb t action).run := by
  cases action with
  | executeBatch | step | query | stimulate => exact manages.elim
  | create => exact prolongs_create routes t
  | connect path options =>
    exact .run_bind (prolongs_vacate routes _) fun _ =>
      .run_bind (prolongs_operation (routes.connectWith path options)) fun _ =>
        .run_bind (.run_lift (prolongs_update _)) fun _ => .run_pure _
  | openWith path options =>
    exact prolongs_onExclusive routes fun conn => routes.openWith conn path options
  | close => exact prolongs_onExclusive routes routes.close
  | dropConnection =>
    exact .run_bind (prolongs_exclusive routes _) fun conn =>
      .run_bind (.run_lift (prolongs_dropConnection routes _ conn)) fun _ => .run_pure _
  | busyTimeout ms => exact prolongs_onConnection _ fun conn => routes.busyTimeout conn ms
  | registerBusyHandler body =>
    exact prolongs_withClosure routes .busy (prolongs_handler routes body)
      routes.registerBusyHandler
  | clearBusyHandler => exact prolongs_onConnection _ routes.clearBusyHandler
  | registerFunction name arity flags body =>
    exact prolongs_withClosure routes .function (prolongs_function routes body)
      fun conn => routes.registerFunction conn name arity flags
  | removeFunction name arity =>
    exact prolongs_onConnection _ fun conn => routes.removeFunction conn name arity
  | errmsg => exact prolongs_onConnection _ routes.errmsg
  | version => exact prolongs_onConnection _ fun _ => routes.version
  | changes => exact prolongs_onConnection _ routes.changes
  | totalChanges => exact prolongs_onConnection _ routes.totalChanges
  | limit limit value => exact prolongs_onConnection _ fun conn => routes.limit conn limit value
  | enableLoadExtension on =>
    exact prolongs_onConnection _ fun conn => routes.enableLoadExtension conn on
  | interrupt =>
    exact .run_bind (prolongs_connection _) fun conn =>
      .run_bind (.run_lift (routes.interrupt conn.id)) fun _ => .run_pure _
  | keepInterruptHandle slot =>
    exact .run_bind (prolongs_connection _) fun _ =>
      .run_bind (.run_lift (prolongs_update _)) fun _ => .run_pure _
  | describeConnection => exact .run_bind (prolongs_connection _) fun _ => .run_pure _
  | enableSharedCache on =>
    exact .run_bind (prolongs_operation (routes.enableSharedCache on)) fun _ => .run_pure _
  | interruptBy slot => exact prolongs_interruptBy routes t slot
  | prepare sql => exact prolongs_prepare routes t sql
  | dropStatement =>
    exact .run_bind (prolongs_statement _) fun stmt =>
      .run_bind (.run_lift (prolongs_dropStatement routes _ stmt)) fun _ => .run_pure _
  | reset => exact prolongs_onStatement _ routes.reset
  | finalize => exact prolongs_onStatement _ routes.finalize
  | describeStatement => exact .run_bind (prolongs_statement _) fun _ => .run_pure _
  | invalid => exact .run_throw _

/-- At its end a session drops what it still has. -/
theorem prolongs_finish : Prolongs step (finish : SessionM E Unit) := by
  refine .bind prolongs_state fun s => .bind (.forM ?_ _) fun _ => .forM ?_ _
  · rintro ⟨slot, stmt⟩
    exact prolongs_dropStatement routes slot stmt
  · rintro ⟨slot, conn⟩
    exact prolongs_dropConnection routes slot conn

omit routes

/-! ## Questions to statements -/

/-- Questions to a statement add to the transcript what they may. -/
theorem Query.adds (query : Query) (stmt : Statement) :
    Bridge.Adds stmt.Permits (query.ask stmt : Fallible E (host E) (Payload E.Response)).run := by
  cases query with
  | bindNull | bindInt | bindInt64 | bindDouble | clearBindings =>
    exact .run_bind (Statement.adds_succeed fun _ => ⟨fun _ => trivial, rfl⟩) fun _ => .run_pure _
  | bindText i v => exact .run_bind (Statement.adds_bindText i v) fun _ => .run_pure _
  | bindBlob i v => exact .run_bind (Statement.adds_bindBlob i v) fun _ => .run_pure _
  | bindValue i v => exact .run_bind (Statement.adds_bindValue i v) fun _ => .run_pure _
  | bindParameterCount | columnCount =>
    have counted (c : Program → Call) (harmless : ∀ p, (c p).Harmless) (p : Program) :
        Asks Call.Harmless (Fallible.lift (Bridge.call (c p)) : Fallible E (host E) _).run :=
      .run_lift (.call (harmless p))
    exact .run_bind (Statement.adds_live (counted _ fun _ => ⟨fun _ => trivial, rfl⟩)) fun _ =>
      .run_pure _
  | columnName i => exact .run_bind (Statement.adds_columnName i) fun _ => .run_pure _
  | columnTableName i => exact .run_bind (Statement.adds_columnTableName i) fun _ => .run_pure _
  | columnDecltype i => exact .run_bind (Statement.adds_columnDecltype i) fun _ => .run_pure _
  | columnType i => exact .run_bind (Statement.adds_columnType i) fun _ => .run_pure _
  | columnText i => exact .run_bind (Statement.adds_columnText i) fun _ => .run_pure _
  | columnBlob i => exact .run_bind (Statement.adds_columnBlob i) fun _ => .run_pure _
  | columnDouble i => exact .run_bind (Statement.adds_columnDouble i) fun _ => .run_pure _
  | columnInt i => exact .run_bind (Statement.adds_columnInt i) fun _ => .run_pure _
  | columnInt64 i => exact .run_bind (Statement.adds_columnInt64 i) fun _ => .run_pure _
  | columnBytes i => exact .run_bind (Statement.adds_columnBytes i) fun _ => .run_pure _
  | columnValue i => exact .run_bind (Statement.adds_columnValue i) fun _ => .run_pure _

end EngineBridge.Session
