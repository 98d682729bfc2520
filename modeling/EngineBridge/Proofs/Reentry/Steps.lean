import EngineBridge.Proofs.Reentry.Operations
import EngineBridge.Proofs.Session.Reaching

/-!
# Steps that run no callbacks

What such a step does to the registry is told by the transcript, wherever the step starts, unless
it registers a callback.
-/

set_option autoImplicit false

namespace EngineBridge.Session

open Native Relation

variable {E : Engine} {α β : Type} {slot : String}

/-- A change of the session's own state is accounted for. -/
theorem recounts_update (change : State E.Response → State E.Response) :
    Bridge.Recounts (update change : SessionM E Unit) :=
  .modifyGet (fun _ => rfl) fun _ => rfl

/-- Looking at the session's own state is accounted for. -/
theorem recounts_state : Bridge.Recounts (state : SessionM E (State E.Response)) :=
  .get_bind fun _ => .pure _

/-- Dropping the statement of a slot is accounted for. -/
theorem recounts_dropStatement (slot : String) (stmt : Statement) :
    Bridge.Recounts (dropStatement slot stmt : SessionM E Unit) :=
  .bind (recounts_update _) fun _ => .of_asks stmt.asks_drop

/-- Dropping the connection of a slot is accounted for, with all that it owns. -/
theorem recounts_dropConnection (slot : String) (conn : Connection) :
    Bridge.Recounts (dropConnection slot conn : SessionM E Unit) :=
  .bind (recounts_update _) fun _ => conn.recounts_drop

/-- Dropping the statements of a connection is accounted for. -/
theorem recounts_dropStatementsOf (id : ConnectionId) :
    Bridge.Recounts (dropStatementsOf id : SessionM E Unit) := by
  apply Bridge.Recounts.bind recounts_state
  intro s
  apply Bridge.Recounts.forM
  rintro ⟨slot, stmt⟩
  exact recounts_dropStatement slot stmt

namespace Attempt

/-- Looking for a connection is accounted for. -/
theorem recounts_connection (slot : String) :
    Bridge.Recounts (connection slot : Attempt E Connection).run := by
  apply Bridge.Recounts.run_bind (.run_lift recounts_state)
  intro s
  split
  · exact .run_pure _
  · exact .run_throw _

/-- Looking for a statement is accounted for. -/
theorem recounts_statement (slot : String) :
    Bridge.Recounts (statement slot : Attempt E Statement).run := by
  apply Bridge.Recounts.run_bind (.run_lift recounts_state)
  intro s
  split
  · exact .run_throw _
  · split
    · exact .run_throw _
    · exact .run_pure _

/-- An operation of the library is accounted for in a step, too. -/
theorem recounts_operation {m : Fallible E (host E) α} (h : Bridge.Recounts m.run) :
    Bridge.Recounts (operation m).run := by
  apply Bridge.Recounts.run_bind (.run_lift h)
  intro r
  split
  · exact .run_pure _
  · exact .run_throw _

/-- Handing on a result is accounted for. -/
theorem recounts_settle (r : Except BindError α) :
    Bridge.Recounts (settle r : Attempt E α).run := by
  cases r with
  | ok a => exact .run_pure a
  | error e => exact .run_throw _

/-- Checking that a connection is not in use is accounted for. -/
theorem recounts_exclusive (slot : String) :
    Bridge.Recounts (exclusive slot : Attempt E Connection).run := by
  apply Bridge.Recounts.run_bind (recounts_connection slot)
  intro conn
  apply Bridge.Recounts.run_bind (.run_lift recounts_state)
  intro s
  have free : Bridge.Recounts (do
      lift (dropStatementsOf conn.id)
      Pure.pure conn : Attempt E Connection).run :=
    .run_bind (.run_lift (recounts_dropStatementsOf conn.id)) fun _ => .run_pure _
  split
  · exact .run_throw _
  · exact free

/-- Making room in a slot is accounted for. -/
theorem recounts_vacate (slot : String) :
    Bridge.Recounts (vacate slot : Attempt E Unit).run := by
  apply Bridge.Recounts.run_bind (.run_lift recounts_state)
  intro s
  split
  · exact .run_pure _
  · exact .run_bind (recounts_exclusive slot) fun conn =>
      .run_lift (recounts_dropConnection slot conn)

/-- Looking for the connection that a closure is to own is accounted for. -/
theorem recounts_owned (slot : String) :
    Bridge.Recounts (owned slot : Attempt E (Option Connection)).run := by
  have taken : Bridge.Recounts (take slot : Attempt E Connection).run := by
    apply Bridge.Recounts.run_bind (recounts_exclusive slot)
    intro conn
    exact .run_bind (.run_lift (recounts_update _)) fun _ => .run_pure _
  exact .run_bind taken fun _ => .run_pure _

/-- Making a closure is accounted for. -/
theorem recounts_newClosure {Code : Type} (code : Code) (owned : Option Connection) :
    Bridge.Recounts (lift (Bridge.newClosure code owned) : Attempt E (Closure Code)).run :=
  .run_lift (.modifyGet (fun _ => rfl) fun _ => rfl)

/-- Making the closure of a busy handler is accounted for. -/
theorem recounts_handler (body : HandlerBody E.Stimulus) :
    Bridge.Recounts (handler body : Attempt E (Closure (HandlerBody E.Stimulus))).run := by
  cases body with
  | own slot => exact .run_bind (recounts_owned slot) fun _ => recounts_newClosure _ _
  | invalid => exact .run_throw _
  | _ => exact recounts_newClosure _ _

/-- Making the closure of a user function is accounted for. -/
theorem recounts_function (body : FunctionBody E.Stimulus) :
    Bridge.Recounts (function body : Attempt E (Closure (FunctionBody E.Stimulus))).run := by
  cases body with
  | own slot => exact .run_bind (recounts_owned slot) fun _ => recounts_newClosure _ _
  | invalid => exact .run_throw _
  | _ => exact recounts_newClosure _ _

end Attempt

open Attempt

/-- Something is done with the connection in a slot, and its result is reported. -/
theorem recounts_onConnection {m : Connection → Fallible E (host E) α} (g : α → β)
    (h : ∀ conn, Bridge.Recounts (m conn).run) :
    Bridge.Recounts (connection slot >>= fun conn =>
      operation (m conn) >>= fun a => pure (g a)).run := by
  apply Bridge.Recounts.run_bind (recounts_connection slot)
  intro conn
  exact .run_bind (recounts_operation (h conn)) fun _ => .run_pure _

/-- A statement comes back to its slot after something has been done with it. -/
theorem recounts_onStatement {P : Call → Prop}
    {m : Statement → SessionM E (Except BindError α × Statement)} (g : α → β)
    (h : ∀ stmt, Asks P (m stmt)) :
    Bridge.Recounts (do
      let stmt ← statement slot
      let (result, stmt) ← lift (m stmt)
      lift (putStatement slot stmt)
      let a ← settle result
      pure (g a) : Attempt E β).run := by
  apply Bridge.Recounts.run_bind (recounts_statement slot)
  intro stmt
  apply Bridge.Recounts.run_bind (.run_lift (.of_asks (h stmt)))
  rintro ⟨result, other⟩
  apply Bridge.Recounts.run_bind (.run_lift (recounts_update _))
  intro _
  exact .run_bind (recounts_settle result) fun _ => .run_pure _

variable {cb : Callbacks E (host E)} (t : Target)

/-- A step that creates a connection is accounted for. -/
theorem recounts_create : Bridge.Recounts (act cb t .create).run := by
  apply Bridge.Recounts.run_bind (recounts_vacate _)
  intro _
  have placed : Bridge.Recounts (do putConnection t.connectionSlot (← Connection.create) :
      SessionM E Unit) :=
    .bind Connection.recounts_create fun _ => recounts_update _
  exact .run_bind (.run_lift placed) fun _ => .run_pure _

/-- A step that creates a connection and opens it is accounted for. -/
theorem recounts_connect (path : String) (options : OpenOptions) :
    Bridge.Recounts (act cb t (.connect path options)).run := by
  apply Bridge.Recounts.run_bind (recounts_vacate _)
  intro _
  apply Bridge.Recounts.run_bind (recounts_operation (Connection.recounts_connectWith path options))
  intro conn
  exact .run_bind (.run_lift (recounts_update _)) fun _ => .run_pure _

/-- A connection that nobody else can use comes back to its slot after something has been done
with it. -/
theorem recounts_onExclusive {m : Connection → SessionM E (Except BindError Unit × Connection)}
    (h : ∀ conn, Bridge.Recounts (m conn)) :
    Bridge.Recounts (do
      let conn ← exclusive slot
      let (result, conn) ← lift (m conn)
      lift (putConnection slot conn)
      settle result
      pure Payload.nothing : Attempt E (Payload E.Response)).run := by
  apply Bridge.Recounts.run_bind (recounts_exclusive slot)
  intro conn
  apply Bridge.Recounts.run_bind (.run_lift (h conn))
  rintro ⟨result, other⟩
  apply Bridge.Recounts.run_bind (.run_lift (recounts_update _))
  intro _
  exact .run_bind (recounts_settle result) fun _ => .run_pure _

/-- A step that interrupts is accounted for. -/
theorem recounts_interruptBy (slot : String) :
    Bridge.Recounts (act cb t (.interruptBy slot)).run := by
  apply Bridge.Recounts.run_bind (.run_lift recounts_state)
  intro s
  split
  · exact .run_throw _
  · next id _ =>
    apply Bridge.Recounts.run_bind (.run_lift (.of_asks (Connection.asks_interrupt id)))
    intro _
    have described : Bridge.Recounts (Connection.describeHandle id : SessionM E String) :=
      .get_bind fun _ => .pure _
    exact .run_bind (.run_lift described) fun _ => .run_pure _

/-- A step that prepares a statement is accounted for. -/
theorem recounts_prepare (sql : String) : Bridge.Recounts (act cb t (.prepare sql)).run := by
  have prepared : Bridge.Recounts (do
      let conn ← connection t.connectionSlot
      let stmt ← operation (conn.prepare sql)
      lift (putStatement t.statementSlot stmt)
      pure (Payload.text (some stmt.sql)) : Attempt E (Payload E.Response)).run := by
    apply Bridge.Recounts.run_bind (recounts_connection _)
    intro conn
    apply Bridge.Recounts.run_bind (recounts_operation (.of_asks (conn.asks_prepare sql)))
    intro stmt
    exact .run_bind (.run_lift (recounts_update _)) fun _ => .run_pure _
  apply Bridge.Recounts.run_bind (.run_lift recounts_state)
  intro s
  dsimp only
  split
  · exact .run_throw _
  · split
    · exact prepared
    · exact .run_bind (.run_lift (recounts_dropStatement _ _)) fun _ => prepared

end EngineBridge.Session
