import EngineBridge.Proofs.Failure.Connections
import EngineBridge.Proofs.Failure.Statements
import EngineBridge.Proofs.Reentry.Operations
import EngineBridge.Proofs.Session.Lifecycle
import EngineBridge.Scripted.Engine

/-!
# A session hears of every failure

Whatever a step does, and in whatever state the session is, the step ends with the engine error
of the native call that failed, if one did, and with no other engine error.  The error has the
result code of the call, and its message is what the engine says in the very next call.
-/

set_option autoImplicit false

namespace EngineBridge

open Native

/-- Turns keep the connections of statements open. -/
theorem Turn.backed {E : Engine} {H : Host} {s s' : Stage E H} (turn : Turn s s')
    (h : s.Backed) : s'.Backed := by
  cases turn with
  | move move => exact move.backed h
  | host => exact h

namespace Session

variable {E : Engine} {α β : Type} {cb : Callbacks E (host E)} {roll : Roster}
  {w : World E (host E)} {slot : String} {t : Target} {action : Action E.Stimulus}

/-- The engine error among the failures of a step. -/
def Failure.asEngine : Failure → Option EngineError
  | .operation cause => cause.asEngine
  | _ => none

/-- The connection of a statement that is in a slot. -/
def Home (w : World E (host E)) (p : Program) (d : Database) : Prop :=
  ∃ slot stmt, w.host.statements.get? slot = some stmt ∧ stmt.handle = some p ∧ stmt.database = d

/-! ## What goes out of use in a step -/

/-- A step empties the slot of a connection: the connection goes out of use, or a closure is to own
it. -/
def Empties (t : Target) (slot : String) : Action E.Stimulus → Prop
  | .create | .connect .. | .dropConnection => slot = t.connectionSlot
  | .registerBusyHandler (.own other) | .registerFunction _ _ _ (.own other) => slot = other
  | _ => False

/-- A step needs the connection in a slot for itself, so that the statements of the connection
go out of use. -/
def Claims (t : Target) (slot : String) : Action E.Stimulus → Prop
  | .openWith .. | .close => slot = t.connectionSlot
  | action => Empties t slot action

/-- A step lets the statement in its slot go. -/
def Replaces : Action E.Stimulus → Prop
  | .prepare _ | .dropStatement => True
  | _ => False

/-- What is known when a step begins.  The connections that may go out of use are those in slots
that the step empties, and those that closures in the registry own. -/
def roster (w : World E (host E)) (t : Target) (action : Action E.Stimulus) : Roster where
  home := Home w
  leaving conn :=
    (∃ slot, Empties t slot action ∧ w.host.connections.get? slot = some conn) ∨
      conn ∈ w.registry.captured
  retiring stmt :=
    (∃ slot conn other, Claims t slot action ∧ w.host.connections.get? slot = some conn ∧
      w.host.statements.get? other = some stmt ∧ stmt.connection = conn.id) ∨
    Replaces action ∧ w.host.statements.get? t.statementSlot = some stmt

/-- A slot that is emptied is needed. -/
theorem Empties.claims (h : Empties t slot action) : Claims t slot action := by
  cases action <;> trivial

/-- A statement in a slot is of its connection. -/
theorem housed_of_get? {stmt : Statement} (found : w.host.statements.get? slot = some stmt) :
    stmt.Housed (roster w t action) :=
  fun _ handle => ⟨slot, stmt, found, handle, rfl⟩

/-- What closures in the registry own may go out of use. -/
theorem roster_covers : (roster w t action).Covers w.registry.captured :=
  fun _ captured => .inr captured

/-- A statement that goes out of use leaves the registry alone. -/
theorem dropStatement_registry (slot : String) (stmt : Statement) (w : World E (host E)) :
    (dropStatement slot stmt w).2.registry = w.registry :=
  (stmt.asks_drop { w with host := { w.host with statements := w.host.statements.erase slot } }
    ).registry_eq

/-- Statements that go out of use leave the registry alone. -/
theorem dropStatements_registry (stmts : List (String × Statement)) (w : World E (host E)) :
    ((stmts.forM fun (slot, stmt) => dropStatement slot stmt) w).2.registry = w.registry := by
  induction stmts generalizing w with
  | nil => rfl
  | cons entry rest ih =>
    rw [List.forM_eq_forM, List.forM_cons]
    exact (ih _).trans (dropStatement_registry entry.1 entry.2 w)

namespace Attempt

/-- The state of the session is looked at. -/
theorem accounts_state {f : State E.Response → Attempt E β}
    (h : Accounts cb roll (f w.host).run w (failures Failure.asEngine)) :
    Accounts cb roll (lift state >>= f).run w (failures Failure.asEngine) :=
  h

/-- Something is done with the connection in a slot, if there is one. -/
theorem accounts_connection {f : Connection → Attempt E β}
    (next : ∀ conn, w.host.connections.get? slot = some conn →
      Accounts cb roll (f conn).run w (failures Failure.asEngine)) :
    Accounts cb roll (connection slot >>= f).run w (failures Failure.asEngine) := by
  unfold connection
  rw [bind_assoc]
  refine accounts_state ?_
  cases found : w.host.connections.get? slot with
  | none => exact .run_throw rfl
  | some conn => exact next conn found

/-- Something is done with the statement in a slot, if there is one and no step of it is in
progress. -/
theorem accounts_statement {f : Statement → Attempt E β}
    (next : ∀ stmt, w.host.statements.get? slot = some stmt →
      Accounts cb roll (f stmt).run w (failures Failure.asEngine)) :
    Accounts cb roll (statement slot >>= f).run w (failures Failure.asEngine) := by
  unfold statement
  rw [bind_assoc]
  refine accounts_state ?_
  cases found : w.host.statements.get? slot with
  | none => exact .run_throw rfl
  | some stmt =>
    by_cases used : slot ∈ w.host.stepping
    · simp only [if_pos used]
      exact .run_throw rfl
    · simp only [if_neg used]
      exact next stmt found

/-- A step ends with the failure of its operation. -/
theorem accounts_operation {m : Fallible E (host E) α} (g : α → β)
    (h : Accounts cb roll m.run w (failures BindError.asEngine)) :
    Accounts cb roll (operation m >>= fun a => pure (g a)).run w (failures Failure.asEngine) := by
  have settled : Accounts cb roll (operation m).run w (failures Failure.asEngine) := by
    unfold operation lift
    rw [ExceptT.run_bind_lift]
    refine h.bind_pure fun r w' => ?_
    cases r with
    | error e => exact ⟨.pure rfl, rfl⟩
    | ok a => exact ⟨.pure rfl, rfl⟩
  exact .run_bind settled fun _ _ _ => .run_pure _

/-- A step ends with the failure of its operation, once the handle is back in its place. -/
theorem accounts_settle {γ : Type} {m : SessionM E (Except BindError α × γ)}
    {put : γ → SessionM E Unit} (g : α → β)
    (h : Accounts cb roll m w fun r => failures BindError.asEngine r.1)
    (silent : ∀ c w', Accounts cb roll (put c) w' fun _ => []) :
    Accounts cb roll (do
      let (r, c) ← lift m
      lift (put c)
      let a ← settle r
      pure (g a) : Attempt E β).run w (failures Failure.asEngine) := by
  unfold lift
  rw [ExceptT.run_bind_lift]
  refine h.bind_pure fun r w' => ?_
  obtain ⟨r, c⟩ := r
  cases r with
  | error e => exact ⟨(silent c w').bind fun _ _ => .pure rfl, rfl⟩
  | ok a => exact ⟨(silent c w').bind fun _ _ => .pure rfl, rfl⟩

/-- Nobody waits for a statement that goes out of use. -/
theorem accounts_dropStatement {stmt : Statement} (housed : stmt.Housed roll)
    (retiring : roll.retiring stmt) :
    Accounts cb roll (dropStatement slot stmt) w fun _ => [] :=
  .bind (Course.silent rfl rfl) fun _ _ => Statement.accounts_drop housed retiring

/-- Nobody waits for statements that go out of use. -/
theorem accounts_dropStatements {stmts : List (String × Statement)}
    (known : ∀ entry ∈ stmts, entry.2.Housed roll ∧ roll.retiring entry.2) :
    Accounts cb roll (stmts.forM fun (slot, stmt) => dropStatement slot stmt) w fun _ => [] := by
  induction stmts generalizing w with
  | nil => exact .pure rfl
  | cons entry rest ih =>
    obtain ⟨housed, retiring⟩ := known entry List.mem_cons_self
    rw [List.forM_eq_forM, List.forM_cons]
    refine .bind (accounts_dropStatement housed retiring) fun _ w' => ?_
    exact ih fun entry he => known entry (List.mem_cons_of_mem _ he)

/-- A connection goes out of use, and its slot is emptied. -/
theorem accounts_dropConnection {conn : Connection} (leaving : roll.leaving conn)
    (covers : roll.Covers w.registry.captured) :
    Accounts cb roll (dropConnection slot conn) w fun _ => [] := by
  have emptied : Course cb roll [] w
    { w with host := { w.host with connections := w.host.connections.erase slot } } :=
      .silent rfl rfl
  exact emptied.andThen (conn.accounts_drop leaving covers)

/-- Before something is done with a connection all to oneself its statements go. -/
theorem accounts_exclusive (claims : Claims t slot action) {f : Connection → Attempt E β}
    (next : ∀ conn w', w.host.connections.get? slot = some conn → w'.registry = w.registry →
      Accounts cb (roster w t action) (f conn).run w' (failures Failure.asEngine)) :
    Accounts cb (roster w t action) (exclusive slot >>= f).run w (failures Failure.asEngine) := by
  unfold exclusive
  rw [bind_assoc]
  refine accounts_connection fun conn found => ?_
  rw [bind_assoc]
  refine accounts_state ?_
  have known : ∀ entry ∈ w.host.statements.entries.filter (·.2.connection = conn.id),
      entry.2.Housed (roster w t action) ∧ (roster w t action).retiring entry.2 := by
    intro entry he
    obtain ⟨there, own⟩ := List.mem_filter.mp he
    have stored := Slots.mem_entries_iff.mp there
    exact ⟨housed_of_get? stored, .inl ⟨slot, conn, _, claims, found, stored, by simpa using own⟩⟩
  have dropped : Accounts cb (roster w t action) (dropStatementsOf (E := E) conn.id) w
      fun _ => [] := .get_bind (accounts_dropStatements known)
  split
  · exact .run_throw rfl
  · rw [bind_assoc]
    refine .run_bind (.run_lift dropped) fun _ w' run => ?_
    rw [pure_bind]
    apply next conn w' found
    cases run
    exact dropStatements_registry _ w

/-- Before something is put into a slot the connection there goes. -/
theorem accounts_vacate (empties : Empties t slot action) {f : Unit → Attempt E β}
    (next : ∀ w', Accounts cb (roster w t action) (f ()).run w' (failures Failure.asEngine)) :
    Accounts cb (roster w t action) (vacate slot >>= f).run w (failures Failure.asEngine) := by
  have vacant : Accounts cb (roster w t action) (vacate (E := E) slot).run w
      (failures Failure.asEngine) := by
    refine accounts_state ?_
    split
    · exact .run_pure _
    · refine accounts_exclusive empties.claims fun conn w' found registry => ?_
      refine .run_lift (accounts_dropConnection (.inl ⟨slot, empties, found⟩) ?_)
      exact registry ▸ roster_covers
  exact .run_bind vacant fun _ w' _ => next w'

/-- A closure is made, and the connection that it owns may go out of use. -/
theorem accounts_make {Code : Type} {code : Code} {owned : Option Connection}
    {f : Closure Code → Attempt E β} (leaving : ∀ conn, owned = some conn → roll.leaving conn)
    (next : ∀ (closure : Closure Code) w', (∀ conn, closure.owned = some conn → roll.leaving conn) →
      w'.registry = w.registry → Accounts cb roll (f closure).run w' (failures Failure.asEngine)) :
    Accounts cb roll (lift (Bridge.newClosure code owned) >>= f).run w
      (failures Failure.asEngine) := by
  have made : Accounts cb roll (Bridge.newClosure (E := E) (H := host E) code owned) w
      fun _ => [] := .modifyGet rfl rfl
  refine .run_bind (.run_lift made) fun closure w' run => ?_
  cases run
  exact next _ _ leaving rfl

/-- A closure is made that owns the connection of a slot, which is emptied. -/
theorem accounts_own {Code : Type} {code : Code} (empties : Empties t slot action)
    {f : Closure Code → Attempt E β}
    (next : ∀ (closure : Closure Code) w',
      (∀ conn, closure.owned = some conn → (roster w t action).leaving conn) →
      w'.registry = w.registry →
      Accounts cb (roster w t action) (f closure).run w' (failures Failure.asEngine)) :
    Accounts cb (roster w t action)
      ((owned slot >>= fun owned => lift (Bridge.newClosure code owned)) >>= f).run w
        (failures Failure.asEngine) := by
  unfold owned take
  simp only [bind_assoc, pure_bind]
  refine accounts_exclusive empties.claims fun conn w' found registry => ?_
  refine .run_bind (.run_lift (Course.silent rfl rfl)) fun _ w'' run => ?_
  cases run
  have leaving : (roster w t action).leaving conn := .inl ⟨slot, empties, found⟩
  refine accounts_make (fun _ same => Option.some.inj same ▸ leaving) ?_
  exact fun closure w'' owned same => next closure w'' owned (same.trans registry)

/-- A closure of a busy handler is made. -/
theorem accounts_handler (body : HandlerBody E.Stimulus)
    {f : Closure (HandlerBody E.Stimulus) → Attempt E β}
    (next : ∀ (closure : Closure (HandlerBody E.Stimulus)) w',
      (∀ conn, closure.owned = some conn →
        (roster w t (.registerBusyHandler body)).leaving conn) → w'.registry = w.registry →
      Accounts cb (roster w t (.registerBusyHandler body)) (f closure).run w'
        (failures Failure.asEngine)) :
    Accounts cb (roster w t (.registerBusyHandler body)) (handler body >>= f).run w
      (failures Failure.asEngine) := by
  cases body with
  | own slot =>
    have empties : Empties t slot (.registerBusyHandler (.own slot) : Action E.Stimulus) := rfl
    exact accounts_own empties next
  | invalid => exact .run_throw rfl
  | _ => exact accounts_make nofun next

/-- A closure of a user function is made. -/
theorem accounts_function (name : String) (arity : Int32) (flags : FunctionFlags)
    (body : FunctionBody E.Stimulus) {f : Closure (FunctionBody E.Stimulus) → Attempt E β}
    (next : ∀ (closure : Closure (FunctionBody E.Stimulus)) w',
      (∀ conn, closure.owned = some conn →
        (roster w t (.registerFunction name arity flags body)).leaving conn) →
      w'.registry = w.registry →
      Accounts cb (roster w t (.registerFunction name arity flags body)) (f closure).run w'
        (failures Failure.asEngine)) :
    Accounts cb (roster w t (.registerFunction name arity flags body)) (function body >>= f).run w
      (failures Failure.asEngine) := by
  cases body with
  | own slot =>
    have empties : Empties t slot
      (.registerFunction name arity flags (.own slot) : Action E.Stimulus) := rfl
    exact accounts_own empties next
  | invalid => exact .run_throw rfl
  | _ => exact accounts_make nofun next

end Attempt

open Attempt

/-- Something is done with the connection in a slot and the closure that a step has made, or
the closure goes. -/
theorem accounts_withClosure {r : Registration (host E)} {f : Connection → Attempt E β}
    (owned : roll.Covers (capturedBy [r])) (covers : roll.Covers w.registry.captured)
    (next : ∀ conn, Accounts cb roll (f conn).run w (failures Failure.asEngine)) :
    Accounts cb roll (do
      match (← lift state).connections.get? slot with
      | none =>
        lift (Bridge.dispose [r])
        throw .noSlot
      | some conn => f conn : Attempt E β).run w (failures Failure.asEngine) := by
  refine accounts_state ?_
  cases w.host.connections.get? slot with
  | some conn => exact next conn
  | none =>
    exact .run_lift_bind (Bridge.accounts_dispose [r] w owned covers) fun _ _ => .run_throw rfl

/-- While an operation is in progress on a connection, the connection is in use. -/
theorem accounts_engage {id : ConnectionId} {m : SessionM E α} {errors : α → List EngineError}
    (h : ∀ w', Accounts cb roll m w' errors) :
    Accounts cb roll (engage id m) w errors := by
  refine .bind (Course.silent rfl rfl) fun _ w' => ?_
  refine (h w').bind_pure fun a w'' => ?_
  exact ⟨.bind (Course.silent rfl rfl) fun _ _ => .pure rfl, rfl⟩

/-- A step of a statement ends with the failure of the engine's step. -/
theorem accounts_advance {stmt : Statement} (housed : stmt.Housed roll) :
    Accounts cb roll (advance cb slot stmt) w (failures BindError.asEngine) := by
  refine .bind (Course.silent rfl rfl) fun _ w' => ?_
  have stepped (v : World E (host E)) : Accounts cb roll (stmt.step cb) v _ :=
    Statement.accounts_step housed
  refine (accounts_engage (w := w') stepped).bind_pure fun r w'' => ?_
  obtain ⟨r, stmt⟩ := r
  refine ⟨.bind (Course.silent rfl rfl) fun _ _ => ?_, rfl⟩
  exact .bind (Course.silent rfl rfl) fun _ _ => .pure rfl

/-- A question to a statement. -/
theorem accounts_query {stmt : Statement} (query : Query) (housed : stmt.Housed roll) :
    Accounts cb roll (query.ask stmt : Fallible E (host E) (Payload E.Response)).run w
      (failures BindError.asEngine) := by
  have then_pure {α : Type} {m : Fallible E (host E) α} (g : α → Payload E.Response)
      (h : Accounts cb roll m.run w (failures BindError.asEngine)) :
      Accounts cb roll (m >>= fun a => pure (g a)).run w (failures BindError.asEngine) :=
    .run_bind h fun _ _ _ => .run_pure _
  cases query with
  | bindNull i => exact then_pure _ (Statement.accounts_bindNull housed i)
  | bindInt i v => exact then_pure _ (Statement.accounts_bindInt housed i v)
  | bindInt64 i v => exact then_pure _ (Statement.accounts_bindInt64 housed i v)
  | bindDouble i v => exact then_pure _ (Statement.accounts_bindDouble housed i v)
  | bindText i v => exact then_pure _ (Statement.accounts_bindText housed i v)
  | bindBlob i v => exact then_pure _ (Statement.accounts_bindBlob housed i v)
  | bindValue i v => exact then_pure _ (Statement.accounts_bindValue housed i v)
  | clearBindings => exact then_pure _ (Statement.accounts_clearBindings housed)
  | bindParameterCount => exact then_pure _ (Statement.accounts_bindParameterCount housed)
  | columnCount => exact then_pure _ (Statement.accounts_columnCount housed)
  | columnName i => exact then_pure _ (Statement.accounts_columnName housed i)
  | columnTableName i => exact then_pure _ (Statement.accounts_columnTableName housed i)
  | columnDecltype i => exact then_pure _ (Statement.accounts_columnDecltype housed i)
  | columnType i => exact then_pure _ (Statement.accounts_columnType housed i)
  | columnText i => exact then_pure _ (Statement.accounts_columnText housed i)
  | columnBlob i => exact then_pure _ (Statement.accounts_columnBlob housed i)
  | columnDouble i => exact then_pure _ (Statement.accounts_columnDouble housed i)
  | columnInt i => exact then_pure _ (Statement.accounts_columnInt housed i)
  | columnInt64 i => exact then_pure _ (Statement.accounts_columnInt64 housed i)
  | columnBytes i => exact then_pure _ (Statement.accounts_columnBytes housed i)
  | columnValue i => exact then_pure _ (Statement.accounts_columnValue housed i)

/-- A step on the connection in a slot. -/
theorem accounts_onConnection {m : Connection → Fallible E (host E) α} (g : α → β)
    (h : ∀ conn, Accounts cb roll (m conn).run w (failures BindError.asEngine)) :
    Accounts cb roll (connection slot >>= fun conn => operation (m conn) >>= fun a =>
      pure (g a)).run w (failures Failure.asEngine) :=
  accounts_connection fun conn _ => accounts_operation g (h conn)

variable (t : Target)

/-- Creating a connection answers for nothing; the one in its slot goes. -/
theorem accounts_create :
    Accounts cb (roster w t .create) (act cb t .create).run w (failures Failure.asEngine) := by
  have empties : Empties t t.connectionSlot (.create : Action E.Stimulus) := rfl
  refine accounts_vacate empties fun w' => .run_lift_bind ?_ fun _ _ => .run_pure _
  exact .bind Connection.accounts_create fun _ _ => Course.silent rfl rfl

/-- Connecting answers for the failure to do so; the connection that was in the slot goes. -/
theorem accounts_connect (path : String) (options : OpenOptions) :
    Accounts cb (roster w t (.connect path options)) (act cb t (.connect path options)).run w
      (failures Failure.asEngine) := by
  have empties : Empties t t.connectionSlot (.connect path options : Action E.Stimulus) := rfl
  refine accounts_vacate empties fun w' => ?_
  have opened : Accounts cb (roster w t (.connect path options))
      (operation (Connection.connectWith path options)).run w' (failures Failure.asEngine) := by
    rw [← bind_pure (operation _)]
    exact accounts_operation id (Connection.accounts_connectWith path options)
  refine .run_bind opened fun conn _ _ => ?_
  exact .run_lift_bind (Course.silent rfl rfl) fun _ _ => .run_pure _

/-- Running statements answers for the failure to do so. -/
theorem accounts_executeBatch (sql : String) :
    Accounts cb roll (act cb t (.executeBatch sql)).run w (failures Failure.asEngine) := by
  refine accounts_connection fun conn _ => ?_
  have executed : Accounts cb roll (engage conn.id (conn.executeBatch cb sql).run) w
      (failures BindError.asEngine) := accounts_engage fun _ => conn.accounts_executeBatch sql
  unfold lift
  rw [ExceptT.run_bind_lift]
  refine executed.bind_pure fun r w' => ?_
  cases r with
  | error e => exact ⟨.pure rfl, rfl⟩
  | ok => exact ⟨.pure rfl, rfl⟩

/-- Registering a busy handler answers for the failure to do so. -/
theorem accounts_registerBusyHandler (body : HandlerBody E.Stimulus) :
    Accounts cb (roster w t (.registerBusyHandler body)) (act cb t (.registerBusyHandler body)).run
      w (failures Failure.asEngine) := by
  refine accounts_handler body fun closure w' owned registry => ?_
  have new : (roster w t (.registerBusyHandler body)).Covers
      (capturedBy [(.busy closure : Registration (host E))]) := Roster.covers_singleton owned
  have covers : (roster w t (.registerBusyHandler body)).Covers w'.registry.captured :=
    registry ▸ roster_covers
  refine accounts_withClosure new covers fun conn => ?_
  exact accounts_operation _ (conn.accounts_registerBusyHandler new covers)

/-- Registering a function answers for the failure to do so. -/
theorem accounts_registerFunction (name : String) (arity : Int32) (flags : FunctionFlags)
    (body : FunctionBody E.Stimulus) :
    Accounts cb (roster w t (.registerFunction name arity flags body))
      (act cb t (.registerFunction name arity flags body)).run w (failures Failure.asEngine) := by
  refine accounts_function name arity flags body fun closure w' owned registry => ?_
  have new : (roster w t (.registerFunction name arity flags body)).Covers
      (capturedBy [(.function closure : Registration (host E))]) := Roster.covers_singleton owned
  have covers : (roster w t (.registerFunction name arity flags body)).Covers
      w'.registry.captured := registry ▸ roster_covers
  refine accounts_withClosure new covers fun conn => ?_
  exact accounts_operation _ (conn.accounts_registerFunction name arity flags new covers)

/-- Interrupting through a handle answers for nothing. -/
theorem accounts_interruptBy (slot : String) :
    Accounts cb roll (act cb t (.interruptBy slot)).run w (failures Failure.asEngine) := by
  refine accounts_state ?_
  split
  · exact .run_throw rfl
  · next id _ =>
    refine .run_lift_bind (Connection.accounts_interrupt id) fun _ _ => ?_
    exact .run_lift_bind (.get_bind (.pure rfl)) fun _ _ => .run_pure _

/-- Preparing a statement answers for the failure to do so; the statement that was in the slot
goes. -/
theorem accounts_prepare (sql : String) :
    Accounts cb (roster w t (.prepare sql)) (act cb t (.prepare sql)).run w
      (failures Failure.asEngine) := by
  have prepared (w' : World E (host E)) : Accounts cb (roster w t (.prepare sql)) (do
      let conn ← connection t.connectionSlot
      let stmt ← operation (conn.prepare sql)
      lift (putStatement t.statementSlot stmt)
      pure (.text (some stmt.sql)) : Attempt E (Payload E.Response)).run w'
        (failures Failure.asEngine) := by
    refine accounts_connection fun conn _ => ?_
    have made : Accounts cb (roster w t (.prepare sql)) (operation (conn.prepare sql)).run w'
        (failures Failure.asEngine) := by
      rw [← bind_pure (operation _)]
      exact accounts_operation id (conn.accounts_prepare sql)
    refine .run_bind made fun stmt _ _ => ?_
    exact .run_lift_bind (Course.silent rfl rfl) fun _ _ => .run_pure _
  refine accounts_state ?_
  by_cases used : t.statementSlot ∈ w.host.stepping
  · simp only [if_pos used]
    exact .run_throw rfl
  · simp only [if_neg used]
    cases found : w.host.statements.get? t.statementSlot with
    | none => exact prepared w
    | some stmt =>
      have retiring : (roster w t (.prepare sql)).retiring stmt := .inr ⟨trivial, found⟩
      exact .run_lift_bind (accounts_dropStatement (housed_of_get? found) retiring) fun _ w' =>
        prepared w'

/-- A step of a statement answers for the failure of the engine's step. -/
theorem accounts_step :
    Accounts cb (roster w t .step) (act cb t .step).run w (failures Failure.asEngine) := by
  refine accounts_statement fun stmt found => ?_
  unfold lift
  rw [ExceptT.run_bind_lift]
  refine (accounts_advance (housed_of_get? found)).bind_pure fun r w' => ?_
  cases r with
  | error e => exact ⟨.pure rfl, rfl⟩
  | ok outcome => cases outcome <;> exact ⟨.pure rfl, rfl⟩

/-- A step ends with the engine error of a call that failed, if there is one. -/
theorem accounts_act (action : Action E.Stimulus) (w : World E (host E)) :
    Accounts cb (roster w t action) (act cb t action).run w (failures Failure.asEngine) := by
  have covers : (roster w t action).Covers w.registry.captured := roster_covers
  cases action with
  | create => exact accounts_create t
  | connect path options => exact accounts_connect t path options
  | openWith path options =>
    have claims : Claims t t.connectionSlot (.openWith path options : Action E.Stimulus) := rfl
    exact accounts_exclusive claims fun conn w' _ _ =>
      accounts_settle _ (conn.accounts_openWith path options) fun _ _ => Course.silent rfl rfl
  | close =>
    have claims : Claims t t.connectionSlot (.close : Action E.Stimulus) := rfl
    exact accounts_exclusive claims fun conn w' _ registry =>
      accounts_settle _ (conn.accounts_close (registry ▸ covers)) fun _ _ => Course.silent rfl rfl
  | dropConnection =>
    have claims : Claims t t.connectionSlot (.dropConnection : Action E.Stimulus) := rfl
    refine accounts_exclusive claims fun conn w' found registry => ?_
    have leaving : (roster w t .dropConnection).leaving conn := .inl ⟨_, rfl, found⟩
    exact .run_lift_bind (accounts_dropConnection leaving (registry ▸ covers)) fun _ _ =>
      .run_pure _
  | executeBatch sql => exact accounts_executeBatch t sql
  | busyTimeout ms =>
    exact accounts_onConnection _ fun conn => conn.accounts_busyTimeout ms covers
  | registerBusyHandler body => exact accounts_registerBusyHandler t body
  | clearBusyHandler =>
    exact accounts_onConnection _ fun conn => conn.accounts_clearBusyHandler covers
  | registerFunction name arity flags body =>
    exact accounts_registerFunction t name arity flags body
  | removeFunction name arity =>
    exact accounts_onConnection _ fun conn => conn.accounts_removeFunction name arity covers
  | errmsg => exact accounts_onConnection _ fun conn => conn.accounts_errmsg
  | version => exact accounts_connection fun _ _ => accounts_operation _ Library.accounts_version
  | changes => exact accounts_onConnection _ fun conn => conn.accounts_changes
  | totalChanges => exact accounts_onConnection _ fun conn => conn.accounts_totalChanges
  | limit limit value => exact accounts_onConnection _ fun conn => conn.accounts_limit limit value
  | enableLoadExtension on =>
    exact accounts_onConnection _ fun conn => conn.accounts_enableLoadExtension on
  | interrupt =>
    exact accounts_connection fun conn _ =>
      .run_lift_bind (Connection.accounts_interrupt conn.id) fun _ _ => .run_pure _
  | keepInterruptHandle slot =>
    exact accounts_connection fun conn _ =>
      .run_lift_bind (Course.silent rfl rfl) fun _ _ => .run_pure _
  | describeConnection => exact accounts_connection fun conn _ => .run_pure _
  | enableSharedCache on =>
    exact accounts_operation _ (Library.accounts_enableSharedCache on)
  | interruptBy slot => exact accounts_interruptBy t slot
  | prepare sql => exact accounts_prepare t sql
  | dropStatement =>
    refine accounts_statement fun stmt found => ?_
    have retiring : (roster w t .dropStatement).retiring stmt := .inr ⟨trivial, found⟩
    exact .run_lift_bind (accounts_dropStatement (housed_of_get? found) retiring) fun _ _ =>
      .run_pure _
  | step => exact accounts_step t
  | reset =>
    exact accounts_statement fun stmt found =>
      accounts_settle _ (Statement.accounts_reset (housed_of_get? found)) fun _ _ =>
        Course.silent rfl rfl
  | finalize =>
    exact accounts_statement fun stmt found =>
      accounts_settle _ (Statement.accounts_finalize (housed_of_get? found)) fun _ _ =>
        Course.silent rfl rfl
  | query query =>
    refine accounts_statement fun stmt found => ?_
    exact bind_pure (operation (query.ask stmt)) ▸
      accounts_operation id (accounts_query query (housed_of_get? found))
  | describeStatement => exact accounts_statement fun stmt _ => .run_pure _
  | stimulate stimulus =>
    exact .run_lift_bind (Course.stimulated stimulus) fun _ _ => .run_pure _
  | invalid => exact .run_throw rfl

/-- Before a session there are no statements. -/
theorem begin_backed (engine : E.State) : Stage.Backed ⟨{}, begin E engine⟩ := by
  intro t ht
  exact absurd ht (Multiset.notMem_zero t)

/-- In every state in which a session can perform a step, callbacks included, what happens
during a step is a course, and the engine error that the step ends with is the one that the
course has to answer for.  Nobody waits for what goes out of use in a step, but this is never the
connection that the step is to close, nor the statement that it is to finalize.  Statements are
diagnosed by their own connection, which is open.  The message of a failure is the text that the
engine gives, and if there is none that can be read, a text made from the result code. -/
theorem engine_failures_reported (reachable : Reachable w) :
    (∀ (cb : Callbacks E (host E)) (t : Target) (action : Action E.Stimulus),
      Course cb (roster w t action) (failures Failure.asEngine ((act cb t action).run.run w).1) w
        ((act cb t action).run.run w).2) ∧
    (∀ (t : Target) conn x, w.host.connections.get? t.connectionSlot = some conn →
      (roster w t .close).leaving x → x.id ≠ conn.id) ∧
    (∀ (t : Target) stmt, ¬ (roster w t .finalize).retiring stmt) ∧
    (∀ slot stmt, w.host.statements.get? slot = some stmt →
      ∃ x, Has w x ∧ x.id = stmt.connection ∧ x.database = .ok stmt.database) ∧
    (∀ (code : Int32) (text : CString) (message : String), text.content = Utf8.encode message →
      Bridge.diagnosis code (some text) = message) ∧
    (∀ (code : Int32) (text : Option CString),
      (∀ s message, text = some s → s.content ≠ Utf8.encode message) →
        Bridge.diagnosis code text = s!"result code {code.toInt}") ∧
    ∀ (symbol : Symbol) (code : Int32) (message : String),
      (Event.callFailed symbol code message).level = .debug ∧
        (Event.callFailed symbol code message).message =
          s!"{symbol.name} failed with code {code.toInt}: {message}" := by
  refine ⟨fun cb t action => accounts_act t action w, ?_, ?_, ?_, ?_, ?_, fun _ _ _ => ⟨rfl, rfl⟩⟩
  · rintro t conn x found (⟨slot, empties, -⟩ | captured)
    · exact empties.elim
    · -- what closures own is in no slot
      have shared : conn ∈ (w.host.custody 0).shared := Slots.mem_values_iff.mpr ⟨_, found⟩
      exact reachable.lived.coherent.id_ne_of_captured shared captured
  · rintro t stmt (⟨slot, conn, other, claims, -⟩ | ⟨replaces, -⟩)
    · exact claims.elim
    · exact replaces.elim
  · intro slot stmt found
    have backed : Stage.Backed (⟨w.host.custody 0, w⟩ : Stage E (host E)) :=
      reachable.preserves (fun _ => True) (fun _ _ _ => trivial)
        (fun _ _ turn _ => turn.backed) begin_backed trivial
    obtain ⟨x, hx, same, database⟩ := backed stmt (Slots.mem_values_iff.mpr ⟨slot, found⟩)
    exact ⟨x, has_of_held (Stage.mem_held_of_shared hx), same, database⟩
  · exact fun code text message => Bridge.diagnosis_of_readable
  · exact fun code text => Bridge.diagnosis_of_unreadable

/-- An engine that fails a step with an extended result code and has no message for it. -/
def muteEngine : Scripted.State :=
  { script := ⟨[(.step, .reaction { code := some 266, message := some none })]⟩ }

/-- The world in which a statement has been prepared by this engine. -/
def muteWorld : World Scripted.engine (host Scripted.engine) :=
  let steps : List (Step Scripted.engine.Stimulus) :=
    [({ connection := some "a" }, .connect "x" {}),
     ({ connection := some "a", statement := some "s" }, .prepare "q")]
  ((steps.mapM (next 1)).run (begin Scripted.engine muteEngine)).2

/-- The step ends with the whole result code, and with a text made from it. -/
theorem mute_step_fails :
    let cb := callbacks (perform (E := Scripted.engine) 1)
    let e : EngineError := ⟨266, "result code 266"⟩
    let t : Target := { statement := some "s" }
    let r := (act cb t .step).run.run muteWorld
    failures Failure.asEngine r.1 = [e] ∧ Course cb (roster muteWorld t .step) [e] muteWorld r.2 ∧
      ∃ x, Has muteWorld x ∧ x.database = .ok ⟨1⟩ := by
  intro cb e t r
  have reachable : Reachable muteWorld := (Reachable.begin _).steps 1 _
  obtain ⟨course, -, -, backed, -, -, -⟩ := engine_failures_reported reachable
  have failed : failures Failure.asEngine r.1 = [e] := by decide +kernel
  have found : (muteWorld.host.statements.get? "s").map (·.database) = some ⟨1⟩ := by
    decide +kernel
  obtain ⟨stmt, hstmt, database⟩ := Option.map_eq_some_iff.mp found
  obtain ⟨x, has, -, live⟩ := backed "s" stmt hstmt
  refine ⟨failed, ?_, x, has, database ▸ live⟩
  exact failed ▸ course cb t .step

end Session

end EngineBridge
