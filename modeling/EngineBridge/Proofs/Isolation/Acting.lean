import EngineBridge.Proofs.Isolation.Attempts

/-!
# Steps of a party agree

A step of a party does the same in two worlds that are alike for the party, whatever else there
is in the two worlds, if the callbacks that it sets off do.
-/

set_option autoImplicit false

namespace EngineBridge.Session

open Native

variable {E : Engine} {S : Setting E} {θ : Ties} {α : Type} {cb : Callbacks E (host E)}
  {t : Target}

open Attempt

/-- The two attempts do the same for a party and come to the same result. -/
abbrev Acts (S : Setting E) (θ : Ties) (m m' : Attempt E (Payload E.Response)) : Prop :=
  Agrees S θ m.run m'.run (Results PayloadTied)

/-- A step that asks a connection for something, which does not depend on its identity. -/
theorem acts_question {m : Connection → Fallible E (host E) α} {g : α → Payload E.Response}
    (hslot : S.party.connections t.connectionSlot) (nameless : ∀ θ a, PayloadTied θ (g a) (g a))
    (same : ∀ conn id, m { conn with id } = m conn) (repeats : ∀ conn, Repeats S (m conn).run) :
    Acts S θ
      (connection t.connectionSlot >>= fun conn => operation (m conn) >>= fun a => pure (g a))
      (connection t.connectionSlot >>= fun conn =>
        operation (m conn) >>= fun a => pure (g a)) := by
  refine agrees_connection hslot fun conn conn' tied => ?_
  obtain ⟨id', -, rfl⟩ := tied.exists_eq
  rw [same conn id']
  refine .run_bind (agrees_operation (repeats conn).results) fun θ₁ a _ _ heq => ?_
  subst heq
  exact .run_pure (nameless θ₁ a)

/-- A step that gives an order to connections that are tied does the same. -/
theorem acts_order {m m' : Connection → Fallible E (host E) Unit}
    (hslot : S.party.connections t.connectionSlot)
    (h : ∀ conn conn', conn.Tied θ conn' →
      Agrees S θ (m conn).run (m' conn').run (Results Anything)) :
    Acts S θ
      (connection t.connectionSlot >>= fun conn => operation (m conn) >>= fun _ => pure .nothing)
      (connection t.connectionSlot >>= fun conn =>
        operation (m' conn) >>= fun _ => pure .nothing) :=
  agrees_connection hslot fun conn conn' tied =>
    .run_bind (agrees_operation (h conn conn' tied)) fun _ _ _ _ _ => .run_pure .nothing

/-- A handle comes back to its place, and the step ends with the result of the operation. -/
theorem acts_return {Tied : Ties → α → α → Prop} {put : α → SessionM E Unit}
    {m m' : SessionM E (Except BindError Unit × α)}
    (back : ∀ θ₁ after after', Tied θ₁ after after' →
      Agrees S θ₁ (put after) (put after') Anything)
    (h : Agrees S θ m m' (GivesBack Tied)) :
    Acts S θ
      (do
        let (result, after) ← lift m
        lift (put after)
        settle result
        pure .nothing)
      (do
        let (result, after) ← lift m'
        lift (put after)
        settle result
        pure .nothing) := by
  refine .run_lift_bind h fun θ₁ r r' _ hr => ?_
  obtain ⟨result, after⟩ := r
  obtain ⟨result', after'⟩ := r'
  obtain ⟨rfl, hafter⟩ := hr
  refine .run_lift_bind (back θ₁ after after' hafter) fun θ₂ _ _ _ _ => ?_
  exact .run_bind (agrees_settle result) fun _ _ _ _ _ => .run_pure .nothing

/-! ## Steps on connections -/

/-- A step that creates a connection does the same. -/
theorem acts_create (hslot : S.party.connections t.connectionSlot) :
    Acts S θ (act cb t .create) (act cb t .create) := by
  refine .run_bind (agrees_vacate hslot) fun θ₁ _ _ _ _ => ?_
  have created : Agrees S θ₁
      (do putConnection t.connectionSlot (← Connection.create) : SessionM E Unit)
      (do putConnection t.connectionSlot (← Connection.create)) Anything :=
    Connection.agrees_create.bind fun θ₂ conn conn' _ tied => agrees_putConnection hslot tied
  exact .run_lift_bind created fun _ _ _ _ _ => .run_pure .nothing

/-- A step that creates a connection and opens it does the same. -/
theorem acts_connect (path : String) (options : OpenOptions)
    (hslot : S.party.connections t.connectionSlot) :
    Acts S θ (act cb t (.connect path options)) (act cb t (.connect path options)) := by
  refine .run_bind (agrees_vacate hslot) fun θ₁ _ _ _ _ => ?_
  have opened : Agrees S θ₁ (operation (Connection.connectWith path options)).run
      (operation (Connection.connectWith path options)).run (Results Connection.Tied) :=
    agrees_operation (Connection.agrees_connectWith path options)
  refine .run_bind opened fun θ₂ conn conn' _ tied => ?_
  exact .run_lift_bind (agrees_putConnection hslot tied) fun _ _ _ _ _ => .run_pure .nothing

/-- A step that drops a connection does the same. -/
theorem acts_dropConnection (hslot : S.party.connections t.connectionSlot) :
    Acts S θ (act cb t .dropConnection) (act cb t .dropConnection) := by
  refine .run_bind (agrees_exclusive hslot) fun θ₁ conn conn' _ tied => ?_
  exact .run_lift_bind (agrees_dropConnection hslot tied) fun _ _ _ _ _ => .run_pure .nothing

/-- A step that executes a batch does the same. -/
theorem acts_executeBatch (heeds : Heeds S cb) (sql : String)
    (hslot : S.party.connections t.connectionSlot) :
    Acts S θ (act cb t (.executeBatch sql)) (act cb t (.executeBatch sql)) := by
  refine agrees_connection hslot fun conn conn' tied => ?_
  have executed : Agrees S θ (engage conn.id (conn.executeBatch cb sql).run)
      (engage conn'.id (conn'.executeBatch cb sql).run) (Results Anything) :=
    agrees_engage tied.1
      (fun θ₁ le => Connection.agrees_executeBatch heeds sql (tied.mono le))
      fun _ _ _ _ _ h => h
  refine .run_lift_bind executed fun θ₁ r r' _ hr => ?_
  cases hr with
  | ok => exact .run_pure .nothing
  | error e => exact .run_throw _

/-- A step that interrupts a connection does the same. -/
theorem acts_interrupt (hslot : S.party.connections t.connectionSlot) :
    Acts S θ (act cb t .interrupt) (act cb t .interrupt) := by
  refine agrees_connection hslot fun conn conn' tied => ?_
  have interrupted := Connection.agrees_interrupt (S := S) tied.1
  exact .run_lift_bind interrupted fun _ _ _ _ _ => .run_pure .nothing

/-- Every plain step on a slot of the party does the same. -/
theorem acts_plain (heeds : Heeds S cb) {action : Action E.Stimulus} (plain : action.IsPlain)
    (hslot : S.party.connections t.connectionSlot) :
    Acts S θ (act cb t action) (act cb t action) := by
  cases action with
  | create => exact acts_create hslot
  | connect path options => exact acts_connect path options hslot
  | openWith path options =>
    refine .run_bind (agrees_exclusive hslot) fun θ₁ conn conn' _ tied => ?_
    exact acts_return (fun _ _ _ => agrees_putConnection hslot)
      (Connection.agrees_openWith path options tied)
  | close =>
    refine .run_bind (agrees_exclusive hslot) fun θ₁ conn conn' _ tied => ?_
    exact acts_return (fun _ _ _ => agrees_putConnection hslot) (Connection.agrees_close tied)
  | dropConnection => exact acts_dropConnection hslot
  | executeBatch sql => exact acts_executeBatch heeds sql hslot
  | busyTimeout ms => exact acts_order hslot fun _ _ tied => Connection.agrees_busyTimeout ms tied
  | clearBusyHandler =>
    exact acts_order hslot fun _ _ tied => Connection.agrees_clearBusyHandler tied
  | removeFunction name arity =>
    exact acts_order hslot fun _ _ tied => Connection.agrees_removeFunction name arity tied
  | errmsg =>
    exact acts_question hslot (fun _ s => .text (some s)) (fun _ _ => rfl) fun _ =>
      Connection.repeats_errmsg
  | version =>
    exact acts_question hslot (fun _ s => .text (some s)) (fun _ _ => rfl) fun _ =>
      Library.repeats_version
  | changes =>
    exact acts_question hslot (fun _ n => .integer n.toInt) (fun _ _ => rfl) fun _ =>
      Connection.repeats_changes
  | totalChanges =>
    exact acts_question hslot (fun _ n => .integer n.toInt) (fun _ _ => rfl) fun _ =>
      Connection.repeats_totalChanges
  | limit limit value =>
    exact acts_question hslot (fun _ n => .integer n.toInt) (fun _ _ => rfl) fun _ =>
      Connection.repeats_limit limit value
  | enableLoadExtension on =>
    exact acts_question hslot (fun _ _ => .nothing) (fun _ _ => rfl) fun _ =>
      Connection.repeats_enableLoadExtension on
  | interrupt => exact acts_interrupt hslot
  | describeConnection =>
    exact agrees_connection hslot fun conn conn' tied => .run_pure (.connection tied)
  | _ => exact plain.elim

/-! ## Callbacks and interrupt handles -/

/-- Something is done with the connection in a slot and the closure that a step has made, or
the closure goes. -/
theorem acts_withClosure {r r' : Registration (host E)}
    {f f' : Connection → Attempt E (Payload E.Response)}
    (hslot : S.party.connections t.connectionSlot) (tied : RegistrationTied S.party θ r r')
    (next : ∀ conn conn', conn.Tied θ conn' → Acts S θ (f conn) (f' conn')) :
    Acts S θ
      (do
        match (← lift state).connections.get? t.connectionSlot with
        | none =>
          lift (Bridge.dispose [r])
          throw .noSlot
        | some conn => f conn)
      (do
        match (← lift state).connections.get? t.connectionSlot with
        | none =>
          lift (Bridge.dispose [r'])
          throw .noSlot
        | some conn => f' conn) := by
  refine agrees_state fun w w' alike => ?_
  have both := alike.connection _ hslot
  generalize w.host.connections.get? t.connectionSlot = found at both
  generalize w'.host.connections.get? t.connectionSlot = found' at both
  cases both with
  | some h => exact next _ _ h
  | none =>
    have disposed : Agrees S θ (Bridge.dispose [r]) (Bridge.dispose [r']) Anything :=
      Bridge.agrees_dispose θ _ _ (.cons tied .nil)
    exact .run_lift_bind disposed fun _ _ _ _ _ => .run_throw _

/-- A step that registers a busy handler of the party does the same. -/
theorem acts_registerBusyHandler {body : HandlerBody E.Stimulus}
    (hslot : S.party.connections t.connectionSlot) (within : HandlerBody.Within S.party body) :
    Acts S θ (act cb t (.registerBusyHandler body)) (act cb t (.registerBusyHandler body)) := by
  refine .run_bind (agrees_handler within) fun θ₁ c c' _ closures => ?_
  refine acts_withClosure hslot (.busy closures) fun conn conn' tied => ?_
  have registered := Connection.agrees_registerBusyHandler tied closures
  exact .run_bind (agrees_operation registered) fun _ _ _ _ _ => .run_pure .nothing

/-- A step that registers a user function of the party does the same. -/
theorem acts_registerFunction (name : String) (arity : Int32) (flags : FunctionFlags)
    {body : FunctionBody E.Stimulus} (hslot : S.party.connections t.connectionSlot)
    (within : FunctionBody.Within S.party body) :
    Acts S θ (act cb t (.registerFunction name arity flags body))
      (act cb t (.registerFunction name arity flags body)) := by
  refine .run_bind (agrees_function within) fun θ₁ c c' _ closures => ?_
  refine acts_withClosure hslot (.function closures) fun conn conn' tied => ?_
  have registered := Connection.agrees_registerFunction name arity flags tied closures
  exact .run_bind (agrees_operation registered) fun _ _ _ _ _ => .run_pure .nothing

/-- A step that keeps a handle in a slot of the party does the same. -/
theorem acts_keepInterruptHandle {kept : String} (hslot : S.party.connections t.connectionSlot)
    (within : S.party.interrupts kept) :
    Acts S θ (act cb t (.keepInterruptHandle kept)) (act cb t (.keepInterruptHandle kept)) := by
  refine agrees_connection hslot fun conn conn' tied => ?_
  have put : Agrees S θ
      (update (E := E) fun s => { s with interrupts := s.interrupts.put kept conn.id })
      (update fun s => { s with interrupts := s.interrupts.put kept conn'.id }) Anything :=
    fun _ _ alike => ⟨θ, le_refl θ, alike.putInterrupt within tied.1, trivial⟩
  exact .run_lift_bind put fun _ _ _ _ _ => .run_pure .nothing

/-- A step that interrupts by a handle of the party does the same. -/
theorem acts_interruptBy {kept : String} (within : S.party.interrupts kept) :
    Acts S θ (act cb t (.interruptBy kept)) (act cb t (.interruptBy kept)) := by
  refine agrees_state fun w w' alike => ?_
  have both := alike.interrupt _ within
  generalize w.host.interrupts.get? kept = found at both
  generalize w'.host.interrupts.get? kept = found' at both
  cases both with
  | none => exact .run_throw _
  | some tied =>
    have interrupted := Connection.agrees_interrupt (S := S) tied
    refine .run_lift_bind interrupted fun θ₁ _ _ le _ => ?_
    have described := Connection.agrees_describeHandle (S := S) (le.1 tied)
    refine .run_lift_bind described fun θ₂ text _ _ heq => ?_
    subst heq
    exact .run_pure (.text (some text))

/-! ## Steps on statements -/

/-- A step that prepares a statement does the same. -/
theorem acts_prepare (sql : String) (hslot : S.party.connections t.connectionSlot)
    (within : S.party.statements t.statementSlot) :
    Acts S θ (act cb t (.prepare sql)) (act cb t (.prepare sql)) := by
  have prepared (θ₁ : Ties) : Acts S θ₁
      (do
        let conn ← connection t.connectionSlot
        let stmt ← operation (conn.prepare sql)
        lift (putStatement t.statementSlot stmt)
        pure (.text (some stmt.sql)))
      (do
        let conn ← connection t.connectionSlot
        let stmt ← operation (conn.prepare sql)
        lift (putStatement t.statementSlot stmt)
        pure (.text (some stmt.sql))) := by
    refine agrees_connection hslot fun conn conn' tied => ?_
    have operated : Agrees S θ₁ (operation (conn.prepare sql)).run
        (operation (conn'.prepare sql)).run (Results Statement.Tied) :=
      agrees_operation (Connection.agrees_prepare sql tied)
    refine .run_bind operated fun θ₂ stmt stmt' _ hstmt => ?_
    refine .run_lift_bind (agrees_putStatement within hstmt) fun θ₃ _ _ _ _ => ?_
    obtain ⟨id', -, rfl⟩ := hstmt.exists_eq
    exact .run_pure (.text _)
  refine agrees_state fun w w' alike => ?_
  have stepping := alike.mem_stepping_iff within
  have both := alike.statement _ within
  simp only [stepping]
  split
  · exact .run_throw _
  · generalize w.host.statements.get? t.statementSlot = found at both
    generalize w'.host.statements.get? t.statementSlot = found' at both
    cases both with
    | none => exact prepared θ
    | some h =>
      exact .run_lift_bind (agrees_dropStatement within h) fun θ₁ _ _ _ _ => prepared θ₁

/-- A step that steps a statement does the same. -/
theorem acts_step (heeds : Heeds S cb) (hslot : S.party.statements t.statementSlot) :
    Acts S θ (act cb t .step) (act cb t .step) := by
  refine agrees_statement hslot fun stmt stmt' tied => ?_
  refine .run_lift_bind (agrees_advance heeds hslot tied) fun θ₁ result _ _ heq => ?_
  subst heq
  refine .run_bind (agrees_settle result) fun θ₂ outcome _ _ heq => ?_
  subst heq
  cases outcome with
  | row => exact .run_pure (.text _)
  | done => exact .run_pure (.text _)

/-- A step that puts a question to a statement does the same. -/
theorem acts_query (query : Query) (hslot : S.party.statements t.statementSlot) :
    Acts S θ (act cb t (.query query)) (act cb t (.query query)) := by
  refine agrees_statement hslot fun stmt stmt' tied => ?_
  obtain ⟨id', -, rfl⟩ := tied.exists_eq
  have same : query.ask { stmt with connection := id' } =
      (query.ask stmt : Fallible E (host E) (Payload E.Response)) := by
    cases query <;> rfl
  rw [same]
  exact agrees_operation (Statement.agrees_query query)

/-- Every step on a statement of the party does the same. -/
theorem acts_onStatement (heeds : Heeds S cb) {action : Action E.Stimulus}
    (statement : action.IsOnStatement) (hslot : S.party.statements t.statementSlot) :
    Acts S θ (act cb t action) (act cb t action) := by
  cases action with
  | dropStatement =>
    refine agrees_statement hslot fun stmt stmt' tied => ?_
    exact .run_lift_bind (agrees_dropStatement hslot tied) fun _ _ _ _ _ => .run_pure .nothing
  | step => exact acts_step heeds hslot
  | reset =>
    exact agrees_statement hslot fun stmt stmt' tied =>
      acts_return (fun _ _ _ => agrees_putStatement hslot) (Statement.agrees_reset tied)
  | finalize =>
    exact agrees_statement hslot fun stmt stmt' tied =>
      acts_return (fun _ _ _ => agrees_putStatement hslot) (Statement.agrees_finalize tied)
  | query query => exact acts_query query hslot
  | describeStatement =>
    exact agrees_statement hslot fun stmt stmt' tied => .run_pure (.statement tied)
  | _ => exact statement.elim

/-! ## All steps -/

/-- A step of a party agrees if the callbacks do. -/
theorem acts_act (heeds : Heeds S cb) {action : Action E.Stimulus}
    (within : Action.Within S.party t action) : Acts S θ (act cb t action) (act cb t action) := by
  cases within with
  | plain plain slot => exact acts_plain heeds plain slot
  | registerBusyHandler slot within => exact acts_registerBusyHandler slot within
  | registerFunction name arity flags slot within =>
    exact acts_registerFunction name arity flags slot within
  | keepInterruptHandle slot within => exact acts_keepInterruptHandle slot within
  | interruptBy within => exact acts_interruptBy within
  | prepare sql slot within => exact acts_prepare sql slot within
  | onStatement statement slot => exact acts_onStatement heeds statement slot
  | stimulate stimulus =>
    refine .run_lift_bind (Upcall.agrees_stimulate heeds stimulus) fun θ₁ response _ _ heq => ?_
    subst heq
    exact .run_pure (.response response)
  | invalid => exact .run_throw _

end EngineBridge.Session
