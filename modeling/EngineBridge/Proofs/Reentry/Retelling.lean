import EngineBridge.Proofs.Reentry.Steps

/-!
# Sessions at rest

What a step does to the registry depends on where it starts if it registers a callback, or if the
engine calls back meanwhile.  `Retells` says that all is accounted for from where the session rests.

Two things have to be in order where a step starts (`Poised`).  What is in use is guarded, so that
the session rests whenever a callback runs; and the connections are coherent, so that a callback
that is registered is in its slot at the end: its connection is one that the session has in a
slot, and nothing that goes meanwhile owns it.
-/

set_option autoImplicit false

namespace EngineBridge

open Native Relation

/-- Turns keep connections as they should be. -/
theorem Turn.coherent {E : Engine} {H : Host} {s s' : Stage E H} (turn : Turn s s')
    (h : s.Coherent) : s'.Coherent := by
  cases turn with
  | move move => exact move.shifts.coherent h
  | host =>
    obtain ⟨distinct, counted, armed, opened, target⟩ := h
    exact ⟨distinct, counted, armed, opened, target⟩

namespace Session

variable {E : Engine} {α β ε : Type} {w v : World E (host E)}

/-- A session rests: what is in use is guarded, and connections are as they should be. -/
structure Poised (w : World E (host E)) : Prop where
  guarded : w.host.Guarded
  coherent : Stage.Coherent (⟨w.host.custody 0, w⟩ : Stage E (host E))

namespace Poised

/-- Where turns lead from a session that rests, it is in order again. -/
theorem of_turns (h : Poised w) (guarded : v.host.Guarded)
    (turns : ReflTransGen Turn ⟨w.host.custody 0, w⟩ ⟨v.host.custody 0, v⟩) : Poised v := by
  refine ⟨guarded, ?_⟩
  have coherent : ∀ s : Stage E (host E),
      ReflTransGen Turn ⟨w.host.custody 0, w⟩ s → s.Coherent := by
    intro s turns
    induction turns with
    | refl => exact h.coherent
    | tail _ turn ih => exact turn.coherent ih
  exact coherent _ turns

/-- Where a session rests is kept on the way of a step to its callbacks. -/
theorem arrives (h : Poised w) (arrives : Arrives w v) : Poised v :=
  h.of_turns (arrives.2.guarded h.guarded) arrives.1

/-- A tame computation leaves a session in order. -/
theorem run {m : SessionM E α} (h : Poised w) (tame : Tame m) : Poised (m w).2 :=
  h.arrives (tame.arrives rfl h.guarded)

/-- Quiet times leave a session in order. -/
theorem quiet (h : Poised w) (quiet : w.Quiet v) : Poised v := by
  obtain ⟨host, registry, connections, armed, -⟩ := quiet
  have held : Stage.held (⟨v.host.custody 0, v⟩ : Stage E (EngineBridge.Session.host E)) =
      Stage.held (⟨w.host.custody 0, w⟩ : Stage E (EngineBridge.Session.host E)) := by
    unfold Stage.held
    rw [host, registry]
  have target : v.target = w.target := by
    funext id
    unfold World.target
    rw [armed]
  obtain ⟨distinct, counted, armed', opened, target'⟩ := h.coherent
  refine ⟨by rw [host]; exact h.guarded, ?_⟩
  constructor
  · rw [held]
    exact distinct
  · rw [held, connections]
    exact counted
  · rw [target, connections]
    exact armed'
  · rw [held]
    exact opened
  · rw [held, target]
    exact target'

/-- An interrupt of a connection in a slot goes to the object behind it. -/
theorem target_eq (h : Poised w) {slot : String} {conn : Connection} {d : Database}
    (found : w.host.connections.get? slot = some conn) (database : conn.database = .ok d) :
    w.target conn.id = some d := by
  have has : Has w conn := .inl ⟨slot, found⟩
  rw [h.coherent.target conn has.held]
  exact Connection.handle_of_database database

end Poised

/-! ## Where the session rests -/

/-- From where the session rests, what happens during a computation accounts for what becomes of
the registry. -/
def Retells (m : SessionM E α) : Prop := ∀ w, Poised w → w.Recounts (m w).2

namespace Retells

/-- What is accounted for anywhere is accounted for where a session rests. -/
theorem of_recounts {m : SessionM E α} (h : Bridge.Recounts m) : Retells m := fun w _ => h w

/-- A sequence is accounted for if its parts are and the first leads from rest to rest. -/
theorem bind {m : SessionM E α} {f : α → SessionM E β} (tame : Tame m) (h : Retells m)
    (next : ∀ a, Retells (f a)) : Retells (m >>= f) := by
  intro w poised
  exact (h w poised).trans (next _ _ (poised.run tame))

/-- What comes first is quiet. -/
theorem quiet_bind {m : SessionM E α} {f : α → SessionM E β}
    (h : ∀ w : World E (host E), w.Quiet (m w).2) (next : ∀ a, Retells (f a)) :
    Retells (m >>= f) := by
  intro w poised
  have first : w.Recounts (m w).2 := .of_quiet (h w)
  exact first.trans (next _ _ (poised.quiet (h w)))

/-- What follows tells what it does from wherever it starts. -/
theorem bind_recounts {m : SessionM E α} {f : α → SessionM E β} (h : Retells m)
    (next : ∀ a, Bridge.Recounts (f a)) : Retells (m >>= f) := by
  intro w poised
  exact (h w poised).trans (next _ _)

/-- The world is looked at. -/
theorem get_bind {f : World E (host E) → SessionM E β}
    (next : ∀ w, Retells (f w)) : Retells (get >>= f) :=
  fun w poised => next w w poised

/-- A computation that cannot fail, followed by one that can and tells what it does from wherever
it starts. -/
theorem run_lift_bind {m : SessionM E α} {f : α → ExceptT ε (SessionM E) β} (h : Retells m)
    (next : ∀ a, Bridge.Recounts (f a).run) :
    Retells ((ExceptT.lift m : ExceptT ε (SessionM E) α) >>= f).run := by
  rw [ExceptT.run_bind_lift]
  exact h.bind_recounts next

/-- What follows a conversion follows if the conversion succeeds. -/
theorem run_ofExcept_bind {convert : ε → BindError} {r : Except ε α}
    {f : α → Fallible E (host E) β} (next : ∀ a, Retells (f a).run) :
    Retells (Fallible.ofExcept convert r >>= f).run := by
  cases r with
  | error e => exact .of_recounts (.run_throw _)
  | ok a => exact next a

end Retells

/-! ## Callbacks that are registered -/

/-- Where moves lead, the session's own state is what it was. -/
theorem host_eq_of_leads {m : SessionM E α} {κ : Custody}
    {post : α → Custody → World E (host E) → Prop} (h : Leads Move m κ w post) :
    (m w).2.host = w.host := by
  obtain ⟨_, moves, -⟩ := h
  exact Moves.host_eq moves

/-- Registering a busy handler leaves the session's own state. -/
theorem host_registerBusyHandler (conn : Connection)
    (handler : Closure (HandlerBody E.Stimulus)) (w : World E (host E)) :
    ((conn.registerBusyHandler handler).run.run w).2.host = w.host := by
  let r : Registration (host E) := .busy handler
  let κ : Custody := { shared := {conn}, exclusive := capturedBy [r] }
  have hand : conn ∈ κ.shared := Multiset.mem_singleton_self conn
  have owned : κ.exclusive = capturedBy [r] + 0 := (add_zero _).symm
  exact host_eq_of_leads (conn.leads_registerBusyHandler hand owned rfl)

/-- Registering a function leaves the session's own state. -/
theorem host_registerFunction (conn : Connection) (name : String) (arity : Int32)
    (flags : FunctionFlags) (function : Closure (FunctionBody E.Stimulus))
    (w : World E (host E)) :
    ((conn.registerFunction name arity flags function).run.run w).2.host = w.host := by
  let r : Registration (host E) := .function function
  let κ : Custody := { shared := {conn}, exclusive := capturedBy [r] }
  have hand : conn ∈ κ.shared := Multiset.mem_singleton_self conn
  have owned : κ.exclusive = capturedBy [r] + 0 := (add_zero _).symm
  exact host_eq_of_leads (conn.leads_registerFunction hand owned)

open Attempt

/-- The state of the session is looked at. -/
theorem state_bind_run (f : State E.Response → Attempt E β) (w : World E (host E)) :
    (lift state >>= f).run w = (f w.host).run w :=
  rfl

/-- Nothing happens after an operation. -/
theorem operation_world {m : Fallible E (host E) α} (g : α → β) (w : World E (host E)) :
    ((operation m >>= fun a => pure (g a) : Attempt E β).run.run w).2 = (m.run.run w).2 := by
  rcases run : m.run.run w with ⟨result, v⟩
  unfold operation Attempt.lift
  rw [bind_assoc, ExceptT.run_bind_lift, Bridge.run_bind_of_run run]
  cases result <;> rfl

/-- Make a closure, and give it to an operation on the connection in a slot. -/
def withClosure {Code : Type} (make : Attempt E (Closure Code))
    (wrap : Closure Code → Registration (host E))
    (register : Connection → Closure Code → Fallible E (host E) Unit) (slot : String) :
    Attempt E (Payload E.Response) := do
  let closure ← make
  match (← lift state).connections.get? slot with
  | none =>
    lift (Bridge.dispose [wrap closure])
    throw .noSlot
  | some conn =>
    operation (register conn closure)
    pure .nothing

/-- Giving a closure to an operation is accounted for if it is whenever the connection, open
before, is open afterwards. -/
theorem retells_withClosure {Code : Type} {make : Attempt E (Closure Code)}
    {wrap : Closure Code → Registration (host E)}
    {register : Connection → Closure Code → Fallible E (host E) Unit} {slot : String}
    (made : Bridge.Recounts make.run)
    (same : ∀ conn closure (w : World E (host E)),
      ((register conn closure).run.run w).2.host = w.host)
    (recounts : ∀ conn closure (w : World E (host E)),
      (∀ d, conn.database = .ok d → ((register conn closure).run.run w).2.target conn.id ≠ none) →
      w.Recounts ((register conn closure).run.run w).2)
    (tame : Tame (withClosure make wrap register slot).run) :
    Retells (withClosure make wrap register slot).run := by
  intro w poised
  have after := poised.run tame
  rcases run : make.run.run w with ⟨answer, w₁⟩
  have first : w.Recounts w₁ := by
    have told := made w
    rw [show make.run w = (answer, w₁) from run] at told
    exact told
  unfold withClosure at after ⊢
  rw [ExceptT.run_bind] at after ⊢
  rw [show ∀ f : _ → SessionM E (Except Failure (Payload E.Response)),
    (make.run >>= f) w = f answer w₁ from fun _ => Bridge.run_bind_of_run run] at after ⊢
  cases answer with
  | error e => exact first
  | ok closure =>
    apply first.trans
    simp only [state_bind_run] at after ⊢
    cases found : w₁.host.connections.get? slot with
    | none => exact Bridge.recounts_dispose [wrap closure] w₁
    | some conn =>
      simp only [found] at after
      have world := operation_world (m := register conn closure)
        (fun _ => (Payload.nothing : Payload E.Response)) w₁
      change Poised ((operation (register conn closure) >>= fun _ =>
        pure Payload.nothing : Attempt E (Payload E.Response)).run.run w₁).2 at after
      change w₁.Recounts ((operation (register conn closure) >>= fun _ =>
        pure Payload.nothing : Attempt E (Payload E.Response)).run.run w₁).2
      rw [world] at after ⊢
      -- the connection is still in its slot, and where the session rests it leads to its object
      apply recounts
      intro d database
      have kept : ((register conn closure).run.run w₁).2.host.connections.get? slot =
          some conn := by
        rw [same]
        exact found
      rw [after.target_eq kept database]
      simp

variable {cb : Callbacks E (host E)} (t : Target)

/-- A step that registers a busy handler is accounted for. -/
theorem retells_registerBusyHandler (body : HandlerBody E.Stimulus) :
    Retells (act cb t (.registerBusyHandler body)).run := by
  have tame : Tame (act cb t (.registerBusyHandler body)).run := tame_registerBusyHandler t body
  exact retells_withClosure (recounts_handler body) host_registerBusyHandler
    (fun _ _ _ => Connection.recounts_registerBusyHandler) tame

/-- A step that registers a user function is accounted for. -/
theorem retells_registerFunction (name : String) (arity : Int32) (flags : FunctionFlags)
    (body : FunctionBody E.Stimulus) :
    Retells (act cb t (.registerFunction name arity flags body)).run := by
  have tame : Tame (act cb t (.registerFunction name arity flags body)).run :=
    tame_registerFunction t name arity flags body
  exact retells_withClosure (recounts_function body)
    (fun conn closure => host_registerFunction conn name arity flags closure)
    (fun _ _ _ => Connection.recounts_registerFunction) tame

/-! ## Serving the engine -/

/-- Whenever a callback runs, it tells what it does to the registry. -/
structure RetellingCallbacks (cb : Callbacks E (host E)) : Prop where
  handle : ∀ handler attempts, Retells (cb.handle handler attempts)
  invoke : ∀ f values, Retells (cb.invoke f values)

/-- The way to a busy handler is quiet. -/
theorem quiet_acceptBusy (userData : Nat) (attempts : Int32) (w : World E (host E)) :
    w.Quiet ((Upcall.acceptBusy userData attempts).run w).2 := by
  have asks : Asks (fun _ => True) (Upcall.acceptBusy userData attempts : SessionM E _) := by
    apply Asks.get_bind
    intro w
    split
    · exact Asks.bind (Asks.record trivial) fun _ => Asks.pure _
    · exact Asks.pure _
  exact (asks w).quiet

/-- The way to the closure of an invocation is quiet. -/
theorem quiet_accept (context : Context) (count : Int32) (arguments : Option (List Argument))
    (w : World E (host E)) : w.Quiet ((Upcall.accept context count arguments).run w).2 :=
  (Upcall.asks_accept context count arguments w).quiet

/-- The engine goes on from another state. -/
theorem quiet_resume (w : World E (host E)) (state : E.State) :
    w.Quiet { w with engine := state } :=
  ⟨rfl, rfl, rfl, rfl, [], rfl, by simp⟩

/-- A busy upcall is accounted for if its handler is. -/
theorem retells_busy (retelling : RetellingCallbacks cb) (userData : Nat) (attempts : Int32) :
    Retells (Upcall.busy cb userData attempts) := by
  apply Retells.quiet_bind (quiet_acceptBusy userData attempts)
  intro found
  cases found with
  | none => exact .of_recounts (.pure _)
  | some found =>
    apply Retells.bind_recounts (retelling.handle found.1 found.2)
    intro outcome
    split
    · exact .pure _
    · exact .bind (.record fun _ => rfl) fun _ => .pure _

/-- A function upcall is accounted for if its function is. -/
theorem retells_function (retelling : RetellingCallbacks cb) (context : Context) (count : Int32)
    (arguments : Option (List Argument)) :
    Retells (Upcall.function cb context count arguments) := by
  have ran : Retells (Upcall.run cb context count arguments) := by
    apply Retells.quiet_bind (quiet_accept context count arguments)
    rintro (e | ⟨f, values⟩)
    · exact .of_recounts (.pure _)
    · exact retelling.invoke f values
  apply ran.bind_recounts
  intro outcome
  split
  · exact .of_asks (Upcall.asks_setResult context _)
  · exact .of_asks (Upcall.asks_setError context _)
  · exact .bind (.record fun _ => rfl) fun _ => .of_asks (Upcall.asks_setError context _)

/-- The engine is served up to its answer. -/
theorem retells_serve (tame : TameCallbacks cb) (retelling : RetellingCallbacks cb)
    (reply : Reply E.State α) : Retells (Upcall.serve cb reply) := by
  induction reply with
  | done answer state =>
    exact .quiet_bind (fun w => quiet_resume w state) fun _ => .of_recounts (.pure _)
  | busy userData attempts state resume ih =>
    apply Retells.quiet_bind fun w => quiet_resume w state
    intro _
    apply Retells.bind (tame_busy tame userData attempts) (retells_busy retelling _ _)
    intro code
    exact .get_bind fun w => ih code w.engine
  | function context count arguments state resume ih =>
    apply Retells.quiet_bind fun w => quiet_resume w state
    intro _
    apply Retells.bind (tame_function tame context count arguments)
      (retells_function retelling _ _ _)
    intro _
    exact .get_bind fun w => ih w.engine

/-- A stimulus from outside is accounted for if the callbacks are. -/
theorem retells_stimulate (tame : TameCallbacks cb) (retelling : RetellingCallbacks cb)
    (stimulus : E.Stimulus) : Retells (Upcall.stimulate cb stimulus) :=
  .get_bind fun _ => retells_serve tame retelling _

/-- An execution starts with two notes. -/
theorem quiet_start (execution : Execution) (w : World E (host E)) :
    w.Quiet ((Upcall.start execution).run w).2 :=
  (World.Quiet.record w fun _ => rfl).trans (.record _ fun _ => rfl)

/-- What the engine runs is accounted for if the callbacks are. -/
theorem retells_execute (tame : TameCallbacks cb) (retelling : RetellingCallbacks cb)
    (execution : Execution) : Retells (Upcall.execute cb execution) := by
  apply Retells.quiet_bind (quiet_start execution)
  intro reply
  apply (retells_serve tame retelling reply).bind_recounts
  intro code
  exact .bind (.record fun _ => rfl) fun _ => .pure _

/-- Executing a batch is accounted for if the callbacks are. -/
theorem retells_executeBatch (tame : TameCallbacks cb) (retelling : RetellingCallbacks cb)
    (conn : Connection) (sql : String) : Retells (conn.executeBatch cb sql).run := by
  apply Retells.run_ofExcept_bind
  intro d
  apply Retells.run_ofExcept_bind
  intro text
  apply Retells.run_lift_bind (retells_execute tame retelling (.exec d text))
  intro code
  split
  · exact .run_pure _
  · exact .run_bind (.run_lift (.of_asks (P := fun _ => True)
      (.diagnose (fun _ _ => trivial) fun _ => trivial))) fun _ => .run_throw _

/-- Stepping a statement is accounted for if the callbacks are. -/
theorem retells_step (tame : TameCallbacks cb) (retelling : RetellingCallbacks cb)
    (stmt : Statement) : Retells (stmt.step cb) := by
  unfold Statement.step
  split
  · exact .of_recounts (.pure _)
  · next p _ =>
    apply (retells_execute tame retelling (.step p)).bind_recounts
    intro code
    split
    · exact .pure _
    · exact .pure _
    · exact .bind (.of_asks (P := fun _ => True) (.diagnose (fun _ _ => trivial) fun _ => trivial))
        fun _ => .pure _

end Session

end EngineBridge
