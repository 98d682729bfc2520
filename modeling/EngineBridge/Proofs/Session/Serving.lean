import EngineBridge.Proofs.Session.Dropping
import EngineBridge.Proofs.Upcall.Invocation

/-!
# Serving the engine

While the engine runs a program it calls back, and the callbacks of a session may run
steps of their own.  If these are tame, so is all that happens until the engine has come
to its end, and the session rests whenever a callback is about to run.
-/

set_option autoImplicit false

namespace EngineBridge

open Native Relation

variable {E : Engine} {H : Host} {α : Type}

namespace Upcall

/-- An argument is read without naming a connection or a statement. -/
theorem asks_readArgument (argument : Argument) :
    Asks (Call.Within none none) (readArgument argument : Bridge E H _) := by
  have within (c : Call) (h : c.Inspects) : c.Within none none := by
    cases c <;> first | exact h.elim | exact .of_nil (fun _ => trivial) rfl
  refine Asks.bind (Asks.ask (within _ trivial)) fun code => ?_
  split
  · exact Asks.pure _
  · exact Asks.bind (Asks.ask (within _ trivial)) fun _ => Asks.pure _
  · exact Asks.bind (Asks.ask (within _ trivial)) fun _ => Asks.pure _
  · exact Asks.bind (Asks.ask (within _ trivial)) fun _ =>
      Asks.bind (Asks.ask (within _ trivial)) fun _ => Asks.pure _
  · exact Asks.bind (Asks.ask (within _ trivial)) fun _ =>
      Asks.bind (Asks.ask (within _ trivial)) fun _ => Asks.pure _

/-- Arguments are read without naming a connection or a statement. -/
theorem asks_readArguments (position : Nat) (arguments : List Argument) :
    Asks (Call.Within none none) (readArguments position arguments : Bridge E H _) := by
  induction arguments generalizing position with
  | nil => exact Asks.pure _
  | cons argument rest ih =>
    refine Asks.bind (asks_readArgument argument) fun r => ?_
    cases r with
    | error e => exact Asks.pure _
    | ok value =>
      refine Asks.bind (ih (position + 1)) fun r => ?_
      cases r <;> exact Asks.pure _

/-- The way to the closure of an invocation names no connection and no statement. -/
theorem asks_accept (context : Context) (count : Int32) (arguments : Option (List Argument)) :
    Asks (Call.Within none none) (accept context count arguments : Bridge E H _) := by
  refine Asks.bind (Asks.ask (.of_nil (fun _ => trivial) rfl)) fun key => ?_
  cases key with
  | none => exact Asks.pure _
  | some key =>
    refine Asks.get_bind fun w => ?_
    split
    · refine Asks.bind (asks_readArguments _ _) fun r => ?_
      cases r with
      | error e => exact Asks.pure _
      | ok values => exact Asks.bind (Asks.record trivial) fun _ => Asks.pure _
    · exact Asks.pure _

/-- The closure that an invocation gets as far as is in the registry. -/
theorem Accepted.registered {context : Context} {count : Int32}
    {arguments : Option (List Argument)} {w w' : World E H} {f : Closure H.Function}
    {values : List Value} (h : Accepted context count arguments w f values w') :
    ∃ key, w'.registry.find? key = some (.function f) := by
  cases h with
  | @intro key _ _ w₁ _ registered readable =>
    have start : w.Inspected (w.asked (.userData context)) := .asked w trivial
    refine ⟨key, ?_⟩
    show w₁.registry.find? key = _
    rw [(start.trans readable.inspected).1]
    exact registered

/-- Giving an error names no connection and no statement. -/
theorem asks_setError (context : Context) (message : String) :
    Asks (Call.Within none none) (setError context message : Bridge E H Unit) :=
  Asks.ask (.of_nil (fun _ => trivial) rfl)

/-- Giving a result names no connection and no statement. -/
theorem asks_setResult (context : Context) (value : Value) :
    Asks (Call.Within none none) (setResult context value : Bridge E H Unit) := by
  unfold setResult
  split
  · exact Asks.ask (.of_nil (fun _ => trivial) rfl)
  · split
    · exact Asks.ask (.of_nil (fun _ => trivial) rfl)
    · exact Asks.ask (.of_nil (fun _ => trivial) rfl)
  · exact Asks.ask (.of_nil (fun _ => trivial) rfl)
  · split
    · exact Asks.ask (.of_nil (fun _ => trivial) rfl)
    · exact asks_setError context _
  · split
    · exact Asks.ask (.of_nil (fun _ => trivial) rfl)
    · exact asks_setError context _

end Upcall

/-- Calls that name no connection and no statement leave the custody as it is. -/
theorem Asks.leads_anywhere {m : Bridge E H α} (h : Asks (Call.Within none none) m) (κ : Custody)
    (w : World E H) : Leads Move m κ w fun _ κ' _ => κ' = κ :=
  (h.leads_within (by simp) (by simp)).mono fun _ _ _ h => h.1

namespace Session

/-- Whenever a callback runs, it is tame. -/
structure TameCallbacks (cb : Callbacks E (host E)) : Prop where
  handle : ∀ handler attempts, Tame (cb.handle handler attempts)
  invoke : ∀ f values w, w.host.Guarded → (∃ key, w.registry.find? key = some (.function f)) →
    Leads Turn (cb.invoke f values) (w.host.custody 0) w fun _ κ' w' => Rests w w' κ'

variable {cb : Callbacks E (host E)}

/-- The way to a busy handler changes nothing. -/
theorem tame_acceptBusy (userData : Nat) (attempts : Int32) :
    Tame (Upcall.acceptBusy userData attempts : SessionM E _) := by
  refine Tame.of_leads fun κ w => Leads.get_bind ?_
  split
  · exact Leads.record_bind trivial (Leads.pure rfl)
  · exact Leads.pure rfl

/-- A busy handler is asked. -/
theorem tame_busy (tame : TameCallbacks cb) (userData : Nat) (attempts : Int32) :
    Tame (Upcall.busy cb userData attempts) := by
  refine Tame.bind (tame_acceptBusy userData attempts) fun accepted => ?_
  cases accepted with
  | none => exact Tame.pure _
  | some handler =>
    refine Tame.bind (tame.handle _ _) fun outcome => ?_
    cases outcome with
    | returned => exact Tame.pure _
    | panicked =>
      exact Tame.of_leads fun κ w => Leads.record_bind trivial (Leads.pure rfl)

/-- A user function is invoked. -/
theorem tame_function (tame : TameCallbacks cb) (context : Context) (count : Int32)
    (arguments : Option (List Argument)) :
    Tame (Upcall.function cb context count arguments) := by
  have ran : Tame (Upcall.run cb context count arguments) := by
    intro w guarded
    have accepted := ((Upcall.asks_accept context count arguments).leads_anywhere
      (w.host.custody 0) w).turn
    have found : ∀ f values,
        (Upcall.accept context count arguments w).1 = .ok (f, values) →
          ∃ key, (Upcall.accept context count arguments w).2.registry.find? key =
            some (.function f) := by
      intro f values hok
      rcases Upcall.accept_run context count arguments w with
        ⟨message, w', -, hrun⟩ | ⟨f', values', w', haccepted, hrun⟩
      · cases (congrArg Prod.fst hrun).symm.trans hok
      · cases (congrArg Prod.fst hrun).symm.trans hok
        rw [show Upcall.accept context count arguments w = _ from hrun]
        exact haccepted.registered
    refine Leads.bind (accepted.also (fun r w' => ∀ f values, r = .ok (f, values) →
      ∃ key, w'.registry.find? key = some (.function f)) found) ?_
    rintro (e | ⟨f, values⟩) κ₁ w₁ ⟨⟨rfl, hhost⟩, registered⟩
    · exact Leads.pure (.of_eq rfl hhost)
    · have invoked := tame.invoke f values w₁ (by rw [hhost]; exact guarded)
        (registered f values rfl)
      rw [hhost] at invoked
      exact invoked.mono fun _ _ _ rests => Rests.trans (.of_eq rfl hhost) rests
  refine Tame.bind ran fun outcome => ?_
  split
  · exact Tame.of_leads (Upcall.asks_setResult _ _).leads_anywhere
  · exact Tame.of_leads (Upcall.asks_setError _ _).leads_anywhere
  · exact Tame.of_leads fun κ w =>
      Leads.record_bind trivial ((Upcall.asks_setError _ _).leads_anywhere _ _)

/-- The engine goes on from another state. -/
theorem tame_setEngine (state : E.State) :
    Tame (modify fun w => { w with engine := state } : SessionM E Unit) :=
  Tame.of_leads fun _ _ => Leads.single (.engine state) rfl

/-- The engine is served up to its answer. -/
theorem tame_serve (tame : TameCallbacks cb) (reply : Reply E.State α) :
    Tame (Upcall.serve cb reply) := by
  induction reply with
  | done answer state => exact Tame.bind (tame_setEngine state) fun _ => Tame.pure answer
  | busy userData attempts state resume ih =>
    refine Tame.bind (tame_setEngine state) fun _ =>
      Tame.bind (tame_busy tame userData attempts) fun code => ?_
    exact fun w guarded => Leads.get_bind (ih code w.engine w guarded)
  | function context count arguments state resume ih =>
    refine Tame.bind (tame_setEngine state) fun _ =>
      Tame.bind (tame_function tame context count arguments) fun _ => ?_
    exact fun w guarded => Leads.get_bind (ih w.engine w guarded)

/-- The engine acts of its own accord. -/
theorem tame_stimulate (tame : TameCallbacks cb) (stimulus : E.Stimulus) :
    Tame (Upcall.stimulate cb stimulus) :=
  fun w guarded => Leads.get_bind (tame_serve tame _ w guarded)

/-- An execution starts on objects that are within reach. -/
theorem leads_start {κ : Custody} {w : World E (host E)} {execution : Execution}
    (reach : ∀ o ∈ execution.operands, Stage.Reaches ⟨κ, w⟩ o) :
    Leads Move (Upcall.start execution : SessionM E _) κ w fun _ κ' _ => κ' = κ := by
  refine Leads.record_bind trivial (Leads.shift (.single (.began ?_)) rfl (Leads.pure rfl))
  exact reach

variable {w : World E (host E)} {slot : String}

/-- Something is done while calls on a connection are in progress. -/
theorem leads_engage {id : ConnectionId} {m : SessionM E α} {κ : Custody}
    {mid post : α → Custody → World E (host E) → Prop}
    (h : Leads Turn m κ { w with host := { w.host with engaged := id :: w.host.engaged } } mid)
    (ending : ∀ a κ' w', mid a κ' w' →
      post a κ' { w' with host := { w'.host with engaged := w'.host.engaged.erase id } }) :
    Leads Turn (engage id m) κ w post := by
  refine Leads.update_bind (Leads.bind h fun a κ' w' hmid => Leads.update_bind (Leads.pure ?_))
  exact ending a κ' w' hmid

/-- The engine runs a program, and `ending` says what it means that it has ended. -/
theorem leads_execute (tame : TameCallbacks cb) {execution : Execution}
    {post : Int32 → Custody → World E (host E) → Prop}
    (reach : ∀ o ∈ execution.operands, Stage.Reaches ⟨w.host.custody 0, w⟩ o)
    (guarded : w.host.Guarded)
    (ending : ∀ code w', w.host.Spares w'.host → ∃ κ',
      Move ⟨w'.host.custody 0, w'⟩ ⟨κ', w'.record (.ended execution code)⟩ ∧
        post code κ' (w'.record (.ended execution code))) :
    Leads Turn (Upcall.execute cb execution) (w.host.custody 0) w post := by
  refine Leads.bind (leads_start reach).turn ?_
  rintro reply _ w₁ ⟨rfl, hhost⟩
  have served := tame_serve tame reply w₁ (by rw [hhost]; exact guarded)
  rw [hhost] at served
  refine Leads.bind served ?_
  rintro code _ w₂ ⟨rfl, spares⟩
  rw [hhost] at spares
  obtain ⟨κ', move, hpost⟩ := ending code w₂ spares
  exact ⟨κ', .single (.move move), hpost⟩

/-- All statements of a text are run. -/
theorem leads_executeBatch (tame : TameCallbacks cb) {conn : Connection} (sql : String)
    (found : w.host.connections.get? slot = some conn) (used : conn.id ∈ w.host.engaged)
    (guarded : w.host.Guarded) :
    Leads Turn (conn.executeBatch cb sql).run (w.host.custody 0) w
      fun _ κ' w' => Rests w w' κ' := by
  unfold Connection.executeBatch
  refine Leads.run_ofExcept_bind (fun _ _ => .refl w) fun d database => ?_
  refine Leads.run_ofExcept_bind (fun _ _ => .refl w) fun text _ => ?_
  have reach (w' : World E (host E)) (h : w'.host.connections.get? slot = some conn) :
      Stage.Reaches ⟨w'.host.custody 0, w'⟩ (.database d) :=
    Custody.reaches_shared (Slots.mem_values_iff.mpr ⟨slot, h⟩)
      (Connection.handle_of_database database)
  have executed : Leads Turn (Upcall.execute cb (.exec d text)) (w.host.custody 0) w
      fun _ κ' w' => Rests w w' κ' := by
    exact leads_execute tame (Stage.reaches_all (reach w found) rfl) guarded
      fun code w' spares => ⟨_, .note trivial, rfl, spares⟩
  refine Leads.run_lift_bind executed ?_
  rintro code _ w₁ ⟨rfl, spares⟩
  split
  · exact Leads.pure ⟨rfl, spares⟩
  · have diagnosed : Leads Move (Bridge.diagnose (some d) .exec code) (w₁.host.custody 0) w₁
        fun _ κ₂ _ => κ₂ = w₁.host.custody 0 := by
      refine Leads.diagnose ?_ fun _ _ _ => rfl
      rintro _ ⟨⟩
      exact reach w₁ (spares.connections slot conn used found)
    refine Leads.run_lift_bind diagnosed.turn ?_
    rintro e _ w₂ ⟨rfl, hhost⟩
    exact Leads.pure (.trans ⟨rfl, spares⟩ (.of_eq rfl hhost))

/-- The code of a step is what the library makes of it. -/
theorem afterStep_eq (code : Int32) : StatementState.afterStep code =
    match ResultClass.ofCode code with
    | .row => .stepping
    | _ => .done := by
  unfold StatementState.afterStep
  cases ResultClass.ofCode code <;> rfl

/-- A statement takes a step; it is in its slot meanwhile, as it was before. -/
theorem leads_step (tame : TameCallbacks cb) {stmt : Statement}
    (found : w.host.statements.get? slot = some stmt) (used : slot ∈ w.host.stepping)
    (guarded : w.host.Guarded) :
    Leads Turn (stmt.step cb) (w.host.custody 0) w fun r κ' w' =>
      w.host.Spares w'.host ∧ κ' =
        { w'.host.custody 0 with
          statements := r.2 ::ₘ (w'.host.statements.erase slot).values } := by
  unfold Statement.step
  cases handle : stmt.handle with
  | none =>
    refine Leads.pure ⟨.refl _, ?_⟩
    rw [← Slots.values_of_get? found]
    rfl
  | some p =>
    have executed : Leads Turn (Upcall.execute cb (.step p)) (w.host.custody 0) w
        fun code κ' w' => w.host.Spares w'.host ∧ κ' =
          { w'.host.custody 0 with statements := { stmt with state := .afterStep code } ::ₘ
            (w'.host.statements.erase slot).values } := by
      have reach : Stage.Reaches ⟨w.host.custody 0, w⟩ (.program p) :=
        ⟨stmt, Slots.mem_values_iff.mpr ⟨slot, found⟩, handle⟩
      refine leads_execute tame (Stage.reaches_all reach rfl) guarded fun code w' spares => ?_
      have found' := (spares.statements slot used).trans found
      exact ⟨_, .step (Slots.values_of_get? found') handle, spares, rfl⟩
    refine Leads.bind executed ?_
    rintro code _ w₁ ⟨spares, rfl⟩
    let t : Statement := { stmt with handle := some p, state := .done }
    have diagnosed : Leads Move (Bridge.diagnose (some stmt.database) .step code)
        { w₁.host.custody 0 with statements := t ::ₘ (w₁.host.statements.erase slot).values } w₁
        fun _ κ₂ _ => κ₂ =
          { w₁.host.custody 0 with
            statements := t ::ₘ (w₁.host.statements.erase slot).values } := by
      refine Leads.diagnose ?_ fun _ _ _ => rfl
      rintro _ ⟨⟩
      have hand : t ∈ t ::ₘ (w₁.host.statements.erase slot).values := Multiset.mem_cons_self _ _
      exact .inr (.inl ⟨t, hand, rfl⟩)
    have failed : Leads Turn (do
        let e ← Bridge.diagnose (some stmt.database) .step code
        pure (Except.error (.engine e), t) : SessionM E (Except BindError StepOutcome × Statement))
        { w₁.host.custody 0 with statements := t ::ₘ (w₁.host.statements.erase slot).values } w₁
        fun r κ' w' => w.host.Spares w'.host ∧ κ' =
          { w'.host.custody 0 with
            statements := r.2 ::ₘ (w'.host.statements.erase slot).values } := by
      refine Leads.bind diagnosed.turn ?_
      rintro e _ w₂ ⟨rfl, hhost⟩
      rw [← hhost] at spares ⊢
      exact Leads.pure ⟨spares, rfl⟩
    rw [afterStep_eq, handle]
    cases ResultClass.ofCode code with
    | row => exact Leads.pure ⟨spares, rfl⟩
    | done => exact Leads.pure ⟨spares, rfl⟩
    | ok => exact failed
    | busy => exact failed
    | error => exact failed

/-- The statement in a slot takes a step and comes back to its slot. -/
theorem leads_advance (tame : TameCallbacks cb) {stmt : Statement}
    (found : w.host.statements.get? slot = some stmt) (unused : slot ∉ w.host.stepping)
    (guarded : w.host.Guarded) :
    Leads Turn (advance cb slot stmt) (w.host.custody 0) w fun _ κ' w' => Rests w w' κ' := by
  refine Leads.update_bind ?_
  let w₁ : World E (host E) :=
    { w with host := { w.host with stepping := slot :: w.host.stepping } }
  let w₂ : World E (host E) :=
    { w₁ with host := { w₁.host with engaged := stmt.connection :: w₁.host.engaged } }
  have guarded₂ : w₂.host.Guarded := guarded.advance found
  have stepped : Leads Turn (engage stmt.connection (stmt.step cb)) (w.host.custody 0) w₁
      fun r κ' w' => w₁.host.Spares w'.host ∧ κ' =
        { w'.host.custody 0 with
          statements := r.2 ::ₘ (w'.host.statements.erase slot).values } := by
    refine leads_engage (leads_step tame (w := w₂) found List.mem_cons_self guarded₂) ?_
    rintro r _ w' ⟨spares, rfl⟩
    exact ⟨spares.disengage, rfl⟩
  refine Leads.bind stepped ?_
  rintro ⟨result, t⟩ _ w' ⟨spares, rfl⟩
  refine Leads.update_bind (Leads.update_bind (Leads.pure ⟨?_, spares.halt t unused⟩))
  simp only [State.custody, Slots.values_put]

end Session

end EngineBridge
