import EngineBridge.Proofs.Reentry.Retelling

/-!
# All steps tell what they do

The callbacks of a session run steps, so what a step does to the registry is told if it is for
steps one level deeper; the induction is on the depth to which callbacks may nest.
-/

set_option autoImplicit false

namespace EngineBridge.Session

open Native Relation Attempt

variable {E : Engine} {α β : Type} {w : World E (host E)}
variable {cb : Callbacks E (host E)} (t : Target)

namespace Poised

/-- A session rests while calls on a connection are in progress. -/
theorem engaging (h : Poised w) (id : ConnectionId) : Poised (engaging w id) :=
  h.of_turns (h.guarded.engage id) (.single (.host _))

/-- A session rests while a statement takes a step. -/
theorem advancing (h : Poised w) {slot : String} {stmt : Statement}
    (found : w.host.statements.get? slot = some stmt) :
    Poised (Session.engaging (stepping w slot) stmt.connection) :=
  h.of_turns (h.guarded.advance found) (.single (.host _))

end Poised

/-- What is noted while calls on a connection are in progress is all that there is to tell. -/
theorem recounts_engage {id : ConnectionId} {m : SessionM E α}
    (h : (engaging w id).Recounts (m (engaging w id)).2) : w.Recounts (engage id m w).2 := by
  have before : w.Recounts (engaging w id) := .of_eq rfl rfl
  exact (before.trans h).trans (.of_eq rfl rfl)

/-- A statement takes a step and comes back to its slot. -/
theorem recounts_advance (tame : TameCallbacks cb) (retelling : RetellingCallbacks cb)
    (poised : Poised w) {slot : String} {stmt : Statement}
    (found : w.host.statements.get? slot = some stmt) :
    w.Recounts (advance cb slot stmt w).2 := by
  have before : w.Recounts (stepping w slot) := .of_eq rfl rfl
  have stepped := recounts_engage (retells_step tame retelling stmt _ (poised.advancing found))
  exact (before.trans stepped).trans (.of_eq rfl rfl)

/-- Something is done with the connection in a slot, if there is one. -/
theorem retells_onConnection {slot : String} {f : Connection → Attempt E β}
    (next : ∀ conn, Retells (f conn).run) : Retells (connection slot >>= f).run := by
  intro w poised
  unfold Attempt.connection
  rw [bind_assoc, state_bind_run]
  cases w.host.connections.get? slot with
  | none => exact .refl w
  | some conn => exact next conn w poised

/-- Something is done with the statement in a slot, if there is one and no step of it is in
progress. -/
theorem recounts_onStepped {slot : String} {f : Statement → Attempt E β}
    (next : ∀ stmt, w.host.statements.get? slot = some stmt → w.Recounts ((f stmt).run w).2) :
    w.Recounts ((statement slot >>= f).run w).2 := by
  unfold Attempt.statement
  rw [bind_assoc, state_bind_run]
  cases found : w.host.statements.get? slot with
  | none => exact .refl w
  | some stmt =>
    by_cases used : slot ∈ w.host.stepping
    · simp only [if_pos used]
      exact .refl w
    · simp only [if_neg used]
      exact next stmt found

/-- A step that executes a batch is accounted for if the callbacks are. -/
theorem retells_act_executeBatch (tame : TameCallbacks cb) (retelling : RetellingCallbacks cb)
    (sql : String) : Retells (act cb t (.executeBatch sql)).run := by
  apply retells_onConnection
  intro conn
  have executed : Retells (engage conn.id (conn.executeBatch cb sql).run) :=
    fun w poised => recounts_engage
      (retells_executeBatch tame retelling conn sql _ (poised.engaging conn.id))
  apply Retells.run_lift_bind executed
  intro result
  exact .run_bind (recounts_settle result) fun _ => .run_pure _

/-- A step that steps a statement is accounted for if the callbacks are. -/
theorem retells_act_step (tame : TameCallbacks cb) (retelling : RetellingCallbacks cb) :
    Retells (act cb t .step).run := by
  intro w poised
  apply recounts_onStepped
  intro stmt found
  have advanced := recounts_advance tame retelling poised found
  apply advanced.trans
  apply Bridge.Recounts.run_bind (recounts_settle _)
  intro outcome
  cases outcome <;> exact .run_pure _

/-- A step of a session tells what it does to the registry if the callbacks do. -/
theorem retells_act (tame : TameCallbacks cb) (retelling : RetellingCallbacks cb)
    (action : Action E.Stimulus) : Retells (act cb t action).run := by
  cases action with
  | create => exact .of_recounts (recounts_create t)
  | connect path options => exact .of_recounts (recounts_connect t path options)
  | openWith path options =>
    exact .of_recounts (recounts_onExclusive fun conn => conn.recounts_openWith path options)
  | close => exact .of_recounts (recounts_onExclusive Connection.recounts_close)
  | dropConnection =>
    exact .of_recounts (.run_bind (recounts_exclusive _) fun conn =>
      .run_bind (.run_lift (recounts_dropConnection _ conn)) fun _ => .run_pure _)
  | executeBatch sql => exact retells_act_executeBatch t tame retelling sql
  | busyTimeout ms =>
    exact .of_recounts (recounts_onConnection _ fun _ => Connection.recounts_busyTimeout ms)
  | registerBusyHandler body => exact retells_registerBusyHandler t body
  | clearBusyHandler =>
    exact .of_recounts (recounts_onConnection _ fun _ => Connection.recounts_clearBusyHandler)
  | registerFunction name arity flags body =>
    exact retells_registerFunction t name arity flags body
  | removeFunction name arity =>
    exact .of_recounts (recounts_onConnection _ fun _ =>
      Connection.recounts_removeFunction name arity)
  | errmsg =>
    exact .of_recounts (recounts_onConnection _ fun _ => .of_asks Connection.asks_errmsg)
  | version =>
    exact .of_recounts (.run_bind (recounts_connection _) fun _ =>
      .run_bind (recounts_operation (.of_asks Library.asks_version)) fun _ => .run_pure _)
  | changes =>
    exact .of_recounts (recounts_onConnection _ fun _ => .of_asks Connection.asks_changes)
  | totalChanges =>
    exact .of_recounts (recounts_onConnection _ fun _ => .of_asks Connection.asks_totalChanges)
  | limit limit value =>
    exact .of_recounts (recounts_onConnection _ fun _ =>
      .of_asks (Connection.asks_limit limit value))
  | enableLoadExtension on =>
    exact .of_recounts (recounts_onConnection _ fun _ =>
      .of_asks (Connection.asks_enableLoadExtension on))
  | interrupt =>
    exact .of_recounts (.run_bind (recounts_connection _) fun conn =>
      .run_bind (.run_lift (.of_asks (Connection.asks_interrupt conn.id))) fun _ => .run_pure _)
  | keepInterruptHandle slot =>
    exact .of_recounts (.run_bind (recounts_connection _) fun _ =>
      .run_bind (.run_lift (recounts_update _)) fun _ => .run_pure _)
  | describeConnection =>
    exact .of_recounts (.run_bind (recounts_connection _) fun _ => .run_pure _)
  | enableSharedCache on =>
    exact .of_recounts (.run_bind
      (recounts_operation (.of_asks (Library.asks_enableSharedCache on))) fun _ => .run_pure _)
  | interruptBy slot => exact .of_recounts (recounts_interruptBy t slot)
  | prepare sql => exact .of_recounts (recounts_prepare t sql)
  | dropStatement =>
    exact .of_recounts (.run_bind (recounts_statement _) fun stmt =>
      .run_bind (.run_lift (recounts_dropStatement _ stmt)) fun _ => .run_pure _)
  | step => exact retells_act_step t tame retelling
  | reset => exact .of_recounts (recounts_onStatement _ Statement.asks_reset)
  | finalize => exact .of_recounts (recounts_onStatement _ Statement.asks_finalize)
  | query query =>
    exact .of_recounts (.run_bind (recounts_statement _) fun stmt =>
      recounts_operation (.of_asks (asks_query query stmt)))
  | describeStatement =>
    exact .of_recounts (.run_bind (recounts_statement _) fun _ => .run_pure _)
  | stimulate stimulus =>
    exact Retells.run_lift_bind (retells_stimulate tame retelling stimulus) fun _ => .run_pure _
  | invalid => exact .of_recounts (.run_throw _)

/-! ## Steps that callbacks run -/

/-- The callbacks of a session tell what they do to the registry if the steps that they run do. -/
theorem retelling_callbacks {perform : Step E.Stimulus → SessionM E (Report E.Response)}
    (tame : ∀ step, Tame (perform step)) (retells : ∀ step, Retells (perform step)) :
    RetellingCallbacks (callbacks perform) := by
  have ran (steps : List (Step E.Stimulus)) : Retells (runSteps perform steps) := by
    unfold runSteps
    induction steps with
    | nil => exact .of_recounts (.pure _)
    | cons step rest ih =>
      rw [List.forM_eq_forM, List.forM_cons]
      have kept (report : Report E.Response) :
          Tame (update fun s => { s with nested := report :: s.nested } : SessionM E Unit) :=
        fun w _ => Leads.update ⟨rfl, rfl, rfl, fun _ _ _ h => h, fun _ _ => rfl⟩
      apply Retells.bind (Tame.bind (tame step) kept)
      · exact (retells step).bind_recounts fun _ => recounts_update _
      · intro _
        exact ih
  constructor
  · rintro ⟨token, code, owned⟩ attempts
    cases code with
    | steps steps again => exact (ran steps).bind_recounts fun _ => .pure _
    | _ => exact .of_recounts (.pure _)
  · rintro ⟨token, code, owned⟩ values
    cases code with
    | steps steps => exact (ran steps).bind_recounts fun _ => .pure _
    | own | invalid =>
      cases owned with
      | none => exact .of_recounts (.pure _)
      | some conn =>
        apply Retells.of_recounts
        apply Bridge.Recounts.bind (.of_asks conn.asks_changes)
        intro result
        cases result <;> exact .pure _
    | argument | text =>
      simp only [callbacks]
      split <;> exact .of_recounts (.pure _)
    | runs => exact .of_recounts (.get_bind fun _ => .pure _)
    | _ => exact .of_recounts (.pure _)

/-- A report changes nothing. -/
theorem recounts_conclude (t : Target) (result : Except Failure (Payload E.Response)) :
    Bridge.Recounts (conclude t result) := by
  have connection : Bridge.Recounts (connectionStatus t : SessionM E _) := by
    unfold connectionStatus
    split
    · apply Bridge.Recounts.bind recounts_state
      intro s
      split
      · exact .pure _
      · exact .get_bind fun _ => .pure _
    · exact .pure _
  have statement : Bridge.Recounts (statementStatus t : SessionM E _) := by
    unfold statementStatus
    split
    · exact .pure _
    · apply Bridge.Recounts.bind recounts_state
      intro s
      split <;> exact .pure _
  exact .bind connection fun _ => .bind statement fun _ => .pure _

/-- A step tells what it does to the registry, however deep callbacks nest. -/
theorem retells_perform (depth : Nat) (step : Step E.Stimulus) : Retells (perform depth step) := by
  induction depth generalizing step with
  | zero => exact .of_recounts (recounts_conclude _ _)
  | succ depth ih =>
    have tame := tame_callbacks (tame_perform (E := E) depth)
    have retelling := retelling_callbacks (tame_perform (E := E) depth) ih
    exact (retells_act _ tame retelling _).bind_recounts fun _ => recounts_conclude _ _

end EngineBridge.Session
