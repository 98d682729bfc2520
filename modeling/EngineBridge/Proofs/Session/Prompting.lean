import EngineBridge.Proofs.Session.Routing

/-!
# Where questions about columns come from

Callbacks run steps while the engine is on its way to an answer, and these steps may put questions
to statements.  Wherever that happens, the session can perform a step there, so that a question
finds a statement in its slot.  The induction is on the depth to which callbacks may nest, and
within an execution on the engine's way to its answer.
-/

set_option autoImplicit false

namespace EngineBridge.Session

open Native Relation Attempt

variable {E : Engine} {α β ε : Type} {w v : World E (host E)}

/-- What happens in a session is about no column, or comes of a question to the statement in a
slot, and nothing has moved a statement since the question was put. -/
inductive Prompted (E : Engine) (entry : Entry) (earlier : List Entry) : Prop
  | columnless (h : entry.column? = none)
  | question {u : World E (host E)} {slot : String} {stmt : Statement} {own : List Entry}
      (reachable : Reachable u) (found : u.host.statements.get? slot = some stmt)
      (since : earlier = own ++ u.transcript) (rests : ∀ other ∈ own, other.Rests)
      (permits : stmt.Permits entry earlier)

/-- Whatever looks at a column while a computation runs from a world on is prompted. -/
def Prompts (m : SessionM E α) (w : World E (host E)) : Prop :=
  Extends (Prompted E) w.transcript (m w).2.transcript

namespace Prompts

/-- What is about no column needs no prompting. -/
theorem of_adds {m : SessionM E α} (h : Bridge.Adds Columnless m) : Prompts m w :=
  (h w).mono fun _ _ => .columnless

/-- A sequence is prompted if its parts are, the second from where the first has led. -/
theorem bind {m : SessionM E α} {f : α → SessionM E β} (h : Prompts m w)
    (next : ∀ a v, m.run w = (a, v) → Prompts (f a) v) : Prompts (m >>= f) w :=
  ReflTransGen.trans h (next (m w).1 (m w).2 rfl)

/-- A run of a prompted computation goes on with what is prompted. -/
theorem grown {m : SessionM E α} {a : α} (h : Prompts m w) (run : m.run w = (a, v)) :
    Extends (Prompted E) w.transcript v.transcript := by
  obtain rfl : (m w).2 = v := congrArg Prod.snd run
  exact h

/-- What is about no column may follow a prompted computation. -/
theorem bind_adds {m : SessionM E α} {f : α → SessionM E β} (h : Prompts m w)
    (next : ∀ a, Bridge.Adds Columnless (f a)) : Prompts (m >>= f) w :=
  h.bind fun a _ _ => of_adds (next a)

/-- What is about no column may follow, also where failures are possible. -/
theorem run_lift_bind {m : SessionM E α} {f : α → ExceptT ε (SessionM E) β} (h : Prompts m w)
    (next : ∀ a, Bridge.Adds Columnless (f a).run) :
    Prompts ((ExceptT.lift m : ExceptT ε (SessionM E) α) >>= f).run w := by
  rw [ExceptT.run_bind_lift]
  exact h.bind_adds next

/-- A result that is already there may come first. -/
theorem run_ofExcept_bind {convert : ε → BindError} {r : Except ε α}
    {f : α → Fallible E (host E) β} (next : ∀ a, r = .ok a → Prompts (f a).run w) :
    Prompts (Fallible.ofExcept convert r >>= f).run w := by
  cases r with
  | error e => exact of_adds (.run_throw _)
  | ok a => exact next a rfl

/-- A question to a statement in a slot is its own prompt. -/
theorem query (reachable : Reachable w) {slot : String} {stmt : Statement}
    (found : w.host.statements.get? slot = some stmt) (query : Query) :
    Prompts (query.ask stmt : Fallible E (host E) (Payload E.Response)).run w := by
  -- what the question has added before an entry moves no statement
  have asked := (Query.adds query stmt w).since fun _ _ permits => permits.rests
  refine asked.1.mono fun entry earlier => ?_
  rintro ⟨permits, own, since, rests⟩
  exact .question reachable found since rests permits

end Prompts

/-! ## Serving the engine -/

/-- Whatever a callback looks at a column for is prompted, if the session can perform a step where
it starts to run. -/
structure PromptingCallbacks (cb : Callbacks E (host E)) : Prop where
  handle : ∀ handler attempts v, Reachable v → Prompts (cb.handle handler attempts) v
  invoke : ∀ f values v, Reachable v → Prompts (cb.invoke f values) v

variable {cb : Callbacks E (host E)}

/-- A busy upcall is prompted if what its handler runs is. -/
theorem prompts_busy (prompting : PromptingCallbacks cb) {userData : Nat} {attempts : Int32}
    (enters : ∀ handler count v, (Upcall.acceptBusy userData attempts).run w =
      (some (handler, count), v) → Reachable v) : Prompts (Upcall.busy cb userData attempts) w := by
  refine .bind (.of_adds (Bridge.routes_columnless.acceptBusy userData attempts)) fun found v accepted => ?_
  cases found with
  | none => exact .of_adds (.pure _)
  | some found =>
    obtain ⟨handler, count⟩ := found
    have handled := prompting.handle handler count v (enters handler count v accepted)
    refine handled.bind_adds fun outcome => ?_
    cases outcome with
    | returned => exact .pure _
    | panicked => exact .bind (.record fun _ => rfl) fun _ => .pure _

/-- A function upcall is prompted if what its function runs is. -/
theorem prompts_function (prompting : PromptingCallbacks cb) {context : Context} {count : Int32}
    {arguments : Option (List Argument)}
    (enters : ∀ f values v, (Upcall.accept context count arguments).run w =
      (.ok (f, values), v) → Reachable v) :
    Prompts (Upcall.function cb context count arguments) w := by
  have ran : Prompts (Upcall.run cb context count arguments) w := by
    refine .bind (.of_adds (.of_within (Upcall.asks_accept context count arguments)))
      fun result v accepted => ?_
    cases result with
    | error e => exact .of_adds (.pure _)
    | ok found =>
      obtain ⟨f, values⟩ := found
      exact prompting.invoke f values v (enters f values v accepted)
  refine ran.bind_adds fun outcome => ?_
  cases outcome with
  | returned result =>
    cases result with
    | ok value => exact .of_within (Upcall.asks_setResult context value)
    | error e => exact .of_within (Upcall.asks_setError context _)
  | panicked =>
    exact .bind (.record fun _ => rfl) fun _ => .of_within (Upcall.asks_setError context _)

/-- Giving the engine its state back is no question. -/
theorem prompts_resume (state : E.State) (w : World E (host E)) :
    Prompts (modify fun w => { w with engine := state } : SessionM E Unit) w :=
  .of_adds (.modifyGet fun _ => rfl)

/-- The engine is served up to its answer. -/
theorem prompts_serve (prompting : PromptingCallbacks cb) {reply : Reply E.State α}
    (enters : ∀ v, Upcall.Enters cb reply w v → Reachable v) :
    Prompts (Upcall.serve cb reply) w := by
  -- each upcall comes from a world that the ones before it have left
  induction reply generalizing w with
  | done answer state => exact (prompts_resume state w).bind_adds fun _ => .pure _
  | busy userData attempts state resume ih =>
    refine (prompts_resume state w).bind fun _ w₁ set => ?_
    obtain rfl : _ = w₁ := congrArg Prod.snd set
    have asked := prompts_busy prompting fun handler count v accepted => enters v (.busy accepted)
    refine asked.bind fun code w₂ answered => ?_
    exact ih code w₂.engine fun v later => enters v (.afterBusy answered later)
  | function context count arguments state resume ih =>
    refine (prompts_resume state w).bind fun _ w₁ set => ?_
    obtain rfl : _ = w₁ := congrArg Prod.snd set
    have asked := prompts_function prompting fun f values v accepted => enters v (.function accepted)
    refine asked.bind fun _ w₂ answered => ?_
    exact ih w₂.engine fun v later => enters v (.afterFunction answered later)

/-- The same holds of the way of the engine to an upcall. -/
theorem extends_of_enters (prompting : PromptingCallbacks cb) {reply : Reply E.State α}
    (h : Upcall.Enters cb reply w v) (enters : ∀ u, Upcall.Enters cb reply w u → Reachable u) :
    Extends (Prompted E) w.transcript v.transcript := by
  induction h with
  | @busy userData attempts state resume handler count w v accepted =>
    have accept : Prompts (Upcall.acceptBusy userData attempts) { w with engine := state } :=
      .of_adds (Bridge.routes_columnless.acceptBusy userData attempts)
    exact accept.grown accepted
  | @afterBusy userData attempts state resume code w w' v answered later ih =>
    have asked : Prompts (Upcall.busy cb userData attempts) { w with engine := state } :=
      prompts_busy prompting fun handler count u accepted => enters u (.busy accepted)
    have rest := ih fun u entered => enters u (.afterBusy answered entered)
    exact ReflTransGen.trans (asked.grown answered) rest
  | @function context count arguments state resume f values w v accepted =>
    have accept : Prompts (Upcall.accept context count arguments) { w with engine := state } :=
      .of_adds (.of_within (Upcall.asks_accept context count arguments))
    exact accept.grown accepted
  | @afterFunction context count arguments state resume w w' v answered later ih =>
    have asked : Prompts (Upcall.function cb context count arguments) { w with engine := state } :=
      prompts_function prompting fun f values u accepted => enters u (.function accepted)
    have rest := ih fun u entered => enters u (.afterFunction answered entered)
    exact ReflTransGen.trans (asked.grown answered) rest

/-- Starting the engine is about no column. -/
theorem adds_start (execution : Execution) :
    Bridge.Adds Columnless (Upcall.start execution : SessionM E _) :=
  .bind (.record fun _ => rfl) fun _ => .bind (.record fun _ => rfl) fun _ =>
    .get_bind fun _ => .pure _

/-- Having the engine run something is prompted if its callbacks are. -/
theorem prompts_execute (prompting : PromptingCallbacks cb) {execution : Execution}
    (starts : ∀ v, Starts cb execution w v → Reachable v) :
    Prompts (Upcall.execute cb execution) w := by
  refine .bind (.of_adds (adds_start execution)) fun reply w₁ started => ?_
  have served := prompts_serve prompting fun v enters => starts v ⟨reply, w₁, started, enters⟩
  exact served.bind_adds fun _ => .bind (.record fun _ => rfl) fun _ => .pure _

/-- Until a callback starts, everything is prompted. -/
theorem extends_of_starts (prompting : PromptingCallbacks cb) {execution : Execution}
    (h : Starts cb execution w v) (starts : ∀ u, Starts cb execution w u → Reachable u) :
    Extends (Prompted E) w.transcript v.transcript := by
  obtain ⟨reply, w₁, started, enters⟩ := h
  have start : Prompts (Upcall.start execution) w := .of_adds (adds_start execution)
  have rest := extends_of_enters prompting enters fun u entered =>
    starts u ⟨reply, w₁, started, entered⟩
  exact ReflTransGen.trans (start.grown started) rest

/-! ## Steps of a session -/

variable (t : Target)

/-- Executing a batch is prompted if its callbacks are. -/
theorem prompts_executeBatch (prompting : PromptingCallbacks cb) {conn : Connection} {sql : String}
    (starts : ∀ d text v, conn.database = .ok d → CString.ofText sql = .ok text →
      Starts cb (.exec d text) w v → Reachable v) :
    Prompts (conn.executeBatch cb sql).run w := by
  refine Prompts.run_ofExcept_bind fun d database => ?_
  refine Prompts.run_ofExcept_bind fun text named => ?_
  have executed : Prompts (Upcall.execute cb (.exec d text)) w :=
    prompts_execute prompting fun v => starts d text v database named
  refine Prompts.run_lift_bind executed fun code => ?_
  split
  · exact .run_pure _
  · exact .run_bind (.run_lift (Bridge.adds_diagnose _ _ _)) fun _ => .run_throw _

/-- Stepping a statement is prompted if its callbacks are. -/
theorem prompts_step (prompting : PromptingCallbacks cb) {stmt : Statement}
    (starts : ∀ p v, stmt.handle = some p → Starts cb (.step p) w v → Reachable v) :
    Prompts (stmt.step cb) w := by
  unfold Statement.step
  cases handle : stmt.handle with
  | none => exact .of_adds (.pure _)
  | some p =>
    have executed : Prompts (Upcall.execute cb (.step p)) w :=
      prompts_execute prompting fun v => starts p v handle
    refine executed.bind_adds fun code => ?_
    split
    · exact .pure _
    · exact .pure _
    · exact .bind (Bridge.adds_diagnose _ _ _) fun _ => .pure _

/-- A step on a connection may use that the connection is there. -/
theorem prompts_onConnection {slot : String} {f : Connection → Attempt E β}
    (next : ∀ conn, w.host.connections.get? slot = some conn → Prompts (f conn).run w) :
    Prompts (connection slot >>= f).run w := by
  unfold Prompts Attempt.connection
  rw [bind_assoc, state_bind_run]
  cases found : w.host.connections.get? slot with
  | none => exact .refl
  | some conn => exact next conn found

/-- A step on a statement may use that the statement is there and not in a step. -/
theorem prompts_onStatement {slot : String} {f : Statement → Attempt E β}
    (next : ∀ stmt, w.host.statements.get? slot = some stmt → slot ∉ w.host.stepping →
      Prompts (f stmt).run w) :
    Prompts (statement slot >>= f).run w := by
  unfold Prompts Attempt.statement
  rw [bind_assoc, state_bind_run]
  cases found : w.host.statements.get? slot with
  | none => exact .refl
  | some stmt =>
    by_cases used : slot ∈ w.host.stepping
    · simp only [if_pos used]
      exact .refl
    · simp only [if_neg used]
      exact next stmt found used

variable {depth : Nat}

/-- A step that executes a batch is prompted, with the callbacks of the level below. -/
theorem prompts_act_executeBatch (prompting : PromptingCallbacks (callbacks (perform (E := E) depth)))
    (reachable : Reachable w) (sql : String) :
    Prompts (act (callbacks (perform depth)) t (.executeBatch sql)).run w := by
  refine prompts_onConnection fun conn found => ?_
  have executed : Prompts (conn.executeBatch (callbacks (perform depth)) sql).run
      (engaging w conn.id) :=
    prompts_executeBatch prompting fun d text v database named starts =>
      reachable.interrupt depth t (.executeBatch sql) (.executeBatch found database named starts)
  have engaged : Prompts (engage conn.id (conn.executeBatch (callbacks (perform depth)) sql).run) w :=
    executed
  refine Prompts.run_lift_bind engaged fun result => ?_
  exact .run_bind (prolongs_settle result) fun _ => .run_pure _

/-- A step that steps a statement is prompted, with the callbacks of the level below. -/
theorem prompts_act_step (prompting : PromptingCallbacks (callbacks (perform (E := E) depth)))
    (reachable : Reachable w) : Prompts (act (callbacks (perform depth)) t .step).run w := by
  refine prompts_onStatement fun stmt found unused => ?_
  have stepped : Prompts (stmt.step (callbacks (perform depth)))
      (engaging (stepping w t.statementSlot) stmt.connection) :=
    prompts_step prompting fun p v handle starts =>
      reachable.interrupt depth t .step (.step found unused handle starts)
  have advanced : Prompts (advance (callbacks (perform depth)) t.statementSlot stmt) w := stepped
  refine Prompts.run_lift_bind advanced fun result => ?_
  refine .run_bind (prolongs_settle result) fun outcome => ?_
  cases outcome <;> exact .run_pure _

/-- A step that puts a question is prompted. -/
theorem prompts_act_query (reachable : Reachable w) (query : Query) (cb : Callbacks E (host E)) :
    Prompts (act cb t (.query query)).run w := by
  refine prompts_onStatement fun stmt found _ => ?_
  refine Prompts.run_lift_bind (.query reachable found query) fun result => ?_
  cases result with
  | ok a => exact .run_pure a
  | error e => exact .run_throw _

/-- Whatever looks at a column during a step of a session is prompted, if that is so of the
callbacks. -/
theorem prompts_act (prompting : PromptingCallbacks (callbacks (perform (E := E) depth)))
    (reachable : Reachable w) (action : Action E.Stimulus) :
    Prompts (act (callbacks (perform depth)) t action).run w := by
  cases action with
  | executeBatch sql => exact prompts_act_executeBatch t prompting reachable sql
  | step => exact prompts_act_step t prompting reachable
  | query query => exact prompts_act_query t reachable query _
  | stimulate stimulus =>
    have acted : Prompts (Upcall.stimulate (callbacks (perform depth)) stimulus) w :=
      prompts_serve prompting fun v enters =>
        reachable.interrupt depth t (.stimulate stimulus) (.stimulate enters)
    exact Prompts.run_lift_bind acted fun _ => .run_pure _
  | _ => exact .of_adds (prolongs_act Bridge.routes_columnless t trivial)

/-! ## Whole sessions -/

/-- A list of steps is prompted if each step is, from every world that can be reached. -/
theorem prompts_runSteps (each : ∀ step v, Reachable v → Prompts (perform (E := E) depth step) v)
    (reachable : Reachable w) (steps : List (Step E.Stimulus)) :
    Prompts (runSteps (perform depth) steps) w := by
  unfold runSteps
  induction steps generalizing w with
  | nil => exact .of_adds (.pure _)
  | cons step rest ih =>
    rw [List.forM_eq_forM, List.forM_cons]
    have first : Prompts (do
        let report ← perform depth step
        update fun s => { s with nested := report :: s.nested }) w :=
      (each step w reachable).bind_adds fun _ => prolongs_update _
    refine first.bind fun _ v ran => ?_
    obtain rfl : _ = v := congrArg Prod.snd ran
    exact ih ((reachable.perform depth step).nested _)

/-- Callbacks look at columns only as they are prompted if the steps do that they run. -/
theorem prompting_callbacks
    (each : ∀ step v, Reachable v → Prompts (perform (E := E) depth step) v) :
    PromptingCallbacks (callbacks (perform (E := E) depth)) := by
  constructor
  · rintro ⟨token, code, owned⟩ attempts v reachable
    cases code with
    | steps steps again =>
      exact (prompts_runSteps each reachable steps).bind_adds fun _ => .pure _
    | _ => exact .of_adds (.pure _)
  · rintro ⟨token, code, owned⟩ values v reachable
    cases code with
    | steps steps => exact (prompts_runSteps each reachable steps).bind_adds fun _ => .pure _
    | own | invalid =>
      cases owned with
      | none => exact .of_adds (.pure _)
      | some conn =>
        refine .of_adds (.bind (.of_within conn.asks_changes) fun result => ?_)
        cases result <;> exact .pure _
    | argument | text =>
      simp only [callbacks]
      split <;> exact .of_adds (.pure _)
    | runs => exact .of_adds (.get_bind fun _ => .pure _)
    | _ => exact .of_adds (.pure _)

/-- Whatever looks at a column during a step is prompted, however deep callbacks nest. -/
theorem prompts_perform (depth : Nat) (step : Step E.Stimulus) (w : World E (host E))
    (reachable : Reachable w) : Prompts (perform depth step) w := by
  induction depth generalizing step w with
  | zero => exact .of_adds (prolongs_conclude _ _)
  | succ depth ih =>
    exact (prompts_act _ (prompting_callbacks ih) reachable _).bind_adds fun result =>
      prolongs_conclude _ result

/-- Wherever a session can perform a step, whatever has looked at a column was prompted. -/
theorem Reachable.prompted (h : Reachable w) : Throughout (Prompted E) w.transcript := by
  induction h with
  | begin engine => exact .nil
  | perform depth step reachable ih => exact ih.extend (prompts_perform depth step _ reachable)
  | nested reports _ ih => exact ih
  | @interrupt w v depth t action reachable interrupts ih =>
    have prompting := prompting_callbacks (prompts_perform (E := E) depth)
    refine ih.extend ?_
    cases interrupts with
    | @executeBatch sql conn d text _ _ found database named starts =>
      have way : Extends (Prompted E) (engaging w conn.id).transcript v.transcript :=
        extends_of_starts prompting starts fun u starts => reachable.interrupt depth t
          (.executeBatch sql) (.executeBatch found database named starts)
      exact way
    | @step stmt p _ _ found unused handle starts =>
      have way : Extends (Prompted E)
          (engaging (stepping w t.statementSlot) stmt.connection).transcript v.transcript :=
        extends_of_starts prompting starts fun u starts => reachable.interrupt depth t
          .step (.step found unused handle starts)
      exact way
    | @stimulate stimulus _ _ enters =>
      exact extends_of_enters prompting enters fun u enters =>
        reachable.interrupt depth t (.stimulate stimulus) (.stimulate enters)

end EngineBridge.Session
