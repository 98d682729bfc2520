import EngineBridge.Proofs.Operations.Narration
import EngineBridge.Proofs.Session.Routing
import EngineBridge.Scripted.Engine

/-!
# What the trace of a session tells of its native calls

Steps of a session add to the transcript in passages, whatever the engine answers and whenever it
calls back; so do the steps that callbacks run, and so does the end of the session.  So the trace
tells of all native calls but those that diagnose failures and those of functions, and of no
others.  The induction is on the depth to which callbacks may nest, and within an execution on the
engine's way to its answer.
-/

set_option autoImplicit false

namespace EngineBridge.Session

open Native Attempt
open Bridge (Prolongs)

variable {E : Engine} {α : Type} {cb : Callbacks E (host E)}

/-- Questions to a statement are put by calls that are announced. -/
theorem Query.prolongs (query : Query) (stmt : Statement) :
    Prolongs Narrates (query.ask stmt : Fallible E (host E) (Payload E.Response)).run := by
  cases query with
  | bindNull | bindInt | bindInt64 | bindDouble | clearBindings =>
    exact .run_bind (stmt.prolongs_succeed _ fun _ => rfl) fun _ => .run_pure _
  | bindText i v => exact .run_bind (stmt.prolongs_bindText i v) fun _ => .run_pure _
  | bindBlob i v => exact .run_bind (stmt.prolongs_bindBlob i v) fun _ => .run_pure _
  | bindValue i v => exact .run_bind (stmt.prolongs_bindValue i v) fun _ => .run_pure _
  | bindParameterCount | columnCount =>
    exact .run_bind (.run_bind stmt.prolongs_live fun _ => routes_narrated.run_call rfl) fun _ =>
      .run_pure _
  | columnName i =>
    have named : Prolongs Narrates (stmt.columnName i : Fallible E (host E) String).run :=
      .run_bind (stmt.prolongs_column i) fun _ => .run_bind (routes_narrated.run_call rfl)
        fun _ => .run_requiredString _
    exact .run_bind named fun _ => .run_pure _
  | columnTableName i | columnDecltype i =>
    exact .run_bind (.run_bind (stmt.prolongs_column i) fun _ =>
      .run_bind (routes_narrated.run_call rfl) fun _ => .run_ofExcept _) fun _ => .run_pure _
  | columnType i => exact .run_bind (stmt.prolongs_columnType i) fun _ => .run_pure _
  | columnText i => exact .run_bind (stmt.prolongs_columnText i) fun _ => .run_pure _
  | columnBlob i => exact .run_bind (stmt.prolongs_columnBlob i) fun _ => .run_pure _
  | columnDouble i => exact .run_bind (stmt.prolongs_columnDouble i) fun _ => .run_pure _
  | columnInt64 i => exact .run_bind (stmt.prolongs_columnInt64 i) fun _ => .run_pure _
  | columnInt i | columnBytes i =>
    exact .run_bind (.run_bind (stmt.prolongs_rowColumn i) fun _ => routes_narrated.run_call rfl)
      fun _ => .run_pure _
  | columnValue i => exact .run_bind (stmt.prolongs_columnValue i) fun _ => .run_pure _

/-! ## Serving the engine -/

/-- What callbacks add to the transcript they add in passages. -/
structure NarratingCallbacks (cb : Callbacks E (host E)) : Prop where
  handle : ∀ handler attempts, Prolongs Narrates (cb.handle handler attempts)
  invoke : ∀ f values, Prolongs Narrates (cb.invoke f values)

/-- A busy upcall goes on passage by passage if its handler does. -/
theorem prolongs_busy (narrating : NarratingCallbacks cb) (userData : Nat) (attempts : Int32) :
    Prolongs Narrates (Upcall.busy cb userData attempts) := by
  refine .bind (routes_narrated.acceptBusy userData attempts) fun found => ?_
  cases found with
  | none => exact .pure _
  | some found =>
    refine .bind (narrating.handle found.1 found.2) fun outcome => ?_
    cases outcome with
    | returned => exact .pure _
    | panicked => exact .bind (routes_narrated.record trivial) fun _ => .pure _

/-- A function upcall goes on passage by passage if its function does. -/
theorem prolongs_invocation (narrating : NarratingCallbacks cb) (context : Context) (count : Int32)
    (arguments : Option (List Argument)) :
    Prolongs Narrates (Upcall.function cb context count arguments) := by
  have ran : Prolongs Narrates (Upcall.run cb context count arguments) := by
    refine .bind (Upcall.prolongs_accept context count arguments) fun found => ?_
    cases found with
    | error e => exact .pure _
    | ok found => exact narrating.invoke found.1 found.2
  refine ran.bind fun outcome => ?_
  cases outcome with
  | returned result =>
    cases result with
    | ok value => exact Upcall.prolongs_setResult context value
    | error e => exact Upcall.prolongs_setError context _
  | panicked =>
    exact .bind (routes_narrated.record trivial) fun _ => Upcall.prolongs_setError context _

/-- While the engine runs something, passages are added by callbacks only. -/
theorem prolongs_serve (narrating : NarratingCallbacks cb) (reply : Reply E.State α) :
    Prolongs Narrates (Upcall.serve cb reply) := by
  induction reply with
  | done answer state => exact .bind (.modifyGet fun _ => rfl) fun _ => .pure _
  | busy userData attempts state resume ih =>
    refine .bind (.modifyGet fun _ => rfl) fun _ => ?_
    refine .bind (prolongs_busy narrating userData attempts) fun code => ?_
    exact .get_bind fun w => ih code w.engine
  | function context count arguments state resume ih =>
    refine .bind (.modifyGet fun _ => rfl) fun _ => ?_
    refine .bind (prolongs_invocation narrating context count arguments) fun _ => ?_
    exact .get_bind fun w => ih w.engine

/-- An execution is announced. -/
theorem prolongs_execute (narrating : NarratingCallbacks cb) (x : Execution) :
    Prolongs Narrates (Upcall.execute cb x) := by
  have start : Prolongs Narrates (Upcall.start x : SessionM E _) :=
    .single fun _ => ⟨_, .execution x, rfl⟩
  exact start.bind fun reply => .bind (prolongs_serve narrating reply) fun _ =>
    .bind (routes_narrated.record trivial) fun _ => .pure _

/-- Executing a batch goes on passage by passage. -/
theorem prolongs_executeBatch (narrating : NarratingCallbacks cb) (conn : Connection)
    (sql : String) : Prolongs Narrates (conn.executeBatch cb sql).run := by
  refine .run_bind (.run_ofExcept _) fun d => .run_bind (.run_ofExcept _) fun text => ?_
  refine .run_bind (.run_lift (prolongs_execute narrating (.exec d text))) fun code => ?_
  split
  · exact .run_pure _
  · exact .run_bind (.run_lift (prolongs_diagnose _ _ _)) fun _ => .run_throw _

/-- Stepping a statement goes on passage by passage. -/
theorem prolongs_step (narrating : NarratingCallbacks cb) (stmt : Statement) :
    Prolongs Narrates (stmt.step cb) := by
  unfold Statement.step
  split
  · exact .pure _
  · next p _ =>
    refine .bind (prolongs_execute narrating (.step p)) fun code => ?_
    split
    · exact .pure _
    · exact .pure _
    · exact .bind (prolongs_diagnose _ _ _) fun _ => .pure _

/-! ## Steps -/

/-- What is done while a connection is in use goes on as it would else. -/
theorem prolongs_engage {m : SessionM E α} (h : Prolongs Narrates m) (id : ConnectionId) :
    Prolongs Narrates (engage id m) :=
  .bind (prolongs_update _) fun _ => .bind h fun _ => .bind (prolongs_update _) fun _ => .pure _

/-- Stepping the statement of a slot goes on passage by passage. -/
theorem prolongs_advance (narrating : NarratingCallbacks cb) (slot : String) (stmt : Statement) :
    Prolongs Narrates (advance cb slot stmt) := by
  refine .bind (prolongs_update _) fun _ => ?_
  refine .bind (prolongs_engage (prolongs_step narrating stmt) _) ?_
  rintro ⟨result, other⟩
  exact .bind (prolongs_update _) fun _ => .bind (prolongs_update _) fun _ => .pure _

/-- What a step does goes on passage by passage. -/
theorem narrates_act (narrating : NarratingCallbacks cb) (t : Target)
    (action : Action E.Stimulus) : Prolongs Narrates (act cb t action).run := by
  cases action with
  | executeBatch sql =>
    refine .run_bind (prolongs_connection _) fun conn => ?_
    refine .run_bind (.run_lift (prolongs_engage (prolongs_executeBatch narrating conn sql) _)) ?_
    exact fun result => .run_bind (prolongs_settle result) fun _ => .run_pure _
  | step =>
    refine .run_bind (prolongs_statement _) fun stmt => ?_
    refine .run_bind (.run_lift (prolongs_advance narrating _ stmt)) fun result => ?_
    refine .run_bind (prolongs_settle result) fun outcome => ?_
    cases outcome <;> exact .run_pure _
  | query query =>
    exact .run_bind (prolongs_statement _) fun stmt => prolongs_operation (query.prolongs stmt)
  | stimulate stimulus =>
    have acted : Prolongs Narrates (Upcall.stimulate cb stimulus) :=
      .get_bind fun _ => prolongs_serve narrating _
    exact .run_bind (.run_lift acted) fun _ => .run_pure _
  | _ => exact prolongs_act routes_managed t trivial

/-! ## Whole sessions -/

/-- A list of steps goes on passage by passage if each step does. -/
theorem prolongs_runSteps {run : Step E.Stimulus → SessionM E (Report E.Response)}
    (each : ∀ step, Prolongs Narrates (run step)) (steps : List (Step E.Stimulus)) :
    Prolongs Narrates (runSteps run steps) :=
  .forM (fun step => .bind (each step) fun _ => prolongs_update _) steps

/-- Callbacks that run steps go on passage by passage if the steps do. -/
theorem narrating_callbacks {run : Step E.Stimulus → SessionM E (Report E.Response)}
    (each : ∀ step, Prolongs Narrates (run step)) : NarratingCallbacks (callbacks run) := by
  constructor
  · rintro ⟨token, code, owned⟩ attempts
    cases code with
    | steps steps again => exact .bind (prolongs_runSteps each steps) fun _ => .pure _
    | _ => exact .pure _
  · rintro ⟨token, code, owned⟩ values
    cases code with
    | steps steps => exact .bind (prolongs_runSteps each steps) fun _ => .pure _
    | own | invalid =>
      cases owned with
      | none => exact .pure _
      | some conn =>
        refine .bind (routes_managed.changes conn) fun result => ?_
        cases result <;> exact .pure _
    | argument | text =>
      simp only [callbacks]
      split <;> exact .pure _
    | runs => exact .get_bind fun _ => .pure _
    | _ => exact .pure _

/-- Steps are told in passages, however deep callbacks nest. -/
theorem prolongs_perform (depth : Nat) (step : Step E.Stimulus) :
    Prolongs Narrates (perform depth step) := by
  induction depth generalizing step with
  | zero => exact prolongs_conclude _ _
  | succ depth ih =>
    exact .bind (narrates_act (narrating_callbacks ih) _ _) fun result => prolongs_conclude _ result

/-- Whatever a step of a session is, in whatever world it is performed and whatever the engine
answers, a listener at trace level hears of all native calls of the step but those that diagnose
failures and those of functions, in their order, and of no others.  The same holds of the end of a
session. -/
theorem trace_tells_of_routed_calls (w : World E (host E)) :
    (∀ depth step, Traced (((perform depth step).run w).2.since w.transcript.length)) ∧
      Traced ((finish.run w).2.since w.transcript.length) :=
  ⟨fun depth step => (prolongs_perform depth step).traced w,
    (prolongs_finish routes_managed).traced w⟩

/-- An engine that refuses a timeout. -/
def sternEngine : Scripted.State :=
  { script := ⟨[(.busyTimeout, .number 5)]⟩ }

/-- What is announced and what is called in the steps of a session in which the engine refuses a
timeout and then calls a function. -/
def sternCalls : List (List Symbol × List Symbol) :=
  let steps : List (Step Scripted.engine.Stimulus) :=
    [({ connection := some "a" }, .connect ":memory:" {}),
     ({ connection := some "a" }, .busyTimeout 1),
     ({ connection := some "a" }, .registerFunction "f" 0 .empty .count),
     ({}, .stimulate (.invoke ⟨1⟩ "f" 0 [] none false))]
  (run Scripted.engine sternEngine steps).1.map fun r =>
    (Transcript.announced r.entries, Transcript.called r.entries)

/-- The message of the engine is asked for silently, and so are the arguments of the function, and
its result is given in the same way. -/
theorem refusals_and_functions_escape_trace :
    sternCalls =
      [([.openV2], [.openV2]), ([.busyTimeout], [.busyTimeout, .errmsg]),
       ([.createFunctionV2], [.createFunctionV2]), ([], [.userData, .resultInt])] := by
  decide +kernel

end EngineBridge.Session
