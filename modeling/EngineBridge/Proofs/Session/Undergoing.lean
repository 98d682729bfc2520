import EngineBridge.Proofs.Session.Routing
import EngineBridge.Proofs.Session.StateErrors
import EngineBridge.Proofs.Session.Texts

/-!
# What a statement undergoes

Whatever operations a statement goes through, in whatever worlds and with whatever answers of the
engine, how it stands is told by the calls that these operations have made.  `Use.Outcome` says so
of one operation, and `Undergoes` puts operations one after the other.

Nothing is assumed of the engine here: what other operations do in between, those of callbacks
included, counts only as far as it happens within a step of the statement, and then the end of the
step is what has happened last.
-/

set_option autoImplicit false

namespace EngineBridge

open Native

variable {E : Engine} {H : Host} {p : Program}

/-- A diagnosis adds only entries that leave all objects at rest. -/
theorem World.exists_diagnosed_rests (w : World E H) (d : Database) (symbol : Symbol)
    (code : Int32) : ∃ own, (w.diagnosed (some d) symbol code).transcript = own ++ w.transcript ∧
      ∀ entry ∈ own, entry.Rests := by
  have asked : ∀ entry ∈ [Entry.called (.errmsg d) (w.answer (.errmsg d))], entry.Rests :=
    List.forall_mem_singleton.mpr ⟨fun _ => rfl, rfl⟩
  exact ⟨_ :: [_], rfl, List.forall_mem_cons.mpr ⟨⟨fun _ => rfl, rfl⟩, asked⟩⟩

namespace Session

variable {w : World E (host E)} {stmt after : Statement} {more log : List Entry}

/-- How an operation leaves a statement, after adding some entries to the transcript: moved by a
call after which nothing has moved it, as it was if nothing has moved it at all, or finalized. -/
inductive Use.Outcome (p : Program) (stmt after : Statement) (more : List Entry) : Use → Prop
  | moved {use : Use} {own served : List Entry} {entry : Entry} (unfinished : use ≠ .finalize)
      (added : more = own ++ entry :: served) (rests : ∀ other ∈ own, other.Rests)
      (handle : after.handle = stmt.handle) (left : entry.leaves? p = some after.state) :
      Outcome p stmt after more use
  | rested {query : Query} (rests : ∀ entry ∈ more, entry.Rests) (same : after = stmt) :
      Outcome p stmt after more (.query query)
  | finalized (handle : after.handle = none) (state : after.state = .finalized) :
      Outcome p stmt after more .finalize

/-- The engine runs a program, and nothing happens after it has come to the end. -/
theorem execute_ends (reachable : Reachable w) (depth : Nat) (x : Execution) :
    ∃ code u served, (Upcall.execute (callbacks (perform depth)) x).run w = (code, u) ∧
      u.transcript = .ended x code :: (served ++ w.transcript) := by
  let served := (Upcall.serve (callbacks (perform depth)) (E.execute (w.beginning x).engine x)).run
    (w.beginning x)
  obtain ⟨entries, grown⟩ : (w.beginning x).Grows served.2 := grows_serve reachable depth x _
  refine ⟨served.1, served.2.record (.ended x served.1),
    entries ++ [.began x, .reported (.nativeCall x.symbol)], rfl, ?_⟩
  show _ :: served.2.transcript = _
  rw [grown, List.append_assoc]
  rfl

/-- A step leaves a statement as the code says with which it ends, and nothing moves the statement
after that. -/
theorem step_ends (reachable : Reachable w) (depth : Nat) (handle : stmt.handle = some p) :
    ∃ code result v own served,
      (stmt.step (callbacks (perform depth))).run w =
        ((result, { stmt with state := .afterStep code }), v) ∧
      v.transcript = own ++ .ended (.step p) code :: (served ++ w.transcript) ∧
      ∀ other ∈ own, other.Rests := by
  obtain ⟨code, u, served, ran, ended⟩ := execute_ends reachable depth (.step p)
  refine ⟨code, ?_⟩
  unfold Statement.step
  rw [handle]
  dsimp only
  rw [Bridge.run_bind_of_run ran, afterStep_eq]
  -- what happens after the end is no more than the diagnosis of a failure
  obtain ⟨own, diagnosed, rests⟩ := u.exists_diagnosed_rests stmt.database .step code
  rw [ended] at diagnosed
  cases ResultClass.ofCode code with
  | row | done => exact ⟨_, u, [], served, rfl, ended, List.forall_mem_nil _⟩
  | ok | busy | error =>
    exact ⟨_, _, own, served, Bridge.run_bind_of_run (Bridge.diagnose_run _ _ _ _), diagnosed, rests⟩

/-- Nothing moves a statement after a call of which nothing but success is taken. -/
theorem succeed_ends (d : Database) (c : Call) (code : c.Answer → Int32) (w : World E (host E)) :
    ∃ result v own served answer,
      (Fallible.succeed (some d) c code).run.run w = (result, v) ∧
      v.transcript = own ++ .called c answer :: (served ++ w.transcript) ∧
      ∀ other ∈ own, other.Rests := by
  by_cases done : code ((w.announced c).answer c) = 0
  · exact ⟨_, _, [], [_], _, Fallible.succeed_run _ _ _ done, rfl, List.forall_mem_nil _⟩
  · obtain ⟨own, diagnosed, rests⟩ := (w.called c).exists_diagnosed_rests d c.symbol
      (code ((w.announced c).answer c))
    exact ⟨_, _, own, [_], _, Fallible.succeed_run_error _ _ _ done, diagnosed, rests⟩

/-- An operation leaves a statement as the calls say that it makes. -/
theorem Use.outcome (use : Use) (reachable : Reachable w) (depth : Nat)
    (handle : stmt.handle = some p) :
    let used := (use.perform (callbacks (Session.perform depth)) stmt).run w
    ∃ more, used.2.transcript = more ++ w.transcript ∧ Outcome p stmt used.1.2 more use := by
  intro used
  cases use with
  | step =>
    obtain ⟨code, result, v, own, served, run, grown, rests⟩ := step_ends reachable depth handle
    have whole : used = ((result.map fun _ => (), { stmt with state := .afterStep code }), v) :=
      Bridge.run_bind_of_run run
    rw [whole]
    refine ⟨own ++ .ended (.step p) code :: served, ?_, ?_⟩
    · rw [grown, List.append_assoc]
      rfl
    · exact .moved Use.noConfusion rfl rests rfl (Entry.leaves?_step p code)
  | reset =>
    obtain ⟨result, v, own, served, answer, run, grown, rests⟩ :=
      succeed_ends stmt.database (.reset p) (·) w
    have whole : used = ((result, { stmt with state := .prepared }), v) := by
      show (stmt.reset).run w = _
      unfold Statement.reset
      rw [handle]
      exact Bridge.run_bind_of_run run
    rw [whole]
    refine ⟨own ++ .called (.reset p) answer :: served, ?_, ?_⟩
    · rw [grown, List.append_assoc]
      rfl
    · exact .moved Use.noConfusion rfl rests rfl (Entry.leaves?_reset p answer)
  | finalize =>
    obtain ⟨result, v, own, served, answer, run, grown, -⟩ :=
      succeed_ends stmt.database (.finalize p) (·) (w.record (.reported (.finalizing stmt.sql)))
    have reported : (Bridge.report (.finalizing stmt.sql) : SessionM E Unit).run w =
        ((), w.record (.reported (.finalizing stmt.sql))) := rfl
    have whole : used = ((result, { stmt with handle := none, state := .finalized }), v) := by
      show (stmt.finalize).run w = _
      unfold Statement.finalize
      rw [handle]
      exact (Bridge.run_bind_of_run reported).trans (Bridge.run_bind_of_run run)
    rw [whole]
    refine ⟨own ++ .called (.finalize p) answer ::
      (served ++ [.reported (.finalizing stmt.sql)]), ?_, .finalized rfl rfl⟩
    simp [grown, World.record]
  | query query =>
    obtain ⟨-, more, grown, rests⟩ :=
      (Query.adds query stmt w).since fun _ _ permits => permits.rests
    exact ⟨more, grown, .rested rests rfl⟩

/-! ## One operation after the other -/

/-- What has become of a statement that was prepared with an object, after some operations, the
latest first, and what these have added to transcripts, the latest first as well.  The worlds in
which the operations are carried out are any that a session can reach. -/
inductive Undergoes (E : Engine) (p : Program) : List Use → List Entry → Statement → Prop
  | prepared {stmt : Statement} (handle : stmt.handle = some p) (state : stmt.state = .prepared) :
      Undergoes E p [] [] stmt
  | used {uses : List Use} {log : List Entry} {stmt : Statement} {w : World E (host E)}
      (before : Undergoes E p uses log stmt) (reachable : Reachable w) (depth : Nat) (use : Use) :
      Undergoes E p (use :: uses)
        ((((use.perform (callbacks (perform depth)) stmt).run w).2.since
          w.transcript.length).reverse ++ log)
        ((use.perform (callbacks (perform depth)) stmt).run w).1.2

/-- How a statement stands after some operations fits what they were and what they have added to
transcripts. -/
inductive Undergone (p : Program) (uses : List Use) (log : List Entry) (stmt : Statement) : Prop
  | live (handle : stmt.handle = some p) (kept : .finalize ∉ uses)
      (state : stmt.state = standing p log)
  | gone (handle : stmt.handle = none) (state : stmt.state = .finalized)
      (finalized : .finalize ∈ uses)

/-- How a statement stands fits one more operation. -/
theorem Use.Outcome.undergone {use : Use} {uses : List Use}
    (outcome : Outcome p stmt after more use) (handle : stmt.handle = some p)
    (kept : .finalize ∉ uses) (state : stmt.state = standing p log) :
    Undergone p (use :: uses) (more ++ log) after := by
  -- the latest call that has moved the statement is among the entries that were added, or there
  -- is none among them and it is the one from before
  cases outcome with
  | @moved _ own served entry unfinished added rests same left =>
    refine .live (same.trans handle) ?_ ?_
    · rintro (_ | ⟨_, later⟩)
      · exact unfinished rfl
      · exact kept later
    · rw [added, List.append_assoc, standing_append_of_rests rests, List.cons_append,
        standing_cons_of_some left]
  | rested rests same =>
    rw [same]
    refine .live handle (List.not_mem_cons_of_ne_of_not_mem Use.noConfusion kept) ?_
    rw [state, standing_append_of_rests rests]
  | finalized handle state => exact .gone handle state List.mem_cons_self

/-- How a statement stands fits all that it has undergone. -/
theorem Undergoes.undergone {uses : List Use} (h : Undergoes E p uses log stmt) :
    Undergone p uses log stmt := by
  -- once the statement is finalized, operations do nothing any more
  induction h with
  | prepared handle state => exact .live handle List.not_mem_nil state
  | @used uses log stmt w before reachable depth use ih =>
    cases ih with
    | live handle kept state =>
      obtain ⟨more, grown, outcome⟩ := use.outcome reachable depth handle
      rw [World.since_of_append grown, List.reverse_reverse]
      exact outcome.undergone handle kept state
    | gone handle state finalized =>
      rw [use.perform_of_finalized handle]
      exact .gone handle state (List.mem_cons_of_mem _ finalized)

/-- What a question may add to the transcript that is put to a statement after some operations:
nothing that moves a statement, and no call about a column unless the statement has it and is not
finalized.  A value is taken only if the latest step or reset was a step that gave a row. -/
structure Allows (p : Program) (uses : List Use) (log : List Entry) (entry : Entry)
    (earlier : List Entry) : Prop where
  rests : entry.Rests
  column : ∀ q index, entry.column? = some (q, index) →
    q = p ∧ .finalize ∉ uses ∧ InRange p index earlier ∧
      (entry.readsRow → latestMove p log = some (.ended (.step p) NamedCode.row.value))

/-- Questions to a statement keep to what it has undergone. -/
theorem Undergone.adds {uses : List Use} (h : Undergone p uses log stmt) (query : Query) :
    Bridge.Adds (Allows p uses log)
      (query.ask stmt : Fallible E (host E) (Payload E.Response)).run := by
  refine fun w => (Query.adds query stmt w).mono fun entry earlier permits => ?_
  refine ⟨permits.rests, fun q index about => ?_⟩
  obtain ⟨handle, inRange, row⟩ := permits.column q index about
  cases h with
  | gone none => cases none.symm.trans handle
  | live handle' kept state =>
    obtain rfl : p = q := Option.some.inj (handle'.symm.trans handle)
    refine ⟨rfl, kept, inRange, fun reads => ?_⟩
    exact (standing_leftBy p log).stepping.mp (state ▸ row reads)

/-- A statement has an object unless it is finalized; it is finalized exactly if that was asked
for, and stands as the latest step or reset has left it otherwise. -/
theorem Undergone.state_eq {uses : List Use} (h : Undergone p uses log stmt) :
    (stmt.handle.isSome ↔ stmt.state ≠ .finalized) ∧
      (stmt.state = .finalized ↔ .finalize ∈ uses) ∧
      (stmt.state ≠ .finalized → stmt.handle = some p ∧ stmt.state.LeftBy p log) := by
  cases h with
  | live handle kept state =>
    have unfinalized : stmt.state ≠ .finalized := state ▸ standing_ne_finalized
    refine ⟨⟨fun _ => unfinalized, fun _ => ?_⟩, ⟨fun finalized => absurd finalized unfinalized,
      fun finalized => absurd finalized kept⟩, fun _ => ⟨handle, ?_⟩⟩
    · rw [handle]
      rfl
    · rw [state]
      exact standing_leftBy p log
  | gone handle state finalized =>
    refine ⟨⟨fun present => ?_, fun live => absurd state live⟩, ⟨fun _ => finalized, fun _ => state⟩,
      fun live => absurd state live⟩
    rw [handle] at present
    cases present

end Session

end EngineBridge
