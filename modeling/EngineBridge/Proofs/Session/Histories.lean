import EngineBridge.Proofs.Session.Prompting
import EngineBridge.Proofs.Session.Undergoing
import EngineBridge.Scripted.Engine

/-!
# Statements follow their history

In every state between operations a statement of a session stands as the calls have left it that
were made on its object since the engine handed it out.  From that follows where columns are
looked at: only while the statement is not finalized and has the column, and for a value of the
current row only while there is one.  The transcript alone tells all of this.
-/

set_option autoImplicit false

namespace EngineBridge

open Native Session.Attempt

variable {E : Engine} {H : Host}

/-- A column is looked at only if the statement has it by the latest number of columns, and is not
finalized.  A value is taken only if the latest step or reset of the statement was a step that gave
a row. -/
def Circumspect (entry : Entry) (earlier : List Entry) : Prop :=
  ∀ p index, entry.column? = some (p, index) → InRange p index earlier ∧
    ∃ d later, GivenOut p d later earlier ∧ (∀ other ∈ later, other.finalizes ≠ some p) ∧
      (entry.readsRow → latestMove p later = some (.ended (.step p) NamedCode.row.value))

namespace Session

variable {w : World E (host E)} {slot : String} {t : Statement}

/-- A turn leaves statements as they are documented, if no object is handed out that is in use. -/
theorem Turn.documented {s s' : Stage E H} (turn : Turn s s')
    (lending : Throughout Lending s'.world.transcript) (h : s.Documented) : s'.Documented := by
  cases turn with
  | move move => exact move.documented lending h
  | host => exact ⟨h.recorded, h.distinct⟩

/-- Between operations the statements of a session are on record, if the engine hands out no
object that is still in use. -/
theorem Reachable.onRecord (reachable : Reachable w) (lending : Throughout Lending w.transcript)
    (found : w.host.statements.get? slot = some t) : t.OnRecord w.transcript := by
  have documented : Stage.Documented ⟨w.host.custody 0, w⟩ :=
    reachable.preserves (Throughout Lending) (fun _ _ => Throughout.before)
      (fun _ _ turn => Turn.documented turn)
      (fun _ => ⟨fun _ none => absurd none (Multiset.notMem_zero _), Multiset.nodup_zero⟩) lending
  exact documented.recorded t (Slots.mem_values_iff.mpr ⟨slot, found⟩)

/-- What is prompted is circumspect: nothing has moved the statement since the question was put. -/
theorem Prompted.circumspect {entry : Entry} {earlier : List Entry} (h : Prompted E entry earlier)
    (lending : Throughout Lending earlier) : Circumspect entry earlier := by
  intro p index about
  cases h with
  | columnless none => cases none.symm.trans about
  | @question u slot stmt own reachable found since rests permits =>
    obtain ⟨handle, inRange, row⟩ := permits.column p index about
    subst since
    obtain ⟨q, later, given, fits⟩ := reachable.onRecord lending.of_append found
    cases fits with
    | gone none => cases none.symm.trans handle
    | live handle' kept state =>
      obtain rfl : q = p := Option.some.inj (handle'.symm.trans handle)
      have kept' : ∀ other ∈ own, other.finalizes ≠ some q := by
        intro other mem
        rw [(rests other mem).finalizes]
        exact nofun
      refine ⟨inRange, stmt.database, own ++ later, given.append own,
        List.forall_mem_append.mpr ⟨kept', kept⟩, fun reads => ?_⟩
      -- how the statement stood when the question was put is how it stands now
      refine (standing_leftBy q _).stepping.mp ?_
      rw [standing_append_of_rests rests, ← state, row reads]

/-- Between operations columns have been looked at only where that is allowed. -/
theorem Reachable.circumspect (reachable : Reachable w)
    (lending : Throughout Lending w.transcript) : Throughout Circumspect w.transcript := by
  have prompted : Throughout (Prompted E) w.transcript := reachable.prompted
  generalize w.transcript = log at prompted lending
  induction prompted with
  | nil => exact .nil
  | cons now _ ih => exact .cons (now.circumspect lending.before) (ih lending.before)

/-- Questions leave all statements of a session as they are. -/
theorem act_query_host (cb : Callbacks E (host E)) (target : Target) (query : Query)
    (w : World E (host E)) : ((act cb target (.query query)).run.run w).2.host = w.host := by
  show ((statement target.statementSlot >>= fun stmt => operation (query.ask stmt)).run w).2.host =
    w.host
  unfold Attempt.statement
  rw [bind_assoc, state_bind_run]
  cases w.host.statements.get? target.statementSlot with
  | none => rfl
  | some stmt =>
    by_cases used : target.statementSlot ∈ w.host.stepping
    · simp only [if_pos used]
      rfl
    · simp only [if_neg used]
      have asked : ((operation (query.ask stmt)).run w).2 = ((query.ask stmt).run.run w).2 :=
        bind_pure (operation (query.ask stmt)) ▸ operation_world id w
      have quiet : w.Quiet ((query.ask stmt).run.run w).2 := (asks_query query stmt w).quiet
      exact (congrArg World.host asked).trans quiet.host

/-- The statement of a slot has its object just until it is finalized. -/
theorem Reachable.handle_isSome_iff (reachable : Reachable w)
    (found : w.host.statements.get? slot = some t) :
    t.handle.isSome ↔ t.state ≠ .finalized := by
  rw [Option.isSome_iff_ne_none]
  exact (not_congr (reachable.sound found)).symm

/-- How a statement stands is told by its history.

Whatever operations a statement goes through, in whatever worlds, it is finalized exactly if that
was asked for, with whatever result, and stands as the latest step or reset has left it otherwise.
Questions move no statement, and keep to what the statement has undergone when they look at a
column.

In a session, callbacks included, columns are looked at only through such questions.  If the engine
hands out no object that is still in use, the transcript tells for each statement how it stands,
and whenever a column was looked at, that there was such a column and, where a value was taken, a
row. -/
theorem statement_state_follows_history :
    (∀ (p : Program) (uses : List Use) (log : List Entry) (t : Statement),
      Undergoes E p uses log t →
      (t.handle.isSome ↔ t.state ≠ .finalized) ∧
      (t.state = .finalized ↔ .finalize ∈ uses) ∧
      (t.state ≠ .finalized → t.handle = some p ∧ t.state.LeftBy p log) ∧
      ∀ query : Query, Bridge.Adds (Allows p uses log)
        (query.ask t : Fallible E (host E) (Payload E.Response)).run) ∧
    ∀ w : World E (host E), Reachable w →
      Throughout (Prompted E) w.transcript ∧
      (∀ cb target query, ((act cb target (.query query)).run.run w).2.host = w.host) ∧
      (∀ slot t, w.host.statements.get? slot = some t →
        (t.handle.isSome ↔ t.state ≠ .finalized)) ∧
      (Throughout Lending w.transcript →
        (∀ slot t, w.host.statements.get? slot = some t →
          ∃ p later, GivenOut p t.database later w.transcript ∧
            (t.state = .finalized ↔ ∃ entry ∈ later, entry.finalizes = some p) ∧
            (t.state ≠ .finalized → t.handle = some p ∧ t.state.LeftBy p later)) ∧
        Throughout Circumspect w.transcript) := by
  refine ⟨fun p uses log t undergoes => ?_, fun w reachable => ?_⟩
  · obtain ⟨present, finalized, live⟩ := undergoes.undergone.state_eq
    exact ⟨present, finalized, live, undergoes.undergone.adds⟩
  · refine ⟨reachable.prompted, fun cb target query => act_query_host cb target query w,
      fun slot t found => reachable.handle_isSome_iff found, fun lending => ⟨?_, ?_⟩⟩
    · intro slot t found
      obtain ⟨p, later, given, fits⟩ := reachable.onRecord lending found
      obtain ⟨finalized, live⟩ := fits.state
      refine ⟨p, later, given, finalized, fun unfinalized => ?_⟩
      obtain ⟨handle, state⟩ := live unfinalized
      exact ⟨handle, state ▸ standing_leftBy p later⟩
    · exact reachable.circumspect lending

/-- An engine with a row of one column, which fails to let the statement go. -/
def rowEngine : Scripted.State :=
  { script := ⟨[(.prepareV2, .reaction { columns := [{}], rows := [[.given .null]] }),
      (.finalize, .number 5)]⟩ }

/-- The world after a session that takes a value from the row. -/
def rowWorld : World Scripted.engine (host Scripted.engine) :=
  let steps : List (Step Scripted.engine.Stimulus) :=
    [({ connection := some "a" }, .connect ":memory:" {}),
     ({ connection := some "a", statement := some "s" }, .prepare "q"),
     ({ statement := some "s" }, .step),
     ({ statement := some "s" }, .query (.columnInt 0))]
  ((steps.mapM (next 1)).run (begin Scripted.engine rowEngine)).2

/-- A row was current when its value was taken, and a statement that the engine fails to let go is
finalized all the same. -/
theorem row_is_current_when_read :
    (∃ earlier ⊆ rowWorld.transcript, InRange ⟨1⟩ 0 earlier ∧ ∃ d later,
      GivenOut ⟨1⟩ d later earlier ∧
      latestMove ⟨1⟩ later = some (.ended (.step ⟨1⟩) NamedCode.row.value)) ∧
    let stmt : Statement := ⟨⟨1⟩, ⟨1⟩, some ⟨1⟩, .prepared, "q"⟩
    let finalized := (Use.finalize.perform (callbacks (perform 1)) stmt).run rowWorld
    (finalized.1.1 matches .error (.engine _)) ∧ finalized.1.2.state = .finalized := by
  have reachable : Reachable rowWorld := (Reachable.begin _).steps 1 _
  obtain ⟨alone, session⟩ := statement_state_follows_history (E := Scripted.engine)
  constructor
  · have faithful : Faithful rowWorld.transcript :=
      ⟨by decide +kernel, by decide +kernel, by decide +kernel⟩
    have lending : Throughout Lending rowWorld.transcript :=
      faithful.fresh.imp fun _ _ => Fresh.lending
    have read : ∃ entry ∈ rowWorld.transcript,
        entry.column? = some (⟨1⟩, 0) ∧ entry.readsRow := by decide +kernel
    obtain ⟨entry, mem, about, reads⟩ := read
    obtain ⟨-, -, -, recorded⟩ := session rowWorld reachable
    obtain ⟨earlier, before, circumspect⟩ := (recorded lending).2.of_mem mem
    obtain ⟨inRange, d, later, given, -, row⟩ := circumspect _ _ about
    exact ⟨earlier, before, inRange, d, later, given, row reads⟩
  · intro stmt finalized
    have undergoes := Undergoes.used (.prepared rfl rfl : Undergoes Scripted.engine ⟨1⟩ [] [] stmt)
      reachable 1 .finalize
    exact ⟨by decide +kernel, (alone _ _ _ _ undergoes).2.1.mpr List.mem_cons_self⟩

end Session

end EngineBridge
