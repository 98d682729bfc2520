import EngineBridge.Proofs.Operations.Opening
import EngineBridge.Proofs.Session.Lifecycle

/-!
# Opening the connections of a session

A connection of a session that is not open yet is as it was when it was created, however many
attempts to open it have failed.
-/

set_option autoImplicit false

namespace EngineBridge

open Native Relation

variable {E : Engine} {H : Host}

namespace Session

variable {w : World E (host E)}

/-- A connection that has not been opened is as it was when it was created. -/
theorem Reachable.unopened (reachable : Reachable w) {x : Connection} (has : Has w x)
    (unopened : x.state = .unopened) : x = { id := x.id } ∧ w.target x.id = none := by
  obtain ⟨coherent, chronicled⟩ := reachable.lived
  obtain ⟨y, more, -, advances, -, -, last⟩ :=
    exists_last_of_follows coherent (chronicled.follows x.id (coherent.counted x has.held))
  obtain rfl := last.1 x has advances.id_eq.symm
  refine ⟨?_, coherent.target_of_unopened has.held unopened⟩
  rcases advances.cases_state with ⟨same, -⟩ | ⟨-, begun, -⟩ | ⟨⟨d, database, -⟩, -⟩
  · exact same
  · exact absurd unopened begun
  · cases database

/-- Interrupts of a connection that is new go nowhere. -/
theorem Reachable.created (reachable : Reachable w) {x : Connection} {v : World E (host E)}
    (run : Connection.create.run w = (x, v)) : x = { id := x.id } ∧ v.target x.id = none := by
  obtain ⟨coherent, -⟩ := reachable.lived
  cases run
  refine ⟨rfl, Option.eq_none_iff_forall_ne_some.mpr fun d armed => ?_⟩
  have known := coherent.armed _ d armed
  exact absurd known (Nat.not_succ_le_self _)

/-- An attempt to open a connection takes the calls that it takes (`Connection.Attempt`).  It
succeeds if its texts hold no zero octet, the engine reports success and makes an object, and
the busy timeout can be set if one is asked for; it is passed on as far as the engine can be
told.  Otherwise the connection stays as it is, and of the world only the engine and the
transcript change; the object that was made is closed by the last call.  However many attempts
have failed, the next one goes as the first one would have gone with the engine as it is now.
Between operations a connection of a session that is not open yet, as one that is new, has no
object and no path, and interrupts of it go nowhere. -/
theorem open_all_or_nothing {conn : Connection} (unopened : conn.state = .unopened)
    (path : String) (options : OpenOptions) (w : World E H) :
    (∃ outcome calls result after v,
      (conn.openWith path options).run w = ((result, after), v) ∧
      Connection.Attempt w path options outcome calls ∧
      (v.since w.transcript.length).filter Entry.isNative = calls ∧
      (result = .ok () ↔ Connection.Presentable path options ∧
        ∃ d, w.answer (Connection.request path options) = ⟨0, some d⟩ ∧
          ∀ ms ∈ options.busyTimeout, (w.called (Connection.request path options)).answer
            (.busyTimeout d (nativeMilliseconds ms)) = (0 : Int32)) ∧
      (∀ d, outcome = .ok d → result = .ok () ∧ v.target conn.id = some d ∧
        after = { conn with state := .opened, handle := some d, path := path }) ∧
      ∀ e, outcome = .error e → result = .error e ∧ after = conn ∧
        v = { w with engine := v.engine, transcript := v.transcript } ∧
        (∀ d, Connection.Presentable path options →
          (w.answer (Connection.request path options)).database = some d →
            ∃ earlier text closed,
              calls = earlier ++ [.called (.errmsg d) text, .called (.closeV2 d) closed] ∧
                ∀ entry ∈ earlier, entry.closes = none) ∧
        ((Connection.Presentable path options →
          (w.answer (Connection.request path options)).database = none) →
            ∀ entry ∈ calls, entry.closes = none)) ∧
    (∀ ms, (nativeMilliseconds ms).toInt = min (ms.toNat : Int) 2147483647) ∧
    (∀ v, ReflTransGen (Connection.Fails conn) w v →
      v = { w with engine := v.engine, transcript := v.transcript } ∧
      ∀ path options, ∃ (result : Except BindError Unit × Connection) (u : World E H)
          (entries : List Entry),
        (conn.openWith path options).run { w with engine := v.engine } =
          (result, { u with transcript := entries ++ w.transcript }) ∧
        (conn.openWith path options).run v =
          (result, { u with transcript := entries ++ v.transcript })) ∧
    ∀ u : World E (host E), Reachable u →
      (∀ x, Has u x → x.state = .unopened → x = { id := x.id } ∧ u.target x.id = none) ∧
      ∀ x u', Connection.create.run u = (x, u') → x = { id := x.id } ∧ u'.target x.id = none := by
  refine ⟨?_, Connection.toInt_nativeMilliseconds, ?_, ?_⟩
  · obtain ⟨outcome, calls, v, acquired, attempt, tells⟩ :=
      Connection.attempt_acquire w unopened path options
    have iff := attempt.succeeds_iff
    cases outcome with
    | error e =>
      have run : (conn.openWith path options).run w = ((.error e, conn), v) :=
        Bridge.run_bind_of_run acquired
      have frame := Connection.frame_of_fails (.single ⟨path, options, e, conn, run⟩)
      refine ⟨_, _, _, _, _, run, attempt, tells.since, ?_, by rintro d ⟨⟩, ?_⟩
      · rw [← iff]
        simp
      · rintro _ ⟨⟩
        exact ⟨rfl, rfl, frame, attempt.closes⟩
    | ok d =>
      have run : (conn.openWith path options).run w = _ := Bridge.run_bind_of_run acquired
      have armed : Connection.Tells v []
          ((Bridge.arm conn.id d v).2.record (.reported (.opened conn.id path))) :=
        ⟨[.reported (.opened conn.id path)], rfl, rfl⟩
      have noted := tells.trans armed
      rw [List.append_nil] at noted
      refine ⟨_, _, _, _, _, run, attempt, noted.since, ?_, ?_, by rintro e ⟨⟩⟩
      · rw [← iff]
        simp
      · rintro _ ⟨⟩
        exact ⟨rfl, (World.target_arm conn.id conn.id d).trans (if_pos rfl), rfl⟩
  · intro v fails
    -- failures change the engine and the transcript, and opening looks at the engine only
    have frame := Connection.frame_of_fails fails
    refine ⟨frame, fun path options => ?_⟩
    obtain ⟨result, u, entries, framed⟩ := conn.openWith_framed path options v
    refine ⟨result, u, entries, ?_, framed v.transcript⟩
    have first := framed w.transcript
    rw [frame] at first
    exact first
  · exact fun u reachable => ⟨fun x => reachable.unopened, fun x u' => reachable.created⟩

/-- An engine that makes objects, but fails twice: to open a database and to set a busy
timeout. -/
def laggardEngine : Scripted.State :=
  { script := ⟨[(.openV2, .number 14), (.busyTimeout, .number 5)]⟩ }

/-- The world after a session that has created a connection. -/
def laggardWorld : World Scripted.engine (host Scripted.engine) :=
  let steps : List (Step Scripted.engine.Stimulus) := [({ connection := some "a" }, .create)]
  ((steps.mapM (next 1)).run (begin Scripted.engine laggardEngine)).2

/-- The world after an attempt that the engine refuses. -/
def refusedOnce : World Scripted.engine (host Scripted.engine) :=
  ((Connection.openWith { id := ⟨1⟩ } "x" {}).run laggardWorld).2

/-- The world after one more attempt, which is given up because of its busy timeout. -/
def refusedTwice : World Scripted.engine (host Scripted.engine) :=
  let options : OpenOptions := { busyTimeout := some 4294967295 }
  ((Connection.openWith { id := ⟨1⟩ } "y" options).run refusedOnce).2

/-- The third attempt opens the connection, as it would have done without the other two. -/
theorem laggard_engine_opens_at_last :
    let conn : Connection := { id := ⟨1⟩ }
    let opened : Connection := ⟨⟨1⟩, .opened, some ⟨3⟩, "z"⟩
    conn.state = .unopened ∧ Has laggardWorld conn ∧
      refusedTwice = { laggardWorld with
        engine := refusedTwice.engine, transcript := refusedTwice.transcript } ∧
      ((conn.openWith "z" {}).run refusedTwice).1 = (.ok (), opened) ∧
      ((conn.openWith "z" {}).run { laggardWorld with engine := refusedTwice.engine }).1 =
        (.ok (), opened) := by
  intro conn opened
  have unopened : conn.state = .unopened := rfl
  have found : laggardWorld.host.connections.get? "a" = some conn := by decide +kernel
  have once : Connection.Fails conn laggardWorld refusedOnce :=
    Connection.fails_of_not_isOk (by decide +kernel)
  have twice : Connection.Fails conn refusedOnce refusedTwice :=
    Connection.fails_of_not_isOk (by decide +kernel)
  have at_last : ((conn.openWith "z" {}).run refusedTwice).1 = (.ok (), opened) := by
    decide +kernel
  obtain ⟨-, -, again, -⟩ := open_all_or_nothing unopened "z" {} laggardWorld
  obtain ⟨frame, same⟩ := again refusedTwice (.tail (.single once) twice)
  obtain ⟨result, u, entries, first, later⟩ := same "z" {}
  rw [later] at at_last
  refine ⟨unopened, .inl ⟨"a", found⟩, frame, ?_, ?_⟩
  · rw [later]
    exact at_last
  · rw [first]
    exact at_last

end Session

end EngineBridge
