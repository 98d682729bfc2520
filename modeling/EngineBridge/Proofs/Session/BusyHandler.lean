import EngineBridge.Proofs.Custody.Failing
import EngineBridge.Proofs.Session.Reaching
import EngineBridge.Scripted.Engine

/-!
# Busy handlers of a session

Between operations, those of callbacks included, the engine gets its answer from the busy
handler that the changes so far have left: the one that was installed last, if no change has
succeeded since.  There is one exception.  A handler that cannot be installed has taken the
place of the one before it by then, and nobody answers until another change succeeds, even
though the engine still asks.
-/

set_option autoImplicit false

namespace EngineBridge

open Native

variable {E : Engine} {H : Host} {w : World E H} {cb : Callbacks E H} {id : ConnectionId}

/-- Whenever the engine asks the busy handler of a connection, the closure of the given number
runs; without a number nothing runs, and the engine is to give up. -/
def World.Consults (w : World E H) (cb : Callbacks E H) (id : ConnectionId) :
    Option Nat → Prop
  | none => ∀ attempts, (Upcall.busy cb id.number attempts).run w = (0, w)
  | some token => ∃ handler : Closure H.Handler, handler.token = token ∧
      w.registry.find? ⟨id, .busyHandler⟩ = some (.busy handler) ∧
      ∀ attempts, (Upcall.busy cb id.number attempts).run w =
        (Upcall.consult cb id.number handler (Upcall.attemptCount attempts)).run
          (w.record (.handled token (Upcall.attemptCount attempts)))

namespace World

/-- A call from the engine finds the handler in the busy slot. -/
theorem acceptBusy_of_busy {handler : Closure H.Handler} (attempts : Int32)
    (found : w.registry.find? ⟨id, .busyHandler⟩ = some (.busy handler)) :
    (Upcall.acceptBusy id.number attempts).run w =
      (some (handler, Upcall.attemptCount attempts),
        w.record (.handled handler.token (Upcall.attemptCount attempts))) := by
  unfold Upcall.acceptBusy
  rw [StateT.run_bind, StateT.run_get, pure_bind]
  dsimp only
  rw [found]
  rfl

/-- A call from the engine finds nothing where no handler is. -/
theorem acceptBusy_of_none (attempts : Int32) (absent : w.busyToken id = none) :
    (Upcall.acceptBusy id.number attempts).run w = (none, w) := by
  unfold Upcall.acceptBusy
  rw [StateT.run_bind, StateT.run_get, pure_bind]
  unfold busyToken at absent
  dsimp only
  split
  · next handler found =>
    rw [found] at absent
    cases absent
  · rfl

/-- The engine gets its answer from the handler in the busy slot. -/
theorem consults_busyToken (w : World E H) (cb : Callbacks E H) (id : ConnectionId) :
    w.Consults cb id (w.busyToken id) := by
  cases token : w.busyToken id with
  | none =>
    intro attempts
    unfold Upcall.busy
    rw [Bridge.run_bind_of_run (acceptBusy_of_none attempts token)]
    rfl
  | some n =>
    have hbusy := token
    unfold busyToken at hbusy
    split at hbusy
    · next handler found =>
      obtain rfl := Option.some.inj hbusy
      refine ⟨handler, rfl, found, fun attempts => ?_⟩
      unfold Upcall.busy
      rw [Bridge.run_bind_of_run (acceptBusy_of_busy attempts found)]
    · cases hbusy

/-- A handler that runs when the engine asks is the one in the busy slot. -/
theorem Consults.busyToken_eq {token : Nat} (h : w.Consults cb id (some token)) :
    w.busyToken id = some token := by
  obtain ⟨handler, rfl, found, -⟩ := h
  simp only [busyToken, found]

end World

namespace Session

variable {w : World E (host E)} {x : Connection} {d : Database}

/-- Between operations the busy slot of a connection that is open holds what the changes so
far have left there. -/
theorem Reachable.busyToken (reachable : Reachable w) (has : Has w x)
    (database : x.database = .ok d) :
    w.busyToken x.id = handlerBy Change.actual x.id w.transcript := by
  have answering := reachable.preserves (fun _ => True) (fun _ _ _ => trivial)
    (fun _ _ turn _ => turn.answering) (begin_answering E) trivial
  have live := (answering.coherent.database_iff has.held).mp database
  exact answering.consulted.handler x.id d live

/-- Between operations the engine gets its answer from the busy handler that the changes so
far have left, which is the one that should be there exactly if there should be none, or no
handler has been refused since the last change that succeeded.  A refused handler empties the
slot, and no other change that fails does anything to it. -/
theorem busy_slot_follows_changes (reachable : Reachable w) (has : Has w x)
    (database : x.database = .ok d) (cb : Callbacks E (host E)) :
    w.Consults cb x.id (handlerBy Change.actual x.id w.transcript) ∧
      (w.Consults cb x.id (handlerBy Change.intended x.id w.transcript) ↔
        handlerBy Change.intended x.id w.transcript = none ∨ ¬ Disturbed x.id w.transcript) ∧
      (∀ ms e w', (x.busyTimeout ms).run.run w = (.error e, w') → w'.registry = w.registry) ∧
      (∀ e w', x.clearBusyHandler.run.run w = (.error e, w') → w'.registry = w.registry) ∧
      ∀ handler e w', (x.registerBusyHandler handler).run.run w = (.error e, w') →
        w'.registry.find? ⟨x.id, .busyHandler⟩ = none := by
  have slot : w.busyToken x.id = handlerBy Change.actual x.id w.transcript :=
    reachable.busyToken has database
  have consults : w.Consults cb x.id (handlerBy Change.actual x.id w.transcript) :=
    slot ▸ w.consults_busyToken cb x.id
  refine ⟨consults, ?_, fun _ _ _ => Connection.registry_eq_of_busyTimeout_error,
    fun _ _ => Connection.registry_eq_of_clearBusyHandler_error,
    fun _ _ _ => Connection.find?_of_registerBusyHandler_error database⟩
  rw [← handlerBy_actual_eq_iff]
  constructor
  · intro intended
    cases token : handlerBy Change.intended x.id w.transcript with
    | none => exact (handlerBy_actual_eq_iff _ _).mpr (.inl token) |>.trans token
    | some n =>
      rw [token] at intended
      exact slot.symm.trans intended.busyToken_eq
  · intro heq
    exact heq ▸ consults

/-- An engine that installs one busy handler and refuses the next. -/
def reluctantEngine : Scripted.State :=
  { script := ⟨[(.busyHandler, .number 0), (.busyHandler, .number 5)]⟩ }

/-- The world after a session that installs two busy handlers, of which the engine refuses the
second. -/
def reluctantWorld : World Scripted.engine (host Scripted.engine) :=
  let steps : List (Step Scripted.engine.Stimulus) :=
    [({ connection := some "a" }, .connect ":memory:" {}),
     ({ connection := some "a" }, .registerBusyHandler (.whileBelow 5)),
     ({ connection := some "a" }, .registerBusyHandler (.whileBelow 3))]
  ((steps.mapM (next 1)).run (begin Scripted.engine reluctantEngine)).2

/-- The first handler should still be there, but nobody answers the engine. -/
theorem refused_handler_empties_slot :
    handlerBy Change.intended ⟨1⟩ reluctantWorld.transcript = some 1 ∧
      reluctantWorld.Consults (callbacks (perform 1)) ⟨1⟩ none ∧
      ¬ reluctantWorld.Consults (callbacks (perform 1)) ⟨1⟩ (some 1) := by
  let x : Connection := ⟨⟨1⟩, .opened, some ⟨1⟩, ":memory:"⟩
  have reachable : Reachable reluctantWorld := (Reachable.begin _).steps 1 _
  have found : reluctantWorld.host.connections.get? "a" = some x := by decide +kernel
  have intended : handlerBy Change.intended ⟨1⟩ reluctantWorld.transcript = some 1 := by
    decide +kernel
  have actual : handlerBy Change.actual ⟨1⟩ reluctantWorld.transcript = none := by
    decide +kernel
  have settled := busy_slot_follows_changes reachable (.inl ⟨"a", found⟩) rfl
    (callbacks (perform 1))
  have disturbed := (handlerBy_actual_eq_iff ⟨1⟩ reluctantWorld.transcript).not.mp
  rw [actual, intended] at settled disturbed
  exact ⟨intended, settled.1, fun h => disturbed nofun (settled.2.1.mp h)⟩

end Session

end EngineBridge
