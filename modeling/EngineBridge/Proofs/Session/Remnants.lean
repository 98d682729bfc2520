import EngineBridge.Proofs.Ownership.Remnants
import EngineBridge.Proofs.Session.Lifecycle

/-!
# What the connections of a session leave behind

A connection of a session that is gone has left nothing in the registry, except if it was open
when it went, because the engine had refused to close it.  Then its closures stay where they are
for the rest of the session, and so do the connections that they own.
-/

set_option autoImplicit false

namespace EngineBridge

open Native Relation

variable {E : Engine} {H : Host}

/-- Turns do not touch the entries of a connection that is gone. -/
theorem Turn.lost {s s' : Stage E H} {id : ConnectionId} (turns : ReflTransGen Turn s s')
    (h : s.Lost id) :
    s'.Lost id ∧ s'.world.registry.ownedBy id = s.world.registry.ownedBy id := by
  induction turns with
  | refl => exact ⟨h, rfl⟩
  | tail _ turn ih =>
    obtain ⟨lost, kept⟩ := ih
    cases turn with
    | move move =>
      obtain ⟨lost', kept'⟩ := move.lost lost
      exact ⟨lost', kept'.trans kept⟩
    | host => exact ⟨lost, kept⟩

namespace Session

variable {w v : World E (host E)} {id : ConnectionId}

/-- The connection with this number was open when it went out of use, although it had been told
to be closed.  If the engine hands out no object twice, that was because it refused. -/
def WentOpen (w : World E (host E)) (id : ConnectionId) : Prop :=
  ∃ (y : Connection) (d : Database), Connection.Advances { id } y w.transcript ∧
    y.database = .ok d ∧ ToldToClose d w.transcript ∧
    (Throughout Fresh w.transcript →
      ∀ code, .called (.closeV2 d) code ∈ w.transcript → code ≠ 0)

/-- At any time only connections that went while they were open have left closures in the
registry. -/
theorem ownedBy_eq_nil_or_wentOpen {engine : E.State} {κ : Custody}
    (turns : ReflTransGen Turn ⟨{}, begin E engine⟩ ⟨κ, w⟩)
    (lost : Stage.Lost (⟨κ, w⟩ : Stage E (host E)) id) :
    w.registry.ownedBy id = [] ∨ WentOpen w id := by
  obtain ⟨lived, answering⟩ : Stage.Lived (⟨κ, w⟩ : Stage E (host E)) ∧
      Stage.Answering (⟨κ, w⟩ : Stage E (host E)) :=
    @Turn.preserves E (host E) _ _ (fun _ => True) (fun s => s.Lived ∧ s.Answering)
      (fun _ _ _ => trivial) (fun _ _ turn _ => And.imp turn.lived turn.answering) turns trivial
      ⟨begin_lived engine, begin_answering E engine⟩
  by_cases left : w.registry.ownedBy id = []
  · exact .inl left
  · obtain ⟨y, d, more, transcript, advances, database, armed, told⟩ :=
      (lived.chronicled.follows id lost.1).remnant answering.owned lost.2 left
    rw [List.append_nil] at transcript
    refine .inr ⟨y, d, transcript ▸ advances, database, told, fun fresh code hcode => ?_⟩
    have abiding : Stage.Abiding (⟨κ, w⟩ : Stage E (host E)) :=
      Turn.preserves (fun _ _ => Throughout.before) (fun _ _ => Turn.abiding) turns fresh
        (begin_abiding E engine)
    exact abiding.tracked.unspoiled.refuses armed hcode

/-- A connection that is let go leaves nothing in the registry if the engine agrees to close it,
and the connections that its closures own are let go in turn; if the engine refuses, all its
closures stay.  So of all connections that are gone, between operations and at the end of a
session, only those have closures in the registry that were open when they went, having been told
to be closed; if the engine hands out no object twice, it has refused.  These closures stay for
good: no operation touches them, and the number of the connection is not used again. -/
theorem refused_connections_leave_closures :
    (∀ (w : World E H) (x : Connection), x.state ≠ .opened → x.drop.run w = ((), w)) ∧
    (∀ (w : World E H) (x : Connection) d, x.database = .ok d →
      (w.answer (.closeV2 d) = (0 : Int32) →
        ∃ v, ((w.registry.belongings x.id).forM Connection.drop).run (w.letGo x d) = ((), v) ∧
          x.drop.run w = ((), v.record (.reported (.closed x.id (w.registry.count x.id)))) ∧
          v.registry.ownedBy x.id = []) ∧
      (w.answer (.closeV2 d) ≠ (0 : Int32) →
        ∃ v, x.drop.run w = ((), v) ∧ v.registry = w.registry ∧ v.target = w.target)) ∧
    (∀ (w : World E (host E)) id, Reachable w → w.HandedOut id → (∀ x, Has w x → x.id ≠ id) →
      w.registry.ownedBy id = [] ∨ WentOpen w id) ∧
    (∀ depth (engine : E.State) steps (w : World E (host E)) id,
      ((session depth steps).run (begin E engine)).2 = w → w.HandedOut id →
      (∀ x ∈ w.registry.captured, x.id ≠ id) → w.registry.ownedBy id = [] ∨ WentOpen w id) ∧
    ∀ (w v : World E (host E)) id, Reachable w → Continues w v → w.HandedOut id →
      (∀ x, Has w x → x.id ≠ id) →
      (∀ x, Has v x → x.id ≠ id) ∧ v.registry.ownedBy id = w.registry.ownedBy id := by
  refine ⟨fun w x => Connection.drop_of_not_opened, ?_, ?_, ?_, ?_⟩
  · intro w x d database
    refine ⟨Connection.drop_of_agreed database, fun refused => ?_⟩
    exact ⟨_, Connection.drop_of_refused database refused, rfl, rfl⟩
  · intro w id reachable handedOut gone
    obtain ⟨-, engine, turns⟩ := reachable.turns
    exact ownedBy_eq_nil_or_wentOpen turns ⟨handedOut.2, fun x hx => gone x (has_of_held hx)⟩
  · rintro depth engine steps w id rfl handedOut gone
    refine ownedBy_eq_nil_or_wentOpen (session_turns depth engine steps) ⟨handedOut.2, ?_⟩
    intro x hx
    have captured : x ∈ 0 + 0 +
        (((session depth steps).run (begin E engine)).2).registry.captured := hx
    rw [add_zero, zero_add] at captured
    exact gone x captured
  · intro w v id reachable continues handedOut gone
    obtain ⟨guarded, -⟩ := reachable.turns
    obtain ⟨-, turns⟩ := continues.turns guarded
    obtain ⟨lost, kept⟩ := Turn.lost turns ⟨handedOut.2, fun x hx => gone x (has_of_held hx)⟩
    exact ⟨fun x has => lost.2 x has.held, kept⟩

/-- An engine that refuses once to close a connection. -/
def clingingEngine : Scripted.State :=
  { script := ⟨[(.closeV2, .number 5)]⟩ }

/-- Two connections, each with a busy handler, are let go one after the other. -/
def partingSteps : List (Step Scripted.engine.Stimulus) :=
  [({ connection := some "a" }, .connect ":memory:" {}),
   ({ connection := some "a" }, .registerBusyHandler (.whileBelow 5)),
   ({ connection := some "b" }, .connect ":memory:" {}),
   ({ connection := some "b" }, .registerBusyHandler (.whileBelow 5)),
   ({ connection := some "a" }, .dropConnection),
   ({ connection := some "b" }, .dropConnection)]

/-- The world after these steps. -/
def clingingWorld : World Scripted.engine (host Scripted.engine) :=
  ((partingSteps.mapM (next 1)).run (begin Scripted.engine clingingEngine)).2

/-- The connection that the engine has refused to close has left its busy handler, for good, and
the other one has left nothing. -/
theorem refused_connection_leaves_handler :
    clingingWorld.registry.count ⟨1⟩ = 1 ∧ WentOpen clingingWorld ⟨1⟩ ∧
      clingingWorld.registry.count ⟨2⟩ = 0 ∧
      ∀ v, Continues clingingWorld v →
        v.registry.ownedBy ⟨1⟩ = clingingWorld.registry.ownedBy ⟨1⟩ := by
  have reachable : Reachable clingingWorld := (Reachable.begin _).steps 1 _
  have handedOut : clingingWorld.HandedOut ⟨1⟩ := by
    constructor <;> decide +kernel
  have slots : clingingWorld.host.connections.entries = [] := by decide +kernel
  have captured : clingingWorld.registry.captured = 0 := by decide +kernel
  have gone : ∀ x, Has clingingWorld x → x.id ≠ ⟨1⟩ := by
    rintro x (⟨slot, found⟩ | owned)
    · have mem := Slots.mem_entries_iff.mpr found
      rw [slots] at mem
      cases mem
    · rw [captured] at owned
      exact absurd owned (Multiset.notMem_zero x)
  have one : clingingWorld.registry.count ⟨1⟩ = 1 := by decide +kernel
  obtain ⟨-, -, between, -, later⟩ :=
    refused_connections_leave_closures (E := Scripted.engine) (H := host Scripted.engine)
  refine ⟨one, ?_, by decide +kernel, fun v continues => ?_⟩
  · refine (between clingingWorld ⟨1⟩ reachable handedOut gone).resolve_left fun none => ?_
    rw [Registry.count, none] at one
    cases one
  · exact (later clingingWorld v ⟨1⟩ reachable continues handedOut gone).2

end Session

end EngineBridge
