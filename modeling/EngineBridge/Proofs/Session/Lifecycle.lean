import EngineBridge.Proofs.Custody.Lifecycle
import EngineBridge.Proofs.Session.Reaching
import EngineBridge.Scripted.Engine

/-!
# The lives of the connections of a session

Between operations, those of callbacks included, a connection that a session has is open
exactly if it has an object, which is what interrupts of it go to.  It is opened at most once
and closed at most once, nothing else happens to it, and a failure to do either changes
nothing.
-/

set_option autoImplicit false

namespace EngineBridge

open Native Relation

variable {E : Engine} {H : Host}

/-- Connections are as they should be, and all that happened to them is known. -/
structure Stage.Lived (s : Stage E H) : Prop where
  coherent : s.Coherent
  chronicled : s.Chronicled

/-- Turns keep what is known of connections. -/
theorem Turn.lived {s s' : Stage E H} (turn : Turn s s') (h : s.Lived) : s'.Lived := by
  obtain ⟨coherent, chronicled⟩ := h
  cases turn with
  | move move => exact ⟨move.shifts.coherent coherent, move.chronicled coherent chronicled⟩
  | host =>
    obtain ⟨distinct, counted, armed, opened, target⟩ := coherent
    obtain ⟨follows, silent⟩ := chronicled
    exact ⟨⟨distinct, counted, armed, opened, target⟩, ⟨follows, silent⟩⟩

/-- Turns do not lose sight of a connection. -/
theorem Turn.follows {s s' : Stage E H} {x : Connection} {base : List Entry}
    (turns : ReflTransGen Turn s s') (lived : s.Lived)
    (known : x.id.number ≤ s.world.connections) (h : s.Follows x base) :
    s'.Lived ∧ s'.Follows x base := by
  have all : s'.Lived ∧ x.id.number ≤ s'.world.connections ∧ s'.Follows x base := by
    induction turns with
    | refl => exact ⟨lived, known, h⟩
    | tail _ turn ih =>
      obtain ⟨lived, known, h⟩ := ih
      refine ⟨turn.lived lived, ?_⟩
      cases turn with
      | move move =>
        exact ⟨known.trans move.connections_le, move.follows lived.coherent known h⟩
      | host => exact ⟨known, h⟩
  exact ⟨all.1, all.2.2⟩

namespace Session

variable {w : World E (host E)} {x : Connection}

/-- Before a session no connection has been opened. -/
theorem begin_lived (engine : E.State) : Stage.Lived ⟨{}, begin E engine⟩ := by
  refine ⟨begin_coherent E engine, fun id _ => ?_, fun _ _ _ => List.not_mem_nil⟩
  refine ⟨_, [], rfl, .start, rfl, by simp, .inr ⟨?_, by simp [Connection.database]⟩⟩
  intro z hz
  exact absurd hz (Multiset.notMem_zero z)

/-- Between operations, what happened to connections is known. -/
theorem Reachable.lived (reachable : Reachable w) :
    Stage.Lived (⟨w.host.custody 0, w⟩ : Stage E (host E)) :=
  reachable.preserves (fun _ => True) (fun _ _ _ => trivial) (fun _ _ turn _ => turn.lived)
    begin_lived trivial

/-- A connection is what a session has of it, or it is what there was of it when it went out of
use; if it was open then, it had been told to be closed. -/
def Last (w : World E (host E)) (y : Connection) : Prop :=
  (∀ z, Has w z → z.id = y.id → z = y) ∧
    (Has w y ∨
      (∀ z, Has w z → z.id ≠ y.id) ∧ ∀ d, y.database = .ok d → ToldToClose d w.transcript)

/-- A connection that has been followed is what a session has of it, or had. -/
theorem exists_last_of_follows {base : List Entry}
    (coherent : Stage.Coherent (⟨w.host.custody 0, w⟩ : Stage E (host E)))
    (h : Stage.Follows x base (⟨w.host.custody 0, w⟩ : Stage E (host E))) :
    ∃ y more, w.transcript = more ++ base ∧ x.Advances y more ∧ w.target x.id = y.handle ∧
      (y.state = .opened ↔ y.handle.isSome) ∧ Last w y := by
  obtain ⟨y, more, transcript, advances, target, live, there⟩ := h
  refine ⟨y, more, transcript, advances, target, live, ?_⟩
  rcases there with hy | ⟨gone, told⟩
  · exact ⟨fun z hz same => coherent.eq_of_id hz.held hy same, .inl (has_of_held hy)⟩
  · have gone' : ∀ z, Has w z → z.id ≠ y.id := fun z hz same =>
      gone z hz.held (same.trans advances.id_eq)
    exact ⟨fun z hz same => absurd same (gone' z hz), .inr ⟨gone', told⟩⟩

/-- Between operations a connection that a session has is open exactly if it has an object and
exactly if interrupts of it go somewhere, namely to that object, and it has been opened once, to
its path, unless it is still unopened.  From then on it can only be opened and closed.  Failures
to open or to close a connection change nothing.  Interrupts of a connection, whether it is still
there or not, go to its object if there is one, and otherwise nothing is called. -/
theorem connection_lifecycle (reachable : Reachable w) :
    (∀ x, Has w x → (x.state = .opened ↔ x.handle.isSome) ∧
      (x.handle.isSome ↔ (w.target x.id).isSome) ∧ w.target x.id = x.handle ∧
      (x.state = .unopened → x.path = "") ∧
      openings x.id w.transcript = if x.state = .unopened then [] else [x.path]) ∧
    (∀ v x, Continues w v → Has w x → ∃ y more, v.transcript = more ++ w.transcript ∧
      x.Advances y more ∧ v.target x.id = y.handle ∧ Last v y) ∧
    (∀ (x after : Connection) e w', x.close.run w = ((.error e, after), w') →
      after = x ∧ w'.target = w.target ∧ w'.registry = w.registry) ∧
    (∀ (x after : Connection) path options e w',
      (x.openWith path options).run w = ((.error e, after), w') →
      after = x ∧ w'.target = w.target ∧ w'.registry = w.registry) ∧
    ∀ id : ConnectionId, id.number ≤ w.connections → ∃ y : Connection, y.id = id ∧
      Connection.Advances { id } y w.transcript ∧ (y.state = .opened ↔ y.handle.isSome) ∧
      Last w y ∧ (Connection.interrupt id).run w = ((), w.interrupted y.handle) := by
  obtain ⟨coherent, chronicled⟩ := reachable.lived
  -- every number has a chronicle from the start, and who is in hand is the last form in it
  have story (id : ConnectionId) (known : id.number ≤ w.connections) :
      ∃ y : Connection, y.id = id ∧ Connection.Advances { id } y w.transcript ∧
        w.target id = y.handle ∧ (y.state = .opened ↔ y.handle.isSome) ∧ Last w y := by
    obtain ⟨y, more, transcript, advances, rest⟩ :=
      exists_last_of_follows coherent (chronicled.follows id known)
    rw [List.append_nil] at transcript
    exact ⟨y, advances.id_eq, transcript ▸ advances, rest⟩
  refine ⟨?_, ?_, ?_, ?_, ?_⟩
  · intro x has
    obtain ⟨y, same, advances, target, live, last⟩ := story x.id (coherent.counted x has.held)
    obtain rfl := last.1 x has same.symm
    refine ⟨live, by rw [target], target, ?_⟩
    rcases advances.cases_state with ⟨heq, none⟩ | ⟨-, begun, paths⟩ | ⟨⟨d, database, -⟩, -⟩
    · rw [heq]
      exact ⟨fun _ => rfl, none⟩
    · exact ⟨fun unopened => absurd unopened begun, by rw [if_neg begun]; exact paths⟩
    · cases database
  · intro v x continues has
    obtain ⟨guarded, -⟩ := reachable.turns
    obtain ⟨-, turns⟩ := continues.turns guarded
    have begun : Stage.Follows x w.transcript (⟨w.host.custody 0, w⟩ : Stage E (host E)) :=
      ⟨x, [], rfl, .start, coherent.target x has.held, coherent.opened x has.held, .inl has.held⟩
    obtain ⟨lived, follows⟩ :=
      Turn.follows turns ⟨coherent, chronicled⟩ (coherent.counted x has.held) begun
    obtain ⟨y, more, transcript, advances, target, -, last⟩ :=
      exists_last_of_follows lived.coherent follows
    exact ⟨y, more, transcript, advances, target, last⟩
  · exact fun x after e w' => Connection.closeWith_error
  · exact fun x after path options e w' => Connection.openWith_error
  · intro id known
    obtain ⟨y, same, advances, target, live, last⟩ := story id known
    have interrupted := Connection.interrupt_run id w
    exact ⟨y, same, advances, live, last, target ▸ interrupted⟩

/-- An engine that fails to open a database at first, and refuses to close one. -/
def stubbornEngine : Scripted.State :=
  { script := ⟨[(.openV2, .number 14), (.closeV2, .number 0), (.closeV2, .number 5)]⟩ }

/-- The world after a session that opens a connection at the second attempt and cannot close
it. -/
def stubbornWorld : World Scripted.engine (host Scripted.engine) :=
  let steps : List (Step Scripted.engine.Stimulus) :=
    [({ connection := some "a" }, .create),
     ({ connection := some "a" }, .keepInterruptHandle "i"),
     ({ connection := some "a" }, .openWith "x" {}),
     ({ connection := some "a" }, .openWith "y" {}),
     ({ connection := some "a" }, .close)]
  ((steps.mapM (next 1)).run (begin Scripted.engine stubbornEngine)).2

/-- The connection is open to where it was opened at last, and the interrupt handle, which is
older, interrupts it. -/
theorem stubborn_connection_stays_open :
    let x : Connection := ⟨⟨1⟩, .opened, some ⟨2⟩, "y"⟩
    Has stubbornWorld x ∧ stubbornWorld.target x.id = x.handle ∧
      openings x.id stubbornWorld.transcript = ["y"] ∧
      ∀ id, stubbornWorld.host.interrupts.get? "i" = some id →
        (Connection.interrupt id).run stubbornWorld =
          ((), stubbornWorld.called (.interrupt ⟨2⟩)) := by
  intro x
  have reachable : Reachable stubbornWorld := (Reachable.begin _).steps 1 _
  have found : stubbornWorld.host.connections.get? "a" = some x := by decide +kernel
  have has : Has stubbornWorld x := .inl ⟨"a", found⟩
  have kept : stubbornWorld.host.interrupts.get? "i" = some x.id := by decide +kernel
  have known : x.id.number ≤ stubbornWorld.connections := by decide +kernel
  obtain ⟨always, -, -, -, interrupts⟩ := connection_lifecycle reachable
  obtain ⟨-, -, target, -, paths⟩ := always x has
  refine ⟨has, target, paths, ?_⟩
  intro id hid
  obtain rfl := Option.some.inj (kept.symm.trans hid)
  obtain ⟨y, same, -, -, last, interrupted⟩ := interrupts x.id known
  obtain rfl := last.1 x has same.symm
  exact interrupted

end Session

end EngineBridge
