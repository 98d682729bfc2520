import EngineBridge.Proofs.Session.Invariants

/-!
# Worlds between operations

A program can start an operation between two steps, and also within a callback, while the
engine is on its way to an answer.  `Reachable` are the worlds in which it can, for any
order of operations: those before a session, those after any step on a world that is
reachable, and those in which the engine has called back during such a step and the closure
starts to run.
-/

set_option autoImplicit false

namespace EngineBridge

open Native Relation

variable {E : Engine} {H : Host}

/-- On the way to an answer the engine calls back, and a closure starts to run in the
world `v`. -/
inductive Upcall.Enters (cb : Callbacks E H) {α : Type} :
    Reply E.State α → World E H → World E H → Prop
  | busy {userData : Nat} {attempts : Int32} {state : E.State}
      {resume : Int32 → E.State → Reply E.State α} {handler : Closure H.Handler} {count : UInt32}
      {w v : World E H} (accepted : (Upcall.acceptBusy userData attempts).run
        { w with engine := state } = (some (handler, count), v)) :
      Enters cb (.busy userData attempts state resume) w v
  | afterBusy {userData : Nat} {attempts : Int32} {state : E.State}
      {resume : Int32 → E.State → Reply E.State α} {code : Int32} {w w' v : World E H}
      (answered : (Upcall.busy cb userData attempts).run { w with engine := state } = (code, w'))
      (enters : Enters cb (resume code w'.engine) w' v) :
      Enters cb (.busy userData attempts state resume) w v
  | function {context : Context} {count : Int32} {arguments : Option (List Argument)}
      {state : E.State} {resume : E.State → Reply E.State α} {f : Closure H.Function}
      {values : List Value} {w v : World E H}
      (accepted : (Upcall.accept context count arguments).run { w with engine := state } =
        (.ok (f, values), v)) :
      Enters cb (.function context count arguments state resume) w v
  | afterFunction {context : Context} {count : Int32} {arguments : Option (List Argument)}
      {state : E.State} {resume : E.State → Reply E.State α} {w w' v : World E H}
      (answered : (Upcall.function cb context count arguments).run { w with engine := state } =
        ((), w'))
      (enters : Enters cb (resume w'.engine) w' v) :
      Enters cb (.function context count arguments state resume) w v

namespace Session

/-- A closure starts to run in the world `v` while the engine runs a program. -/
def Starts (cb : Callbacks E (host E)) (execution : Execution) (w v : World E (host E)) : Prop :=
  ∃ reply w', (Upcall.start execution).run w = (reply, w') ∧ Upcall.Enters cb reply w' v

/-- The world while calls on a connection are in progress. -/
def engaging (w : World E (host E)) (id : ConnectionId) : World E (host E) :=
  { w with host := { w.host with engaged := id :: w.host.engaged } }

/-- The world while the statement in a slot takes a step. -/
def stepping (w : World E (host E)) (slot : String) : World E (host E) :=
  { w with host := { w.host with stepping := slot :: w.host.stepping } }

/-- A closure starts to run in the world `v` while a step of a session is performed in the
world `w`. -/
inductive Interrupts (cb : Callbacks E (host E)) (t : Target) :
    Action E.Stimulus → World E (host E) → World E (host E) → Prop
  | executeBatch {sql : String} {conn : Connection} {d : Database} {text : CString}
      {w v : World E (host E)} (found : w.host.connections.get? t.connectionSlot = some conn)
      (database : conn.database = .ok d) (named : CString.ofText sql = .ok text)
      (starts : Starts cb (.exec d text) (engaging w conn.id) v) :
      Interrupts cb t (.executeBatch sql) w v
  | step {stmt : Statement} {p : Program} {w v : World E (host E)}
      (found : w.host.statements.get? t.statementSlot = some stmt)
      (unused : t.statementSlot ∉ w.host.stepping) (handle : stmt.handle = some p)
      (starts : Starts cb (.step p)
        (engaging (stepping w t.statementSlot) stmt.connection) v) :
      Interrupts cb t .step w v
  | stimulate {stimulus : E.Stimulus} {w v : World E (host E)}
      (enters : Upcall.Enters cb (E.stimulate w.engine stimulus) w v) :
      Interrupts cb t (.stimulate stimulus) w v

/-- The worlds in which a session can perform a step, callbacks included. -/
inductive Reachable : World E (host E) → Prop
  | begin (engine : E.State) : Reachable (begin E engine)
  | perform {w : World E (host E)} (depth : Nat) (step : Step E.Stimulus) (h : Reachable w) :
      Reachable ((perform depth step).run w).2
  /-- The reports of steps that callbacks run are kept. -/
  | nested {w : World E (host E)} (reports : List (Report E.Response)) (h : Reachable w) :
      Reachable { w with host := { w.host with nested := reports } }
  | interrupt {w v : World E (host E)} (depth : Nat) (t : Target) (action : Action E.Stimulus)
      (h : Reachable w) (interrupts : Interrupts (callbacks (perform depth)) t action w v) :
      Reachable v

/-- The worlds in which a session can perform a step after a world in which it could. -/
inductive Continues (w : World E (host E)) : World E (host E) → Prop
  | refl : Continues w w
  | perform {v : World E (host E)} (depth : Nat) (step : Step E.Stimulus) (h : Continues w v) :
      Continues w ((perform depth step).run v).2
  | nested {v : World E (host E)} (reports : List (Report E.Response)) (h : Continues w v) :
      Continues w { v with host := { v.host with nested := reports } }
  | interrupt {v u : World E (host E)} (depth : Nat) (t : Target) (action : Action E.Stimulus)
      (h : Continues w v) (interrupts : Interrupts (callbacks (perform depth)) t action v u) :
      Continues w u

variable {w v : World E (host E)}

/-- The next step of a session leads from a world that is reachable to another one. -/
theorem Reachable.next (h : Reachable w) (depth : Nat) (step : Step E.Stimulus) :
    Reachable ((Session.next depth step).run w).2 :=
  (h.nested []).perform depth step

/-- All steps of a session lead to worlds that are reachable. -/
theorem Reachable.steps (h : Reachable w) (depth : Nat) (steps : List (Step E.Stimulus)) :
    Reachable ((steps.mapM (Session.next depth)).run w).2 := by
  induction steps generalizing w with
  | nil => exact h
  | cons step rest ih =>
    rw [List.mapM_cons]
    exact ih (h.next depth step)

/-- Turns lead from a situation between operations to another one. -/
def Arrives (w v : World E (host E)) : Prop :=
  ReflTransGen Turn ⟨w.host.custody 0, w⟩ ⟨v.host.custody 0, v⟩ ∧ w.host.Spares v.host

/-- Who arrives somewhere on the way arrives at the end. -/
theorem Arrives.trans {u : World E (host E)} (h : Arrives u w) (h' : Arrives w v) : Arrives u v :=
  ⟨h.1.trans h'.1, h.2.trans h'.2⟩

/-- A tame computation arrives where it ends. -/
theorem Tame.arrives {α : Type} {m : SessionM E α} {a : α} (h : Tame m)
    (run : m.run w = (a, v)) (guarded : w.host.Guarded) : Arrives w v := by
  obtain ⟨κ', turns, rests⟩ := h w guarded
  obtain rfl : (m w).2 = v := congrArg Prod.snd run
  obtain ⟨rfl, spares⟩ := rests
  exact ⟨turns, spares⟩

/-- The session rests whenever a closure starts to run. -/
theorem arrives_of_enters {cb : Callbacks E (host E)} (tame : TameCallbacks cb) {α : Type}
    {reply : Reply E.State α} (enters : Upcall.Enters cb reply w v) (guarded : w.host.Guarded) :
    Arrives w v := by
  have resumed {w : World E (host E)} (state : E.State) (guarded : w.host.Guarded) :
      Arrives w { w with engine := state } := (tame_setEngine state).arrives rfl guarded
  induction enters with
  | busy accepted =>
    exact (resumed _ guarded).trans ((tame_acceptBusy _ _).arrives accepted guarded)
  | afterBusy answered _ ih =>
    have arrives := (resumed _ guarded).trans ((tame_busy tame _ _).arrives answered guarded)
    exact arrives.trans (ih (arrives.2.guarded guarded))
  | function accepted =>
    exact (resumed _ guarded).trans
      (Tame.arrives (Tame.of_leads (Upcall.asks_accept _ _ _).leads_anywhere) accepted guarded)
  | afterFunction answered _ ih =>
    have arrives := (resumed _ guarded).trans ((tame_function tame _ _ _).arrives answered guarded)
    exact arrives.trans (ih (arrives.2.guarded guarded))

/-- The session rests when the engine starts to run a program. -/
theorem arrives_of_start {execution : Execution} {reply : Reply E.State Int32}
    (started : (Upcall.start execution).run w = (reply, v))
    (reach : ∀ o ∈ execution.operands, Stage.Reaches ⟨w.host.custody 0, w⟩ o) : Arrives w v := by
  obtain ⟨κ', turns, rfl, hhost⟩ := (leads_start reach).turn
  obtain rfl : (Upcall.start execution w).2 = v := congrArg Prod.snd started
  refine ⟨?_, hhost ▸ .refl _⟩
  rw [hhost]
  exact turns

/-- The session rests whenever a closure starts to run while the engine runs a program. -/
theorem arrives_of_starts {cb : Callbacks E (host E)} (tame : TameCallbacks cb)
    {execution : Execution} (starts : Starts cb execution w v) (guarded : w.host.Guarded)
    (reach : ∀ o ∈ execution.operands, Stage.Reaches ⟨w.host.custody 0, w⟩ o) : Arrives w v := by
  obtain ⟨reply, w', started, enters⟩ := starts
  have arrives := arrives_of_start started reach
  exact arrives.trans (arrives_of_enters tame enters (arrives.2.guarded guarded))

/-- The session rests whenever a closure starts to run during a step. -/
theorem Interrupts.turns {cb : Callbacks E (host E)} (tame : TameCallbacks cb) {t : Target}
    {action : Action E.Stimulus} (interrupts : Interrupts cb t action w v)
    (guarded : w.host.Guarded) :
    ReflTransGen Turn ⟨w.host.custody 0, w⟩ ⟨v.host.custody 0, v⟩ ∧ v.host.Guarded := by
  cases interrupts with
  | @executeBatch sql conn d text w v found database named starts =>
    have guarded' : (engaging w conn.id).host.Guarded := guarded.engage conn.id
    have reach : Stage.Reaches ⟨w.host.custody 0, engaging w conn.id⟩ (.database d) :=
      Custody.reaches_shared (Slots.mem_values_iff.mpr ⟨_, found⟩)
        (Connection.handle_of_database database)
    have arrives := arrives_of_starts tame starts guarded'
      (Stage.reaches_all reach rfl)
    exact ⟨.head (.host _) arrives.1, arrives.2.guarded guarded'⟩
  | @step stmt p w v found unused handle starts =>
    have guarded' : (engaging (stepping w t.statementSlot) stmt.connection).host.Guarded :=
      guarded.advance found
    have reach : Stage.Reaches ⟨w.host.custody 0, engaging (stepping w t.statementSlot)
        stmt.connection⟩ (.program p) :=
      ⟨stmt, Slots.mem_values_iff.mpr ⟨_, found⟩, handle⟩
    have arrives := arrives_of_starts tame starts guarded' (Stage.reaches_all reach rfl)
    exact ⟨.head (.host _) arrives.1, arrives.2.guarded guarded'⟩
  | stimulate enters =>
    have arrives := arrives_of_enters tame enters guarded
    exact ⟨arrives.1, arrives.2.guarded guarded⟩

/-- Turns lead from a situation between operations to all those that come after it. -/
theorem Continues.turns (h : Continues w v) (guarded : w.host.Guarded) :
    v.host.Guarded ∧ ReflTransGen Turn ⟨w.host.custody 0, w⟩ ⟨v.host.custody 0, v⟩ := by
  induction h with
  | refl => exact ⟨guarded, .refl⟩
  | @perform u depth step _ ih =>
    obtain ⟨guarded, turns⟩ := ih
    have arrives : Arrives u ((Session.perform depth step).run u).2 :=
      (tame_perform depth step).arrives rfl guarded
    exact ⟨arrives.2.guarded guarded, turns.trans arrives.1⟩
  | nested reports _ ih =>
    obtain ⟨guarded, turns⟩ := ih
    exact ⟨guarded, turns.tail (.host _)⟩
  | interrupt depth t action _ interrupts ih =>
    obtain ⟨guarded, turns⟩ := ih
    obtain ⟨more, guarded'⟩ :=
      interrupts.turns (tame_callbacks (tame_perform depth)) guarded
    exact ⟨guarded', turns.trans more⟩

/-- A world is reachable if it comes after the beginning of a session. -/
theorem Reachable.continues (h : Reachable w) :
    ∃ engine, Continues (Session.begin E engine) w := by
  induction h with
  | begin engine => exact ⟨engine, .refl⟩
  | perform depth step _ ih =>
    obtain ⟨engine, h⟩ := ih
    exact ⟨engine, h.perform depth step⟩
  | nested reports _ ih =>
    obtain ⟨engine, h⟩ := ih
    exact ⟨engine, h.nested reports⟩
  | interrupt depth t action _ interrupts ih =>
    obtain ⟨engine, h⟩ := ih
    exact ⟨engine, h.interrupt depth t action interrupts⟩

/-- Turns lead from the beginning of a session to every world that is reachable. -/
theorem Reachable.turns (h : Reachable w) :
    w.host.Guarded ∧ ∃ engine, ReflTransGen Turn ⟨{}, Session.begin E engine⟩
      ⟨w.host.custody 0, w⟩ := by
  obtain ⟨engine, continues⟩ := h.continues
  obtain ⟨guarded, turns⟩ := continues.turns nofun
  exact ⟨guarded, engine, turns⟩

/-- What turns keep holds in every world that is reachable. -/
theorem Reachable.preserves (h : Reachable w) (assumed : List Entry → Prop)
    {kept : Stage E (host E) → Prop} (earlier : ∀ entry log, assumed (entry :: log) → assumed log)
    (turn : ∀ s s', Turn s s' → assumed s'.world.transcript → kept s → kept s')
    (begun : ∀ engine, kept ⟨{}, Session.begin E engine⟩) (assumption : assumed w.transcript) :
    kept ⟨w.host.custody 0, w⟩ := by
  obtain ⟨-, engine, turns⟩ := h.turns
  exact Turn.preserves earlier turn turns assumption (begun engine)

/-- A connection that a session has: one in a slot, or one that a closure owns. -/
def Has (w : World E (host E)) (x : Connection) : Prop :=
  (∃ slot, w.host.connections.get? slot = some x) ∨ x ∈ w.registry.captured

/-- A session holds the connections that it has. -/
theorem Has.held {x : Connection} (h : Has w x) :
    x ∈ Stage.held (⟨w.host.custody 0, w⟩ : Stage E (host E)) := by
  rcases h with ⟨slot, found⟩ | captured
  · exact Stage.mem_held_of_shared (s := ⟨w.host.custody 0, w⟩)
      (Slots.mem_values_iff.mpr ⟨slot, found⟩)
  · exact Multiset.mem_add.mpr (.inr captured)

/-- A session holds no other connections than it has. -/
theorem has_of_held {w : World E (host E)} {x : Connection}
    (h : x ∈ Stage.held (⟨w.host.custody 0, w⟩ : Stage E (host E))) : Has w x := by
  have hand : x ∈ w.host.connections.values + 0 + w.registry.captured := h
  rw [add_zero, Multiset.mem_add] at hand
  exact hand.imp_left Slots.mem_values_iff.mp

end Session

end EngineBridge
