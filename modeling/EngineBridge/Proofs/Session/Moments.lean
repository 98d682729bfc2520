import EngineBridge.Proofs.Custody.Provenance
import EngineBridge.Proofs.Operations.Parting
import EngineBridge.Proofs.Session.Lifecycle
import EngineBridge.Proofs.Session.Reentry

/-!
# Moments of a session

Code of the program runs between operations, within callbacks, and while closures part; and the
engine can call back while it runs a program or acts of its own accord.  A `Moment` is a world in
which one of these things happens.

Turns lead from the beginning of a session to all its moments.  While a connection is being closed,
its slot still shows what it was before; the others are as their slots say.
-/

set_option autoImplicit false

namespace EngineBridge

open Native Relation

/-- What is known of connections, and of the closures in the registry. -/
structure Stage.Kept {E : Engine} {H : Host} (s : Stage E H) : Prop where
  lived : s.Lived
  numbered : s.Numbered
  owned : s.Owned
  vouched : s.Vouched

/-- Turns keep what is known of connections and of the closures in the registry. -/
theorem Turn.kept {E : Engine} {H : Host} {s s' : Stage E H} (turn : Turn s s') (h : s.Kept) :
    s'.Kept := by
  obtain ⟨lived, numbered, owned, vouched⟩ := h
  have lived' := turn.lived lived
  cases turn with
  | move move =>
    exact ⟨lived', move.shifts.numbered numbered, move.owned lived.coherent owned,
      move.vouched vouched⟩
  | host =>
    obtain ⟨numbers, armed⟩ := numbered
    exact ⟨lived', ⟨numbers, armed⟩, owned, vouched⟩

/-- What is kept by a turn is kept by any number of them. -/
theorem Turn.kept_of_turns {E : Engine} {H : Host} {s s' : Stage E H}
    (turns : ReflTransGen Turn s s') (h : s.Kept) : s'.Kept := by
  induction turns with
  | refl => exact h
  | tail _ last ih => exact last.kept ih

namespace Session

variable {E : Engine} {w w₁ v : World E (host E)} {closing : List Connection}
variable {action : Action E.Stimulus} {t : Target}

/-! ## Where closures part during a step -/

/-- The world with the slot of a connection emptied. -/
def emptied (w : World E (host E)) (slot : String) : World E (host E) :=
  { w with host := w.host.without slot }

/-- A step lets the connection in its slot go, before it does anything else. -/
def Vacates : Action E.Stimulus → Prop
  | .create | .connect .. | .dropConnection => True
  | _ => False

/-- A step has come, from the world `w`, as far as an operation that changes the callbacks of the
connection in its slot; this is to be carried out in the world `w₁`. -/
inductive Prepares : Action E.Stimulus → World E (host E) → Connection.Operation (host E) →
    World E (host E) → Prop
  | busyTimeout {ms : UInt32} {w : World E (host E)} :
    Prepares (.busyTimeout ms) w (.busyTimeout ms) w
  | clearBusyHandler {w : World E (host E)} : Prepares .clearBusyHandler w .clearBusyHandler w
  | removeFunction {name : String} {arity : Int32} {w : World E (host E)} :
    Prepares (.removeFunction name arity) w (.removeFunction name arity) w
  | registerBusyHandler {body : HandlerBody E.Stimulus}
      {handler : Closure (HandlerBody E.Stimulus)} {w w₁ : World E (host E)}
      (made : (Attempt.handler body).run.run w = (.ok handler, w₁)) :
    Prepares (.registerBusyHandler body) w (.registerBusyHandler handler) w₁
  | registerFunction {name : String} {arity : Int32} {flags : FunctionFlags}
      {body : FunctionBody E.Stimulus} {function : Closure (FunctionBody E.Stimulus)}
      {w w₁ : World E (host E)}
      (made : (Attempt.function body).run.run w = (.ok function, w₁)) :
    Prepares (.registerFunction name arity flags body) w
      (.registerFunction name arity flags function) w₁

/-- While a step of a session is performed in the world `w`, code of a closure runs in the world
`v` that parts then, and the connections `closing` are being closed. -/
inductive Parting (t : Target) :
    Action E.Stimulus → World E (host E) → List Connection → World E (host E) → Prop
  | vacates {action : Action E.Stimulus} {conn : Connection} {closing : List Connection}
      {w w₁ v : World E (host E)} (vacates : Vacates action)
      (taken : (Attempt.exclusive t.connectionSlot).run.run w = (.ok conn, w₁))
      (parting : conn.Parting (emptied w₁ t.connectionSlot) closing v) : Parting t action w closing v
  | closes {conn : Connection} {closing : List Connection} {w w₁ v : World E (host E)}
      (taken : (Attempt.exclusive t.connectionSlot).run.run w = (.ok conn, w₁))
      (parting : conn.Parting w₁ closing v) : Parting t .close w closing v
  | changes {action : Action E.Stimulus} {op : Connection.Operation (host E)} {conn : Connection}
      {closing : List Connection} {w w₁ v : World E (host E)} (prepares : Prepares action w op w₁)
      (found : w₁.host.connections.get? t.connectionSlot = some conn)
      (parting : op.Parting conn w₁ closing v) : Parting t action w closing v
  /-- There is no connection in the slot of the step, and its closure parts. -/
  | unclaimed {action : Action E.Stimulus} {op : Connection.Operation (host E)}
      {closing : List Connection} {w w₁ v : World E (host E)} (prepares : Prepares action w op w₁)
      (absent : w₁.host.connections.get? t.connectionSlot = none)
      (parting : Bridge.Parting op.closure.toList w₁ closing v) : Parting t action w closing v

/-- Statements go, and then connections. -/
def dropAll (statements : List (String × Statement)) (connections : List (String × Connection)) :
    SessionM E Unit := do
  statements.forM fun (slot, stmt) => dropStatement slot stmt
  connections.forM fun (slot, conn) => dropConnection slot conn

/-- Code of the program runs in the world `v`, or the engine calls back there; the connections
`closing` are being closed meanwhile, the outer ones first. -/
inductive Moment : World E (host E) → List Connection → Prop
  /-- Between operations, and when a closure starts to run. -/
  | rests {v : World E (host E)} (reachable : Reachable v) : Moment v []
  | calls {α : Type} {w v : World E (host E)} {t : Target} {action : Action E.Stimulus}
      {pending : Reply E.State α} (depth : Nat) (reachable : Reachable w)
      (arises : Arises (callbacks (perform depth)) t action w pending v) : Moment v []
  | parts {w v : World E (host E)} {t : Target} {action : Action E.Stimulus}
      {closing : List Connection} (reachable : Reachable w)
      (parting : Parting t action w closing v) : Moment v closing
  /-- When the session has come to its end, the connections go that are still in slots. -/
  | finishes {w w₁ v : World E (host E)} {slot : String} {conn : Connection}
      {earlier later : List (String × Connection)} {closing : List Connection}
      (reachable : Reachable w) (idle : w.host.engaged = [])
      (entries : w.host.connections.entries = earlier ++ (slot, conn) :: later)
      (before : (dropAll w.host.statements.entries earlier).run w = ((), w₁))
      (parting : conn.Parting (emptied w₁ slot) closing v) : Moment v closing

/-! ## Moments and turns -/

/-- Turns lead to a world in which some connections are being closed.  These are in nobody else's
hands, and the other ones that are in slots may be used. -/
def Passes (w : World E (host E)) (closing : List Connection) (v : World E (host E)) : Prop :=
  ∃ κ : Custody, ReflTransGen Turn ⟨w.host.custody 0, w⟩ ⟨κ, v⟩ ∧ ↑closing ≤ κ.exclusive ∧
    ∀ slot x, v.host.connections.get? slot = some x →
      x ∈ κ.shared ∨ ∃ y ∈ closing, y.id = x.id

/-- Turns from rest to rest close no connection. -/
theorem Passes.of_rest
    (turns : ReflTransGen Turn ⟨w.host.custody 0, w⟩ ⟨v.host.custody 0, v⟩) : Passes w [] v :=
  ⟨_, turns, Multiset.zero_le _, fun _ _ found => .inl (Slots.mem_values_iff.mpr ⟨_, found⟩)⟩

/-- Turns may lead to where moves close some connections. -/
theorem Passes.of_moves {κ : Custody} {rest : Multiset Connection}
    (turns : ReflTransGen Turn ⟨w.host.custody 0, w⟩ ⟨κ, w₁⟩) (passes : κ.Passes w₁ rest closing v)
    (slots : ∀ slot x, w₁.host.connections.get? slot = some x →
      x ∈ κ.shared ∨ ∃ y ∈ closing, y.id = x.id) : Passes w closing v := by
  obtain ⟨κ', moves, shared, hands⟩ := passes
  have more : ReflTransGen Turn ⟨κ, w₁⟩ ⟨κ', v⟩ := ReflTransGen.mono (fun _ _ => .move) _ _ moves
  refine ⟨κ', turns.trans more, le_trans (Multiset.le_add_left _ _) hands, ?_⟩
  intro slot x found
  rw [Moves.host_eq moves] at found
  rw [shared]
  exact slots slot x found

/-- The connection in a slot that nobody else holds parts with its closures once the slot is
empty. -/
theorem Passes.of_alone {slot : String} {conn : Connection}
    (turns : ReflTransGen Turn ⟨w.host.custody 0, w⟩ ⟨w₁.host.custody 0, w₁⟩)
    (alone : Alone w₁.host slot conn) (parting : conn.Parting (emptied w₁ slot) closing v) :
    Passes w closing v := by
  have reserve := alone.reserve (x := 0)
  have empty : Turn ⟨(w₁.host.without slot).custody (conn ::ₘ 0), w₁⟩
      ⟨(w₁.host.without slot).custody (conn ::ₘ 0), emptied w₁ slot⟩ :=
    .host (w := w₁) (w₁.host.without slot)
  refine .of_moves ((turns.tail reserve).tail empty)
    (parting.passes (State.exclusive_custody _ _)) ?_
  exact fun other x found => .inl (Slots.mem_values_iff.mpr ⟨other, found⟩)

/-- The connection in a slot is taken for oneself, and nobody else holds it then. -/
theorem alone_of_taken {slot : String} {conn : Connection}
    (taken : (Attempt.exclusive slot).run.run w = (.ok conn, w₁)) (guarded : w.host.Guarded) :
    ReflTransGen Turn ⟨w.host.custody 0, w⟩ ⟨w₁.host.custody 0, w₁⟩ ∧
      Alone w₁.host slot conn := by
  obtain ⟨_, turns, ⟨rfl, -⟩, alone⟩ := (Attempt.leads_exclusive guarded).of_run taken
  exact ⟨turns, alone conn rfl⟩

/-- A step has in hand what the closure owns that it has made. -/
theorem Prepares.turns {op : Connection.Operation (host E)} (h : Prepares action w op w₁)
    (guarded : w.host.Guarded) : ReflTransGen Turn ⟨w.host.custody 0, w⟩
      ⟨w₁.host.custody (capturedBy op.closure.toList), w₁⟩ := by
  have made {r : Registration (host E)} :
      ((r.owned.toList : List Connection) : Multiset Connection) = capturedBy [r] :=
    (capturedBy_singleton r).symm
  cases h with
  | busyTimeout | clearBusyHandler | removeFunction => exact .refl
  | @registerBusyHandler body handler _ _ run =>
    obtain ⟨_, turns, -, rfl⟩ := (leads_handler body guarded).of_run run
    have owned := made (r := .busy handler)
    exact owned ▸ turns
  | @registerFunction _ _ _ body function _ _ run =>
    obtain ⟨_, turns, -, rfl⟩ := (leads_function body guarded).of_run run
    have owned := made (r := .function function)
    exact owned ▸ turns

/-- Turns lead to wherever code of a closure runs that parts during a step. -/
theorem Parting.passes (h : Parting t action w closing v) (guarded : w.host.Guarded) :
    Passes w closing v := by
  cases h with
  | vacates vacates taken parting =>
    obtain ⟨turns, alone⟩ := alone_of_taken taken guarded
    exact .of_alone turns alone parting
  | @closes conn closing w w₁ v taken parting =>
    obtain ⟨turns, alone⟩ := alone_of_taken taken guarded
    refine .of_moves (turns.tail (alone.reserve (x := 0)))
      (parting.passes (State.exclusive_custody _ _)) ?_
    -- the slot still shows the connection that is being closed
    intro slot x found
    by_cases same : slot = t.connectionSlot
    · subst same
      obtain rfl := Option.some.inj (alone.found.symm.trans found)
      obtain ⟨_, _, _⟩ := parting
      exact .inr ⟨_, List.mem_cons_self, rfl⟩
    · refine .inl (Slots.mem_values_iff.mpr ⟨slot, ?_⟩)
      rw [State.without, Slots.get?_erase_of_ne _ same]
      exact found
  | @changes _ op _ _ _ w₁ _ prepares found parting =>
    have owned : (w₁.host.custody (capturedBy op.closure.toList)).exclusive =
        capturedBy op.closure.toList + 0 := (add_zero _).symm
    refine .of_moves (prepares.turns guarded)
      (parting.passes (Slots.mem_values_iff.mpr ⟨_, found⟩) rfl owned) ?_
    exact fun slot x found => .inl (Slots.mem_values_iff.mpr ⟨slot, found⟩)
  | @unclaimed _ op _ _ w₁ _ prepares absent parting =>
    have owned : (w₁.host.custody (capturedBy op.closure.toList)).exclusive =
        capturedBy op.closure.toList + 0 := (add_zero _).symm
    refine .of_moves (prepares.turns guarded) (parting.passes owned) ?_
    exact fun slot x found => .inl (Slots.mem_values_iff.mpr ⟨slot, found⟩)

/-- The session rests whenever the engine calls back. -/
theorem arrives_of_arises {cb : Callbacks E (host E)} (tame : TameCallbacks cb) {α : Type}
    {reply pending : Reply E.State α} (arises : Upcall.Arises cb reply w pending v)
    (guarded : w.host.Guarded) : Arrives w v := by
  have resumed {w : World E (host E)} (state : E.State) (guarded : w.host.Guarded) :
      Arrives w { w with engine := state } := (tame_setEngine state).arrives rfl guarded
  induction arises with
  | here => exact resumed _ guarded
  | afterBusy answered _ ih =>
    have arrives := (resumed _ guarded).trans ((tame_busy tame _ _).arrives answered guarded)
    exact arrives.trans (ih (arrives.2.guarded guarded))
  | afterFunction answered _ ih =>
    have arrives := (resumed _ guarded).trans ((tame_function tame _ _ _).arrives answered guarded)
    exact arrives.trans (ih (arrives.2.guarded guarded))

/-- The session rests whenever the engine calls back during a step. -/
theorem Arises.turns {cb : Callbacks E (host E)} (tame : TameCallbacks cb) {α : Type}
    {pending : Reply E.State α} (arises : Arises cb t action w pending v)
    (guarded : w.host.Guarded) :
    ReflTransGen Turn ⟨w.host.custody 0, w⟩ ⟨v.host.custody 0, v⟩ := by
  -- the engine runs a program on an object in hand, or it acts of its own accord
  cases arises with
  | @executeBatch sql conn d text reply pending w w₁ v found database named started arises =>
    have guarded' : (engaging w conn.id).host.Guarded := guarded.engage conn.id
    have reach : Stage.Reaches ⟨w.host.custody 0, engaging w conn.id⟩ (.database d) :=
      Custody.reaches_shared (Slots.mem_values_iff.mpr ⟨_, found⟩)
        (Connection.handle_of_database database)
    have begun := arrives_of_start started (Stage.reaches_all reach rfl)
    have arrives := begun.trans (arrives_of_arises tame arises (begun.2.guarded guarded'))
    exact .head (.host _) arrives.1
  | @step stmt p reply pending w w₁ v found unused handle started arises =>
    have guarded' : (engaging (stepping w t.statementSlot) stmt.connection).host.Guarded :=
      guarded.advance found
    have reach : Stage.Reaches ⟨w.host.custody 0, engaging (stepping w t.statementSlot)
        stmt.connection⟩ (.program p) :=
      ⟨stmt, Slots.mem_values_iff.mpr ⟨_, found⟩, handle⟩
    have begun := arrives_of_start started (Stage.reaches_all reach rfl)
    have arrives := begun.trans (arrives_of_arises tame arises (begun.2.guarded guarded'))
    exact .head (.host _) arrives.1
  | stimulate arises => exact (arrives_of_arises tame arises guarded).1

/-- When all statements have gone and some connections, turns lead to where the next one is in
nobody else's hands. -/
theorem alone_of_dropped {slot : String} {conn : Connection}
    {earlier later : List (String × Connection)} (idle : w.host.engaged = [])
    (entries : w.host.connections.entries = earlier ++ (slot, conn) :: later)
    (before : (dropAll w.host.statements.entries earlier).run w = ((), w₁)) :
    ReflTransGen Turn ⟨w.host.custody 0, w⟩ ⟨w₁.host.custody 0, w₁⟩ ∧
      Alone w₁.host slot conn := by
  have distinct := w.host.connections.ordered.imp String.ne_of_lt
  rw [entries] at distinct
  have led : Leads Turn (dropAll w.host.statements.entries earlier) (w.host.custody 0) w
      fun _ κ' w' => κ' = w'.host.custody 0 ∧ Alone w'.host slot conn := by
    -- no statements are left in slots, so none of them is on the connections to be dropped
    have dropped := leads_dropStatements (w := w) (x := 0) w.host.statements.entries
      (w.host.statements.ordered.imp String.ne_of_lt) fun _ he => Slots.mem_entries_iff.mp he
    refine Leads.bind dropped ?_
    rintro _ _ w₂ ⟨rfl, statements, hhost, hget⟩
    have free : w₂.host.statements.values = 0 := by
      rw [hhost]
      exact Slots.values_eq_zero (Slots.get?_of_emptied hget)
    have found : ∀ entry ∈ earlier, w₂.host.connections.get? entry.1 = some entry.2 := by
      intro entry he
      rw [hhost]
      refine Slots.mem_entries_iff.mp ?_
      rw [entries]
      exact List.mem_append_left _ he
    have apart : ∀ entry ∈ earlier, entry.1 ≠ slot := by
      intro entry he
      exact (List.pairwise_append.mp distinct).2.2 entry he _ List.mem_cons_self
    refine (leads_dropConnections earlier (List.pairwise_append.mp distinct).1 found
      (by rw [hhost]; exact idle) free).mono ?_
    rintro _ _ w₃ ⟨rfl, idle₃, free₃, hget₃⟩
    refine ⟨rfl, ?_, by simp [idle₃], by simp [free₃]⟩
    have kept : slot ∉ earlier.map (·.1) := by
      intro hslot
      obtain ⟨entry, he, same⟩ := List.mem_map.mp hslot
      exact apart entry he same
    rw [hget₃, if_neg kept, hhost]
    refine Slots.mem_entries_iff.mp ?_
    rw [entries]
    exact List.mem_append_right _ List.mem_cons_self
  obtain ⟨_, turns, rfl, alone⟩ := led.of_run before
  exact ⟨turns, alone⟩

/-- Turns lead to every moment from a world between operations. -/
theorem Moment.passes (moment : Moment v closing) : ∃ w, Reachable w ∧ Passes w closing v := by
  cases moment with
  | rests reachable => exact ⟨v, reachable, .of_rest .refl⟩
  | @calls α w v t action pending depth reachable arises =>
    obtain ⟨guarded, -⟩ := reachable.turns
    have tame := (callbacks_tell E depth).1
    exact ⟨w, reachable, .of_rest (arises.turns tame guarded)⟩
  | @parts w v t action closing reachable parting =>
    obtain ⟨guarded, -⟩ := reachable.turns
    exact ⟨w, reachable, parting.passes guarded⟩
  | @finishes w _ _ _ _ _ _ _ reachable idle entries before parting =>
    obtain ⟨turns, alone⟩ := alone_of_dropped idle entries before
    exact ⟨w, reachable, .of_alone turns alone parting⟩

/-! ## What is known at every moment -/

/-- A connection as it is while some are being closed: one of these, or one that the session has
otherwise. -/
def Holds (v : World E (host E)) (closing : List Connection) (x : Connection) : Prop :=
  x ∈ closing ∨ Has v x ∧ ∀ y ∈ closing, y.id ≠ x.id

/-- Before a session nothing is known, and there is nothing. -/
theorem begin_kept (engine : E.State) : Stage.Kept ⟨{}, begin E engine⟩ :=
  ⟨begin_lived engine, ⟨nofun, nofun⟩, begin_owned E engine, nofun⟩

/-- At every moment connections and closures are as they should be, and the connections that
there are are held. -/
theorem Moment.kept (moment : Moment v closing) :
    ∃ κ : Custody, Stage.Kept (⟨κ, v⟩ : Stage E (host E)) ∧
      ∀ x, Holds v closing x → x ∈ Stage.held (⟨κ, v⟩ : Stage E (host E)) := by
  obtain ⟨w, reachable, κ, turns, hands, slots⟩ := moment.passes
  obtain ⟨-, engine, before⟩ := reachable.turns
  refine ⟨κ, Turn.kept_of_turns (before.trans turns) (begin_kept engine), ?_⟩
  -- a connection is among those being closed, in a slot, or owned by a closure
  rintro x (here | ⟨⟨slot, found⟩ | captured, apart⟩)
  · have hand : x ∈ κ.exclusive := Multiset.mem_of_le hands (Multiset.mem_coe.mpr here)
    exact Stage.mem_held_of_exclusive (s := ⟨κ, v⟩) hand
  · rcases slots slot x found with hand | ⟨y, hy, same⟩
    · exact Stage.mem_held_of_shared (s := ⟨κ, v⟩) hand
    · exact absurd same (apart y hy)
  · exact Multiset.mem_add.mpr (.inr captured)

end Session

end EngineBridge
