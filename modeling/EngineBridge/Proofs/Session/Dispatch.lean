import EngineBridge.Proofs.Session.Moments

/-!
# Dispatch

The engine knows a busy handler by a word of context, and the word stands for a connection.  At
every moment of a session the word leads to the closure that was registered on that very
connection, or to none: each connection has an identity of its own, only connections that are open
have closures in the registry, and each slot holds a closure of its kind.

The word is a machine word, so there have to be fewer than `2 ^ 64` connections.
-/

set_option autoImplicit false

namespace EngineBridge

open Native

namespace ConnectionId

/-- The word that stands for a connection. -/
def userData (id : ConnectionId) : UInt64 := .ofNat id.number

/-- The connection that a word stands for. -/
def ofUserData (word : UInt64) : ConnectionId := ⟨word.toNat⟩

/-- A connection's number fits into a machine word as long as it is small enough. -/
theorem toNat_userData {id : ConnectionId} (small : id.number < 2 ^ 64) :
    id.userData.toNat = id.number :=
  UInt64.toNat_ofNat_of_lt' small

/-- A connection is found again by the word that the engine was given for it. -/
theorem ofUserData_userData {id : ConnectionId} (small : id.number < 2 ^ 64) :
    ofUserData id.userData = id := by
  unfold ofUserData
  rw [toNat_userData small]

end ConnectionId

namespace World

variable {E : Engine} {H : Host} {w : World E H} {id : ConnectionId}

/-- A new connection gets an identity that no other one has been given. -/
theorem handedOut_create (w : World E H) :
    ¬ w.HandedOut (Connection.create.run w).1.id ∧ ∀ id,
      (Connection.create.run w).2.HandedOut id ↔
        w.HandedOut id ∨ id = (Connection.create.run w).1.id := by
  have id_eq : (Connection.create.run w).1.id = ⟨w.connections + 1⟩ := rfl
  have connections : (Connection.create.run w).2.connections = w.connections + 1 := rfl
  constructor
  · rw [id_eq]
    exact fun handed => Nat.not_succ_le_self _ handed.2
  · rintro ⟨number⟩
    rw [id_eq, HandedOut, HandedOut, connections, ConnectionId.mk.injEq]
    dsimp only
    omega

/-- The engine asks the busy handler that was registered on a connection, if there is one there;
otherwise it is told to give up, and nothing happens. -/
def Dispatches (w : World E H) (id : ConnectionId) : Prop :=
  ∀ (cb : Callbacks E H) attempts,
    let answered := (Upcall.busy cb id.userData.toNat attempts).run w
    (w.registry.find? ⟨id, .busyHandler⟩ = none ∧ answered = (0, w)) ∨
      ∃ handler, (⟨id, .busyHandler⟩, .busy handler) ∈ w.registry.entries ∧
        .requested id (.registerBusyHandler handler.token) ∈ w.transcript ∧
        answered = (Upcall.consult cb id.number handler (Upcall.attemptCount attempts)).run
          (w.record (.handled handler.token (Upcall.attemptCount attempts)))

/-- The word of a connection leads to its busy slot, which holds a handler that was registered on
the connection if it holds anything. -/
theorem dispatches_of_vouched {κ : Custody} (vouched : Stage.Vouched (⟨κ, w⟩ : Stage E H))
    (small : id.number < 2 ^ 64) : w.Dispatches id := by
  intro cb attempts answered
  have word : answered = (Upcall.busy cb id.number attempts).run w := by
    simp only [answered, ConnectionId.toNat_userData small]
  rw [word]
  cases found : w.registry.find? ⟨id, .busyHandler⟩ with
  | none =>
    have absent : w.busyToken id = none := by
      unfold busyToken
      rw [found]
    have consults := w.consults_busyToken cb id
    rw [absent] at consults
    exact .inl ⟨rfl, consults attempts⟩
  | some r =>
    obtain ⟨change, installs, asked⟩ := vouched _ r found
    -- what is in the busy slot was put there as a busy handler
    generalize slot : Slot.busyHandler = place at installs
    cases installs with
    | function => cases slot
    | handler handler =>
      have busy := acceptBusy_of_busy attempts found
      refine .inr ⟨handler, Registry.find?_eq_some_iff.mp found, asked, ?_⟩
      unfold Upcall.busy
      rw [Bridge.run_bind_of_run busy]

end World

namespace Session

variable {E : Engine} {v : World E (host E)} {closing : List Connection}

/-- At every moment the registry is well-formed, and the engine is led to the right closure.  Each
entry is under a connection that is open, holds a closure of the kind that its slot is for, and
was asked for there.  Each identity that has been given to a connection belongs to one connection
only, and the word that stands for it leads back to it; a connection that is not open has no
closures.  A busy callback with the word of any connection that there has ever been runs the
handler that was registered on this connection, if there is one, and otherwise nothing. -/
theorem registrations_are_dispatched (moment : Moment v closing) :
    (∀ key r, (key, r) ∈ v.registry.entries →
      v.HandedOut key.owner ∧ (v.target key.owner).isSome ∧ key.slot.Admits r ∧
        ∃ change : Change, change.Installs key.slot r ∧
          .requested key.owner change ∈ v.transcript) ∧
    (∀ id, v.HandedOut id → ∃ y : Connection, y.id = id ∧
      Connection.Advances { id } y v.transcript ∧
      (∀ x, Holds v closing x → x.id = id → x = y) ∧
      (y.state = .opened ↔ (v.target id).isSome) ∧
      (y.state ≠ .opened → v.registry.ownedBy id = [])) ∧
    (∀ x, Holds v closing x → v.HandedOut x.id) ∧
    (¬ v.HandedOut (Connection.create.run v).1.id ∧ ∀ id,
      (Connection.create.run v).2.HandedOut id ↔
        v.HandedOut id ∨ id = (Connection.create.run v).1.id) ∧
    (v.connections < 2 ^ 64 → ∀ id, v.HandedOut id →
      ConnectionId.ofUserData id.userData = id ∧ v.Dispatches id) := by
  obtain ⟨κ, ⟨⟨coherent, chronicled⟩, numbered, owned, vouched⟩, held⟩ := moment.kept
  refine ⟨?_, ?_, ?_, v.handedOut_create, ?_⟩
  · intro key r entry
    have found := Registry.find?_eq_some_iff.mpr entry
    obtain ⟨d, live⟩ := owned key r found
    obtain ⟨change, installs, asked⟩ := vouched key r found
    have handed : v.HandedOut key.owner :=
      ⟨numbered.armed key.owner d live, coherent.armed key.owner d live⟩
    exact ⟨handed, Option.isSome_iff_exists.mpr ⟨d, live⟩, installs.admits, change, installs, asked⟩
  · intro id handed
    obtain ⟨y, more, transcript, advances, target, live, there⟩ := chronicled.follows id handed.2
    have whole : v.transcript = more := transcript.trans (List.append_nil more)
    have same : y.id = id := advances.id_eq
    have target : v.target id = y.handle := target
    -- the history of the identity ends with `y`, and whoever has the identity is `y`
    refine ⟨y, same, whole ▸ advances, ?_, by rw [target]; exact live, ?_⟩
    · intro x holds hid
      rcases there with hy | ⟨gone, -⟩
      · exact coherent.eq_of_id (held x holds) hy (hid.trans same.symm)
      · exact absurd hid (gone x (held x holds))
    · intro closed
      refine Registry.ownedBy_eq_nil_iff.mpr fun key r entry owner => closed ?_
      obtain ⟨d, there⟩ := owned key r (Registry.find?_eq_some_iff.mpr entry)
      have armed : v.target id = some d := owner ▸ there
      exact live.mpr (by rw [← target, armed]; rfl)
  · intro x holds
    exact ⟨numbered.held x (held x holds), coherent.counted x (held x holds)⟩
  · intro few id handed
    have small : id.number < 2 ^ 64 := lt_of_le_of_lt handed.2 few
    exact ⟨ConnectionId.ofUserData_userData small, World.dispatches_of_vouched vouched small⟩

/-- A session with three connections: the first one has a function, the second one a busy handler
that owns the first one, and the third one a busy handler that tries again. -/
def nestedSession : List (Step Scripted.Stimulus) :=
  [({ connection := some "inner" }, .connect ":memory:" {}),
   ({ connection := some "inner" }, .registerFunction "f" 1 .empty .count),
   ({ connection := some "outer" }, .connect ":memory:" {}),
   ({ connection := some "outer" }, .registerBusyHandler (.own "inner")),
   ({ connection := some "other" }, .connect ":memory:" {}),
   ({ connection := some "other" }, .registerBusyHandler (.whileBelow 3))]

/-- The world after that session. -/
def nestedWorld : World Scripted.engine (host Scripted.engine) :=
  ((nestedSession.mapM (next 1)).run (begin Scripted.engine {})).2

/-- The first connection of that session. -/
def innerConnection : Connection := ⟨⟨1⟩, .opened, some ⟨1⟩, ":memory:"⟩

/-- The second connection of that session. -/
def outerConnection : Connection := ⟨⟨2⟩, .opened, some ⟨2⟩, ":memory:"⟩

/-- The world when the session has the second connection all to itself. -/
def takenWorld : World Scripted.engine (host Scripted.engine) :=
  ((Attempt.exclusive "outer").run.run nestedWorld).2

/-- The second connection is being closed, and its busy handler takes the first one along; the
function of the first one is about to part. -/
def midwayWorld : World Scripted.engine (host Scripted.engine) :=
  (takenWorld.letGo outerConnection ⟨2⟩).letGo innerConnection ⟨1⟩

/-- In the midst of that, busy callbacks of the two connections that are going are told to give up,
and the third one still has its handler. -/
theorem closing_connections_have_no_handlers :
    let cb := callbacks (perform 1)
    let answer (id : Nat) := ((Upcall.busy cb id 1).run midwayWorld).1
    Moment midwayWorld [outerConnection.closed, innerConnection.closed] ∧
      (∀ x ∈ [outerConnection.closed, innerConnection.closed],
        midwayWorld.registry.ownedBy x.id = []) ∧
      midwayWorld.Dispatches ⟨1⟩ ∧ midwayWorld.Dispatches ⟨2⟩ ∧ midwayWorld.Dispatches ⟨3⟩ ∧
      [answer 1, answer 2, answer 3] = [0, 0, 1] := by
  intro cb answer
  have begun : Reachable (begin Scripted.engine {}) := .begin _
  have reachable := begun.steps 1 nestedSession
  have alone : ((Attempt.exclusive "outer").run.run nestedWorld).1 = .ok outerConnection := by
    decide +kernel
  have taken : (Attempt.exclusive "outer").run.run nestedWorld =
      (.ok outerConnection, takenWorld) := by
    rw [← alone, takenWorld, Prod.mk.eta]
  have handlers : (takenWorld.registry.ownedBy ⟨2⟩).map (·.owned) = [some innerConnection] := by
    decide +kernel
  have functions : ((takenWorld.letGo outerConnection ⟨2⟩).registry.ownedBy ⟨1⟩).map (·.owned) =
      [none] := by decide +kernel
  obtain ⟨handler, handlers, owned⟩ := List.map_eq_singleton_iff.mp handlers
  obtain ⟨function, functions, -⟩ := List.map_eq_singleton_iff.mp functions
  -- the function of the inner connection, and around it the handler of the outer one
  have innermost : Bridge.Parting ((takenWorld.letGo outerConnection ⟨2⟩).registry.ownedBy ⟨1⟩)
      midwayWorld [] midwayWorld := by
    rw [functions]
    exact .starts
  have within : Bridge.Parting (takenWorld.registry.ownedBy ⟨2⟩)
      (takenWorld.letGo outerConnection ⟨2⟩) [innerConnection.closed] midwayWorld := by
    rw [handlers]
    exact .within owned rfl (by decide +kernel) innermost
  have parting : outerConnection.Parting takenWorld
      [outerConnection.closed, innerConnection.closed] midwayWorld :=
    .closes rfl (by decide +kernel) within
  have moment : Moment midwayWorld [outerConnection.closed, innerConnection.closed] :=
    .parts reachable (t := { connection := some "outer" }) (.closes taken parting)
  obtain ⟨-, connections, held, -, dispatched⟩ := registrations_are_dispatched moment
  have count : midwayWorld.connections = 3 := by decide +kernel
  have few : midwayWorld.connections < 2 ^ 64 := by omega
  have handed {number : Nat} (positive : 0 < number) (le : number ≤ 3) :
      midwayWorld.HandedOut ⟨number⟩ := ⟨positive, by rw [count]; exact le⟩
  have dispatches {number : Nat} (positive : 0 < number) (le : number ≤ 3) :
      midwayWorld.Dispatches ⟨number⟩ := (dispatched few _ (handed positive le)).2
  refine ⟨moment, ?_, dispatches (by decide) (by decide), dispatches (by decide) (by decide),
    dispatches (by decide) (by decide), by decide +kernel⟩
  intro x hx
  obtain ⟨y, -, -, only, -, empty⟩ := connections x.id (held x (.inl hx))
  obtain rfl := only x (.inl hx) rfl
  have closed : ∀ x ∈ [outerConnection.closed, innerConnection.closed], x.state ≠ .opened := by
    decide
  exact empty (closed x hx)

end Session

end EngineBridge
