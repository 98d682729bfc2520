import EngineBridge.Proofs.Isolation.Disposal
import EngineBridge.Proofs.Ownership.Forests
import EngineBridge.Proofs.Values.ScriptedCells

/-!
# Closing a connection that owns others

When a connection is closed its closures go, with them the connections that these own, and so
on.  `Dismantles` is how that goes, without any bound on how deep: an owner is closed before
what it owns, by then nothing is left in the registry of the connections around it, and its
report comes last.  `close` and `drop` go this way with the closures in the order of the
registry.  In every other order the same connections are closed, the same numbers of closures
are reported, and the registry is left the same.
-/

set_option autoImplicit false

namespace EngineBridge

open Native

variable {E : Engine} {H : Host}

/-! ## What has been closed -/

/-- The database that an entry is a call to close, if it is one. -/
def Entry.closing? : Entry → Option Database
  | .called (.closeV2 d) _ => some d
  | _ => none

/-- The connection that an entry reports as closed, with the number of its closures. -/
def Entry.released? : Entry → Option (ConnectionId × Nat)
  | .reported (.closed id released) => some (id, released)
  | _ => none

namespace World

/-- The databases that the engine has been told to close, in order. -/
def closings (w : World E H) : List Database :=
  w.transcript.reverse.filterMap Entry.closing?

/-- The connections that were reported as closed, each with the number of its closures, in
order. -/
def releases (w : World E H) : List (ConnectionId × Nat) :=
  w.transcript.reverse.filterMap Entry.released?

variable (w : World E H) (conn : Connection) (d : Database)

/-- A connection is let go by one call, which is announced. -/
theorem transcript_letGo : (w.letGo conn d).transcript =
    .called (.closeV2 d) (w.answer (.closeV2 d)) ::
      .reported (.nativeCall (Call.closeV2 d).symbol) :: w.transcript :=
  rfl

/-- A connection that is let go is closed once. -/
theorem closings_letGo : (w.letGo conn d).closings = w.closings ++ [d] := by
  simp only [closings, transcript_letGo, List.reverse_cons, List.filterMap_append]
  simp only [List.append_assoc]
  rfl

/-- Letting a connection go releases nothing yet. -/
theorem releases_letGo : (w.letGo conn d).releases = w.releases := by
  simp [releases, transcript_letGo, Entry.released?]

/-- The report of a close closes nothing more. -/
theorem closings_closed (id : ConnectionId) (n : Nat) :
    (w.record (.reported (.closed id n))).closings = w.closings := by
  simp [closings, record, Entry.closing?]

/-- The report of a close tells how much was released. -/
theorem releases_closed (id : ConnectionId) (n : Nat) :
    (w.record (.reported (.closed id n))).releases = w.releases ++ [(id, n)] := by
  simp [releases, record, Entry.released?]

end World

/-! ## Closures go one after the other -/

namespace Bridge

/-- Closures go one after the other, each with the connection that it owns. -/
theorem dispose_cons (r : Registration H) (regs : List (Registration H)) (w : World E H) :
    (dispose (r :: regs) : Bridge E H Unit) w =
      (do r.owned.forM Connection.drop; dispose regs : Bridge E H Unit) w := by
  have rest (v : World E H) (size : v.registry.size ≤ w.registry.size) :
      (disposeTo (w.registry.size + 1) regs : Bridge E H Unit) v = dispose regs v :=
    (dispose_eq (Nat.lt_succ_of_le size) regs).symm
  show (disposeTo (w.registry.size + 1) (r :: regs) : Bridge E H Unit) w = _
  unfold disposeTo at rest ⊢
  rw [List.forM_eq_forM, List.forM_cons]
  cases r.owned with
  | none => exact rest w (Nat.le_refl _)
  | some conn =>
    -- the registry is smaller by the time the closures of the connection go
    have same : Connection.SameBelow w.registry.size (disposeTo w.registry.size)
        (dispose : _ → Bridge E H Unit) := by
      intro regs v small
      rcases small with rfl | small
      · cases w.registry.size <;> rfl
      · exact (dispose_eq small regs).symm
    have dropped : conn.dropWith (disposeTo w.registry.size) w = conn.drop w :=
      conn.dropWith_congr same (Nat.le_refl _)
    have size : (conn.drop w).2.registry.size ≤ w.registry.size := by
      rw [← dropped]
      exact conn.shrinks_dropWith (shrinks_disposeTo _) w
    exact bind_congr dropped (rest _ size)

/-- Letting closures go is letting the connections go that they own. -/
theorem dispose_eq_forM (regs : List (Registration H)) :
    (dispose regs : Bridge E H Unit) = (regs.filterMap (·.owned)).forM Connection.drop := by
  induction regs with
  | nil => rfl
  | cons r regs ih =>
    funext w
    rw [dispose_cons, ih]
    cases owned : r.owned with
    | none => simp [owned, Option.forM]
    | some conn => simp [owned, Option.forM]

end Bridge

/-! ## How a forest is dismantled -/

/-- Some connections are closed one after the other, with all that they own, while `enclosing`
are on their way out.  The engine agrees to close each one, which only then loses its closures;
at that moment nothing is left of the connections around it. -/
inductive Dismantles (arrange : Arrangement H) :
    List ConnectionId → List Connection → World E H → World E H → Prop
  | nil {enclosing : List ConnectionId} {w : World E H} : Dismantles arrange enclosing [] w w
  | cons {enclosing : List ConnectionId} {conn : Connection} {d : Database}
      {rest : List Connection} {w w₁ w₂ : World E H}
      (opened : conn.database = .ok d)
      (cleared : ∀ id ∈ enclosing, w.registry.count id = 0)
      (agreed : w.answer (.closeV2 d) = (0 : Int32))
      (below : Dismantles arrange (conn.id :: enclosing)
        ((arrange conn.id (w.registry.ownedBy conn.id)).filterMap (·.owned)) (w.letGo conn d) w₁)
      (beside : Dismantles arrange enclosing rest
        (w₁.record (.reported (.closed conn.id (w.registry.count conn.id)))) w₂) :
      Dismantles arrange enclosing (conn :: rest) w w₂

namespace Dismantles

variable {arrange : Arrangement H} {enclosing : List ConnectionId} {conns : List Connection}
  {w w' w'' : World E H}

/-- With the closures in a given order there is one way only. -/
theorem unique (h : Dismantles arrange enclosing conns w w')
    (h' : Dismantles arrange enclosing conns w w'') : w'' = w' := by
  induction h generalizing w'' with
  | nil =>
    cases h'
    rfl
  | cons opened _ _ _ _ ih ih' =>
    obtain - | @⟨_, _, _, _, _, w₁, _, opened', -, -, below', beside'⟩ := h'
    rw [opened] at opened'
    cases opened'
    obtain rfl := ih below'
    exact ih' beside'

end Dismantles

namespace Connection

variable {conn : Connection} {d : Database} {w w₁ : World E H}

/-- A connection that the engine agrees to close is closed when its closures have gone. -/
theorem close_run (opened : conn.database = .ok d) (agreed : w.answer (.closeV2 d) = (0 : Int32))
    (gone : (Bridge.dispose (w.registry.ownedBy conn.id)).run (w.letGo conn d) = ((), w₁)) :
    conn.close.run w = ((.ok (), { conn with state := .closed, handle := none }),
      w₁.record (.reported (.closed conn.id (w.registry.count conn.id)))) := by
  have closed : conn.closeWith Bridge.dispose w = _ := closeWith_eq opened agreed
  exact closed.trans (Bridge.run_bind_of_run gone)

/-- A connection that goes out of use is closed if it is open. -/
theorem drop_run (opened : conn.database = .ok d) {r : Connection}
    (closed : conn.close.run w = ((.ok (), r), w₁)) : conn.drop.run w = ((), w₁) := by
  have isOpen : conn.state = .opened := (database_eq_ok_iff.mp opened).1
  unfold drop dropWith
  rw [if_pos isOpen]
  exact Bridge.run_bind_of_run closed

end Connection

/-- Connections that go out of use one after the other are dismantled. -/
theorem Dismantles.drop_run {enclosing : List ConnectionId} {conns : List Connection}
    {w w' : World E H} (h : Dismantles .kept enclosing conns w w') :
    (conns.forM Connection.drop : Bridge E H Unit).run w = ((), w') := by
  induction h with
  | nil => rfl
  | cons opened _ agreed _ _ ih ih' =>
    rw [← Bridge.dispose_eq_forM] at ih
    have dropped := Connection.drop_run opened (Connection.close_run opened agreed ih)
    exact (Bridge.run_bind_of_run dropped).trans ih'

/-- A connection that is dismantled by itself is closed, or dropped, in that way. -/
theorem Dismantles.close_run {conn : Connection} {w w' : World E H}
    (h : Dismantles .kept [] [conn] w w') :
    conn.close.run w = ((.ok (), { conn with state := .closed, handle := none }), w') := by
  obtain - | ⟨opened, -, agreed, below, beside⟩ := h
  cases beside
  have gone := below.drop_run
  rw [← Bridge.dispose_eq_forM] at gone
  exact Connection.close_run opened agreed gone

/-! ## What is left of a forest -/

/-- Some connections of a registry, listed with all that they own, are still there when the
connections in `gone` have lost their closures, and the engine agrees to close them. -/
structure Standing (r : Registry H) (gone : List ConnectionId) (listing : List Connection)
    (w : World E H) : Prop where
  registry : w.registry = r.eraseOwners gone
  distinct : (listing.map (·.id)).Nodup
  apart : ∀ conn ∈ listing, conn.id ∉ gone
  agrees : E.AgreesToClose w.engine (listing.filterMap (·.handle))

/-- The connections that are listed have been closed: the registry has lost their closures,
each has been told to close once, in this order, and each has been reported with as many
closures as it had. -/
structure Dismantled (r : Registry H) (gone : List ConnectionId) (listing : List Connection)
    (w w' : World E H) : Prop where
  registry : w'.registry = r.eraseOwners (listing.map (·.id) ++ gone)
  engine : w'.engine = E.after w.engine ((listing.filterMap (·.handle)).map .closeV2)
  closings : w'.closings = w.closings ++ listing.filterMap (·.handle)
  releases : w'.releases.Perm (w.releases ++ listing.map fun conn => (conn.id, r.count conn.id))

section Steps

variable {r : Registry H} {gone : List ConnectionId} {conn : Connection} {d : Database}
  {inner others : List Connection} {w w₁ w₂ : World E H}

/-- The first of some connections comes with its object. -/
theorem handles_cons (handle : conn.handle = some d) :
    (conn :: (inner ++ others)).filterMap (·.handle) =
      d :: (inner.filterMap (·.handle) ++ others.filterMap (·.handle)) := by
  rw [List.filterMap_cons_some handle, List.filterMap_append]

namespace Standing

/-- The first connection has the closures that it always had. -/
theorem ownedBy_eq (h : Standing r gone (conn :: (inner ++ others)) w) :
    w.registry.ownedBy conn.id = r.ownedBy conn.id := by
  rw [h.registry, r.ownedBy_eraseOwners (h.apart conn (List.mem_cons_self ..))]

/-- The engine agrees to close the first connection. -/
theorem agreed (h : Standing r gone (conn :: (inner ++ others)) w) (handle : conn.handle = some d) :
    w.answer (.closeV2 d) = (0 : Int32) := by
  have agrees := h.agrees
  rw [handles_cons handle] at agrees
  exact agrees.head

/-- What the first connection owns is there when its closures are out of the registry. -/
theorem below (h : Standing r gone (conn :: (inner ++ others)) w)
    (handle : conn.handle = some d) : Standing r (conn.id :: gone) inner (w.letGo conn d) := by
  have agrees := h.agrees
  rw [handles_cons handle] at agrees
  have distinct := h.distinct
  rw [List.map_cons, List.map_append, List.nodup_cons, List.nodup_append] at distinct
  refine ⟨?_, distinct.2.1, ?_, agrees.tail.sublist (List.sublist_append_left _ _).subperm⟩
  · rw [← r.eraseOwner_eraseOwners, ← h.registry]
    rfl
  · intro c hc within
    rcases List.mem_cons.mp within with same | within
    · apply distinct.1
      rw [← same]
      exact List.mem_append_left _ (List.mem_map_of_mem hc)
    · exact h.apart c (by simp [hc]) within

/-- The other connections are there when the first one and what it owns are closed. -/
theorem beside (h : Standing r gone (conn :: (inner ++ others)) w) (handle : conn.handle = some d)
    (closed : Dismantled r (conn.id :: gone) inner (w.letGo conn d) w₁) (entry : Entry) :
    Standing r (inner.map (·.id) ++ conn.id :: gone) others (w₁.record entry) := by
  have agrees := h.agrees
  rw [handles_cons handle] at agrees
  have distinct := h.distinct
  rw [List.map_cons, List.map_append, List.nodup_cons, List.nodup_append] at distinct
  obtain ⟨first, -, distinctOthers, different⟩ := distinct
  refine ⟨closed.registry, distinctOthers, ?_, ?_⟩
  · intro c hc within
    rcases List.mem_append.mp within with within | within
    · exact different c.id within c.id (List.mem_map_of_mem hc) rfl
    · rcases List.mem_cons.mp within with same | within
      · apply first
        rw [← same]
        exact List.mem_append_right _ (List.mem_map_of_mem hc)
      · exact h.apart c (by simp [hc]) within
  · show E.AgreesToClose w₁.engine _
    rw [closed.engine]
    exact agrees.tail.after

end Standing

/-- A connection is closed, then what it owns, then it is reported, and then the others are
closed. -/
theorem Dismantled.cons (handle : conn.handle = some d)
    (below : Dismantled r (conn.id :: gone) inner (w.letGo conn d) w₁)
    (beside : Dismantled r (inner.map (·.id) ++ conn.id :: gone) others
      (w₁.record (.reported (.closed conn.id (r.count conn.id)))) w₂) :
    Dismantled r gone (conn :: (inner ++ others)) w w₂ := by
  refine ⟨?_, ?_, ?_, ?_⟩
  · rw [beside.registry]
    apply r.eraseOwners_congr
    intro id
    simp only [List.mem_append, List.map_cons, List.map_append, List.mem_cons]
    tauto
  · have engine : w₂.engine = E.after w₁.engine _ := beside.engine
    rw [engine, below.engine, handles_cons handle, List.map_cons, List.map_append,
      ← Engine.after_append]
    rfl
  · rw [beside.closings, World.closings_closed, below.closings, World.closings_letGo,
      handles_cons handle]
    simp only [List.append_assoc, List.cons_append, List.nil_append]
  · have reports := beside.releases
    have inside := below.releases
    rw [World.releases_closed] at reports
    rw [World.releases_letGo] at inside
    refine reports.trans ?_
    rw [List.perm_iff_count]
    intro release
    have inner := inside.count_eq release
    simp only [List.count_append, List.map_cons, List.map_append, List.count_cons,
      List.count_nil] at inner ⊢
    omega

end Steps

/-- Connections that are still there can be dismantled. -/
theorem Spans.dismantles {arrange : Arrangement H} {r : Registry H}
    {conns listing : List Connection} (h : Spans arrange r conns listing)
    {enclosing gone : List ConnectionId} {w : World E H} (enclosed : enclosing ⊆ gone)
    (standing : Standing r gone listing w) :
    ∃ w', Dismantles arrange enclosing conns w w' ∧ Dismantled r gone listing w w' := by
  induction h generalizing enclosing gone w with
  | nil =>
    refine ⟨w, .nil, ?_, rfl, ?_, ?_⟩
    · simpa using standing.registry
    · simp
    · simp
  | @cons conn d rest inner others opened _ _ ih ih' =>
    have handle : conn.handle = some d := Connection.handle_of_database opened
    obtain ⟨w₁, below, closed₁⟩ :=
      ih (List.cons_subset_cons conn.id enclosed) (standing.below handle)
    have around : enclosing ⊆ inner.map (·.id) ++ conn.id :: gone := by
      intro id hid
      exact List.mem_append_right _ (List.mem_cons_of_mem _ (enclosed hid))
    obtain ⟨w₂, beside, closed₂⟩ := ih' around (standing.beside handle closed₁
      (.reported (.closed conn.id (r.count conn.id))))
    have cleared : ∀ id ∈ enclosing, w.registry.count id = 0 := by
      intro id hid
      rw [standing.registry, r.count_eraseOwners (enclosed hid)]
    have count : w.registry.count conn.id = r.count conn.id :=
      congrArg List.length standing.ownedBy_eq
    rw [← standing.ownedBy_eq] at below
    rw [← count] at beside
    refine ⟨w₂, .cons opened cleared (standing.agreed handle) below beside, ?_⟩
    exact .cons handle closed₁ closed₂

/-- A forest that nobody has begun to close is still there, in whatever order it is listed. -/
theorem Registry.Forest.standing {root : Connection}
    {members listing : List Connection} {w : World E H} (forest : w.registry.Forest root members)
    (agrees : E.AgreesToClose w.engine (members.filterMap (·.handle)))
    (same : listing.Perm members) : Standing w.registry [] listing w := by
  refine ⟨w.registry.eraseOwners_nil.symm, ?_, by simp, ?_⟩
  · exact (same.map _).nodup_iff.mpr forest.distinct
  · exact agrees.sublist (same.filterMap _).subperm

/-- Open connections come with one object each. -/
theorem Spans.map_handle {arrange : Arrangement H} {r : Registry H}
    {conns listing : List Connection} (h : Spans arrange r conns listing) :
    (listing.filterMap (·.handle)).map some = listing.map (·.handle) := by
  induction h with
  | nil => rfl
  | cons opened _ _ ih ih' =>
    have handle := Connection.handle_of_database opened
    rw [handles_cons handle, List.map_cons, List.map_append, ih, ih', List.map_cons,
      List.map_append, handle]

/-- Closing the root of a forest comes to an end, and takes the whole forest along.  Both
`close` and `drop` go the way of `Dismantles`, with the closures of each connection in the
order of the registry.  With the closures in whatever order there is exactly one way, and by the
end of it the registry is as before but for the closures of the forest, each connection of the
forest has been told to close once and after its owner, and each has been reported with the
closures that it had. -/
theorem close_dismantles_forest {root : Connection} {members : List Connection} {w : World E H}
    (forest : w.registry.Forest root members)
    (agrees : E.AgreesToClose w.engine (members.filterMap (·.handle))) :
    (∃ w', Dismantles .kept [] [root] w w' ∧
      root.close.run w = ((.ok (), { root with state := .closed, handle := none }), w') ∧
      root.drop.run w = ((), w')) ∧
    ∀ arrange : Arrangement H, arrange.Lawful →
      ∃ w' listing, (∀ v, Dismantles arrange [] [root] w v ↔ v = w') ∧
        w'.registry = w.registry.eraseOwners (members.map (·.id)) ∧
        listing.Perm members ∧
        (∀ owner ∈ members, ∀ owned ∈ w.registry.belongings owner.id,
          [owner, owned].Sublist listing) ∧
        w'.closings.map some = w.closings.map some ++ listing.map (·.handle) ∧
        w'.releases.Perm
          (w.releases ++ members.map fun conn => (conn.id, w.registry.count conn.id)) := by
  refine ⟨?_, ?_⟩
  · obtain ⟨w', way, -⟩ :=
      forest.spans.dismantles (List.Subset.refl []) (forest.standing agrees (.refl members))
    have dropped : (do root.drop : Bridge E H Unit).run w = ((), w') := by
      have all := way.drop_run
      simpa using all
    exact ⟨w', way, way.close_run, dropped⟩
  · intro arrange lawful
    obtain ⟨listing, spans, same⟩ := forest.spans.rearrange Arrangement.lawful_kept lawful
    obtain ⟨w', way, closed⟩ :=
      spans.dismantles (List.Subset.refl []) (forest.standing agrees same)
    refine ⟨w', listing, ?_, ?_, same, ?_, ?_, ?_⟩
    · intro v
      constructor
      · exact way.unique
      · rintro rfl
        exact way
    · rw [closed.registry]
      apply w.registry.eraseOwners_congr
      intro id
      simp [(same.map (·.id)).mem_iff]
    · intro owner listed owned owns
      exact spans.owner_first lawful (same.symm.subset listed) owns
    · rw [closed.closings, List.map_append, spans.map_handle]
    · exact closed.releases.trans ((same.map _).append_left _)

/-- With nothing left in its script the scripted engine agrees to close whatever there is. -/
theorem Scripted.agreesToClose_of_idle {s : Scripted.State} (idle : s.script.items = [])
    (ds : List Database) : Engine.AgreesToClose Scripted.engine s ds := by
  have reaction (s : Scripted.State) (idle : s.script.items = []) (d : Database) :
      Scripted.answer s (.closeV2 d) =
        ((0 : Int32), s.onDatabase d fun db => { db with functions := [] }) := by
    simp only [Scripted.answer, Scripted.State.react, Scripted.State.take_of_idle idle]
    rfl
  rintro closed next -
  induction closed generalizing s with
  | nil => exact congrArg Prod.fst (reaction s idle next)
  | cons d closed ih =>
    change (Scripted.answer (Engine.after Scripted.engine (Scripted.answer s (.closeV2 d)).2 _)
      (.closeV2 next)).1 = _
    rw [reaction s idle d]
    exact ih idle

/-- A connection with a function and a busy handler that own a connection each, one of which
has a function with a connection of its own.  All four are closed with the first one, and the
function of another connection stays. -/
theorem nested_owners_are_closed :
    let conn (n : Nat) : Connection := { id := ⟨n⟩, state := .opened, handle := some ⟨n⟩ }
    let owning (token : Nat) (owned : Option Connection) : Closure Unit := ⟨token, (), owned⟩
    let busy : FunctionKey := ⟨⟨1⟩, .busyHandler⟩
    let function (n : Nat) : FunctionKey := ⟨⟨n⟩, .function "f" 1⟩
    let registry : Registry ⟨Unit, Unit, Unit⟩ :=
      { entries := [(function 1, .function (owning 1 (some (conn 2)))),
          (busy, .busy (owning 2 (some (conn 3)))),
          (function 2, .function (owning 3 (some (conn 4)))),
          (function 5, .function (owning 4 none))]
        distinct := by decide }
    let w : World Scripted.engine ⟨Unit, Unit, Unit⟩ :=
      { engine := { databases := List.replicate 5 .fresh }, host := (), registry }
    ∃ w', (conn 1).close.run w = ((.ok (), { conn 1 with state := .closed, handle := none }), w') ∧
      w'.registry = registry.eraseOwners [⟨1⟩, ⟨2⟩, ⟨4⟩, ⟨3⟩] ∧
      w'.releases.Perm [(⟨1⟩, 2), (⟨2⟩, 1), (⟨4⟩, 0), (⟨3⟩, 0)] := by
  intro conn owning busy function registry w
  have leaf (n : Nat) (bare : registry.ownedBy ⟨n⟩ = []) :
      Spans .kept registry [conn n] (conn n :: ([] ++ [])) := by
    apply Spans.cons rfl _ .nil
    show Spans .kept registry ((registry.ownedBy ⟨n⟩).filterMap (·.owned)) []
    rw [bare]
    exact .nil
  have second : Spans .kept registry [conn 2, conn 3]
      (conn 2 :: ((conn 4 :: ([] ++ [])) ++ (conn 3 :: ([] ++ [])))) :=
    .cons rfl (leaf 4 rfl) (leaf 3 rfl)
  have forest : w.registry.Forest (conn 1) (conn 1 :: ([conn 2, conn 4, conn 3] ++ [])) :=
    { spans := .cons rfl second .nil
      distinct := by decide }
  have agrees := Scripted.agreesToClose_of_idle (s := w.engine) rfl
    ([conn 1, conn 2, conn 4, conn 3].filterMap (·.handle))
  obtain ⟨⟨w', way, closed, -⟩, orders⟩ := close_dismantles_forest forest agrees
  obtain ⟨w'', -, unique, cleared, -, -, -, released⟩ := orders .kept Arrangement.lawful_kept
  obtain rfl : w' = w'' := (unique w').mp way
  exact ⟨w', closed, cleared, released⟩

end EngineBridge
