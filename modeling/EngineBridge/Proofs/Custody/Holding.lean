import EngineBridge.Proofs.Custody.History
import EngineBridge.Proofs.Custody.Leads
import Mathlib.Algebra.Order.Group.Multiset
import Mathlib.Data.Multiset.UnionInter
import Mathlib.Tactic.Abel

/-!
# Who holds which connection

A closure that enters or leaves the registry takes the connection along that it owns, so
that moves hardly ever change the connections that are held, all of them taken together:
one is created, opened, closed or goes out of use (`Shifts`).  Interrupts of a connection
that is held go to the engine's object behind it, for as long as it is open.
-/

set_option autoImplicit false

namespace EngineBridge

open Native

variable {E : Engine} {H : Host}

/-- Closures take along what each of them owns. -/
theorem capturedBy_cons (registration : Registration H) (others : List (Registration H)) :
    capturedBy (registration :: others) =
      (registration.owned.toList : Multiset Connection) + capturedBy others := by
  cases h : registration.owned with
  | none => simp [capturedBy, h]
  | some conn => simp [capturedBy, h]

namespace Registry

variable (r : Registry H) (key : FunctionKey)

/-- What closures in the registry own. -/
theorem captured_eq : r.captured = capturedBy (r.entries.map (·.2)) := by
  simp only [captured, capturedBy, List.filterMap_map]
  rfl

/-- A closure that enters the registry brings along the connection that it owns. -/
theorem captured_insert (registration : Registration H) :
    (r.insert key registration).captured = (r.erase key).captured + capturedBy [registration] := by
  simp only [captured_eq, insert, capturedBy, List.map_append, List.filterMap_append,
    Multiset.coe_add]
  rfl

/-- A closure that leaves the registry takes along the connection that it owns. -/
theorem captured_erase :
    r.captured = capturedBy (r.find? key).toList + (r.erase key).captured := by
  obtain ⟨entries, distinct⟩ := r
  simp only [captured_eq, find?, erase]
  induction entries with
  | nil => rfl
  | cons entry rest ih =>
    obtain ⟨hfirst, hrest⟩ := List.pairwise_cons.mp distinct
    by_cases hkey : entry.1 = key
    · subst hkey
      have hkeep : rest.filter (·.1 != entry.1) = rest :=
        List.filter_eq_self.mpr fun other he => by simpa using (hfirst other he).symm
      rw [List.find?_cons_of_pos (by simp), List.filter_cons_of_neg (by simp), hkeep,
        List.map_cons, capturedBy_cons, Option.map_some, Option.toList_some, capturedBy_cons,
        add_assoc]
      rfl
    · rw [List.find?_cons_of_neg (by simpa using hkey),
        List.filter_cons_of_pos (by simpa using hkey), List.map_cons, List.map_cons,
        capturedBy_cons, capturedBy_cons, ih hrest, add_left_comm]

/-- The closures of a connection take along the connections that they own. -/
theorem captured_eraseOwner (owner : ConnectionId) :
    r.captured = capturedBy (r.ownedBy owner) + (r.eraseOwner owner).captured := by
  simp only [captured_eq, ownedBy, eraseOwner]
  induction r.entries with
  | nil => rfl
  | cons entry rest ih =>
    rw [List.map_cons, capturedBy_cons, ih]
    by_cases howner : entry.1.owner = owner
    · rw [List.filter_cons_of_pos (by simpa using howner),
        List.filter_cons_of_neg (by simpa using howner), List.map_cons, capturedBy_cons, add_assoc]
    · rw [List.filter_cons_of_neg (by simpa using howner),
        List.filter_cons_of_pos (by simpa using howner), List.map_cons, capturedBy_cons,
        add_left_comm]

/-- A closure is in a slot if the registry has the entry that says so. -/
theorem find?_eq_some_iff {r : Registry H} {key : FunctionKey} {found : Registration H} :
    r.find? key = some found ↔ (key, found) ∈ r.entries := by
  obtain ⟨entries, distinct⟩ := r
  simp only [find?, Option.map_eq_some_iff]
  constructor
  · rintro ⟨⟨other, registration⟩, first, rfl⟩
    obtain rfl : other = key := by simpa using List.find?_some first
    exact List.mem_of_find?_eq_some first
  · intro entry
    refine ⟨(key, found), ?_, rfl⟩
    obtain ⟨earlier, later, rfl⟩ := List.append_of_mem entry
    have apart := (List.pairwise_append.mp distinct).2.2
    -- the keys are distinct, so nothing before the entry has its key
    refine List.find?_eq_some_iff_append.mpr ⟨by simp, earlier, later, rfl, fun other he => ?_⟩
    simpa using apart other he _ List.mem_cons_self

/-- A connection is owned by a closure in the registry if it is owned by the closure in a slot. -/
theorem mem_captured_iff {r : Registry H} {conn : Connection} :
    conn ∈ r.captured ↔ ∃ key found, r.find? key = some found ∧ found.owned = some conn := by
  unfold captured
  rw [Multiset.mem_coe, List.mem_filterMap]
  constructor
  · rintro ⟨⟨key, found⟩, entry, owned⟩
    exact ⟨key, found, find?_eq_some_iff.mpr entry, owned⟩
  · rintro ⟨key, found, entry, owned⟩
    exact ⟨(key, found), find?_eq_some_iff.mp entry, owned⟩

end Registry

namespace World

variable {w : World E H}

/-- What interrupts go to once those of one connection go nowhere. -/
theorem target_disarm (id other : ConnectionId) :
    (Bridge.disarm id w).2.target other = if other = id then none else w.target other := by
  show (w.armed.filter (·.1 != id)).lookup other = if other = id then none else w.armed.lookup other
  induction w.armed with
  | nil => simp
  | cons entry rest ih =>
    obtain ⟨first, d⟩ := entry
    by_cases hfirst : first = id
    · subst hfirst
      rw [List.filter_cons_of_neg (by simp), ih, List.lookup_cons]
      split
      · rfl
      · next hne => rw [beq_false_of_ne hne]
    · rw [List.filter_cons_of_pos (by simpa using hfirst), List.lookup_cons, List.lookup_cons, ih]
      by_cases hother : other = first
      · subst hother
        simp [hfirst]
      · rw [beq_false_of_ne hother]

/-- What interrupts go to once those of one connection go to an object. -/
theorem target_arm (id other : ConnectionId) (d : Database) :
    (Bridge.arm id d w).2.target other = if other = id then some d else w.target other := by
  show List.lookup other ((id, d) :: w.armed.filter (·.1 != id)) = _
  rw [List.lookup_cons]
  split
  · next heq => rw [if_pos (by simpa using heq)]
  · next hne =>
    have hne : other ≠ id := by simpa using hne
    have hdisarm := target_disarm (w := w) id other
    rw [if_neg hne] at hdisarm ⊢
    exact hdisarm

/-- Interrupts that go somewhere once those of one connection go nowhere are those of
others. -/
theorem of_target_disarm (w : World E H) (id : ConnectionId) {other : ConnectionId}
    {e : Database} (h : (Bridge.disarm id w).2.target other = some e) :
    other ≠ id ∧ w.target other = some e := by
  rw [target_disarm] at h
  split at h
  · cases h
  · next hne => exact ⟨hne, h⟩

/-- Interrupts that go somewhere once those of one connection go to an object are of that
connection or of others. -/
theorem of_target_arm (w : World E H) (id : ConnectionId) (d : Database)
    {other : ConnectionId} {e : Database}
    (h : (Bridge.arm id d w).2.target other = some e) :
    other = id ∧ e = d ∨ other ≠ id ∧ w.target other = some e := by
  rw [target_arm] at h
  split at h
  · next heq => exact .inl ⟨heq, (Option.some.inj h).symm⟩
  · next hne => exact .inr ⟨hne, h⟩

end World

/-- What a move means for the connections that are held, all of them taken together. -/
inductive Shifts (s s' : Stage E H) : Prop
  | none (held : s'.held = s.held) (connections : s'.world.connections = s.world.connections)
      (target : s'.world.target = s.world.target)
  | created (held : s'.held = { id := ⟨s.world.connections + 1⟩ } ::ₘ s.held)
      (connections : s'.world.connections = s.world.connections + 1)
      (target : s'.world.target = s.world.target)
  /-- A connection is opened or closed. -/
  | changed {x y : Connection} {rest : Multiset Connection} (before : s.held = x ::ₘ rest)
      (held : s'.held = y ::ₘ rest) (id : y.id = x.id) (begun : y.state ≠ .unopened)
      (fits : y.state = .opened ↔ y.handle.isSome)
      (connections : s'.world.connections = s.world.connections)
      (target : ∀ id, s'.world.target id = if id = x.id then y.handle else s.world.target id)
  | discarded {x : Connection} (before : s.held = x ::ₘ s'.held)
      (connections : s'.world.connections = s.world.connections)
      (target : s'.world.target = s.world.target)

/-- Closures that enter and leave the registry do not change what is held in total. -/
theorem Stage.held_eq_of_exchange {κ κ' : Custody} {w w' : World E H}
    {entering leaving : List (Registration H)} {r : Multiset Connection}
    (shared : κ'.shared = κ.shared) (before : κ.exclusive = capturedBy entering + r)
    (after : κ'.exclusive = capturedBy leaving + r)
    (registry : w'.registry.captured + capturedBy leaving =
      w.registry.captured + capturedBy entering) :
    Stage.held (⟨κ', w'⟩ : Stage E H) = Stage.held (⟨κ, w⟩ : Stage E H) := by
  simp only [Stage.held, shared, before, after]
  calc κ.shared + (capturedBy leaving + r) + w'.registry.captured
      = κ.shared + r + (w'.registry.captured + capturedBy leaving) := by abel
    _ = κ.shared + r + (w.registry.captured + capturedBy entering) := by rw [registry]
    _ = κ.shared + (capturedBy entering + r) + w.registry.captured := by abel

/-- What a closure in the registry owns is exchanged when another one takes its place. -/
theorem Registry.captured_insert_add (r : Registry H) (key : FunctionKey)
    (registration : Registration H) :
    (r.insert key registration).captured + capturedBy (r.find? key).toList =
      r.captured + capturedBy [registration] := by
  rw [captured_insert, captured_erase r key]
  abel

/-- What a closure in the registry owns leaves with it. -/
theorem Registry.captured_erase_add (r : Registry H) (key : FunctionKey) :
    (r.erase key).captured + capturedBy (r.find? key).toList =
      r.captured + capturedBy ([] : List (Registration H)) := by
  rw [captured_erase r key, add_comm]
  exact (add_zero _).symm

/-- What becomes of the connections that are held, all of them taken together, and what the
transcript says of it. -/
inductive Evolves (s s' : Stage E H) : Prop
  | same (held : s'.held = s.held) (connections : s'.world.connections = s.world.connections)
      (target : s'.world.target = s.world.target)
      (silent : s'.world.transcript = s.world.transcript ∨
        ∃ entry : Entry, ¬ entry.IsOpening ∧ s'.world.transcript = entry :: s.world.transcript)
  | created (held : s'.held = { id := ⟨s.world.connections + 1⟩ } ::ₘ s.held)
      (connections : s'.world.connections = s.world.connections + 1)
      (target : s'.world.target = s.world.target)
      (transcript : s'.world.transcript = s.world.transcript)
  | opened {x : Connection} {rest : Multiset Connection} {d : Database} {path : String}
      (before : s.held = x ::ₘ rest) (unopened : x.state = .unopened)
      (held : s'.held =
        { x with state := .opened, handle := some d, path := path } ::ₘ rest)
      (connections : s'.world.connections = s.world.connections)
      (target : ∀ id, s'.world.target id = if id = x.id then some d else s.world.target id)
      (transcript : s'.world.transcript =
        .reported (.opened x.id path) :: s.world.transcript)
  | closed {x : Connection} {rest : Multiset Connection} {d : Database}
      (before : s.held = x ::ₘ rest) (database : x.database = .ok d)
      (held : s'.held = { x with state := .closed, handle := none } ::ₘ rest)
      (connections : s'.world.connections = s.world.connections)
      (target : ∀ id, s'.world.target id = if id = x.id then none else s.world.target id)
      (transcript : s'.world.transcript =
        .called (.closeV2 d) (0 : Int32) :: s.world.transcript)
  /-- A connection goes out of use; one that is open has been asked to close. -/
  | discarded {x : Connection} (before : s.held = x ::ₘ s'.held)
      (tried : ∀ d, x.database = .ok d →
        ∃ code, .called (.closeV2 d) code ∈ s.world.transcript)
      (connections : s'.world.connections = s.world.connections)
      (target : s'.world.target = s.world.target)
      (transcript : s'.world.transcript = s.world.transcript)

/-- A note does not say that a connection has been opened. -/
theorem Entry.IsNote.not_isOpening {entry : Entry} (h : entry.IsNote) : ¬ entry.IsOpening := by
  intro opening
  cases entry with
  | reported event => cases event <;> trivial
  | _ => exact opening

/-- A move changes at most one of the connections that are held. -/
theorem Move.evolves {s s' : Stage E H} (move : Move s s') : Evolves s s' := by
  -- what is taken in hand, or out of hand, is one of those that are held
  have in_hand {κ : Custody} {w : World E H} {x : Connection} {rest : Multiset Connection}
      (hand : κ.exclusive = x ::ₘ rest) :
      Stage.held (⟨κ, w⟩ : Stage E H) = x ::ₘ (κ.shared + rest + w.registry.captured) := by
    simp only [Stage.held, hand, Multiset.add_cons, Multiset.cons_add]
  cases move with
  | engine | closure | forget => exact .same rfl rfl rfl (.inl rfl)
  | note hn => exact .same rfl rfl rfl (.inr ⟨_, hn.not_isOpening, rfl⟩)
  | create =>
    exact .created (by simp only [Stage.held, Multiset.add_cons, Multiset.cons_add]) rfl rfl rfl
  | @adopt κ w x rest d path opening hand unopened =>
    refine .opened (in_hand hand) unopened ?_ rfl (fun id => World.target_arm x.id id d) rfl
    simp only [Stage.held, Multiset.add_cons, Multiset.cons_add]
    rfl
  | @close κ w x rest d hand database done =>
    refine .closed (in_hand hand) database ?_ rfl (fun id => World.target_disarm x.id id) ?_
    · simp only [Stage.held, Multiset.add_cons, Multiset.cons_add, World.withRegistry]
      rw [Registry.captured_eraseOwner w.registry x.id]
      congr 1
      abel
    · rw [← done]
      rfl
  | @discard κ w x rest hand tried => exact .discarded (in_hand hand) tried rfl rfl rfl
  | @reserve κ w x rest hand free =>
    exact .same (by simp only [Stage.held, hand, Multiset.add_cons, Multiset.cons_add]) rfl rfl
      (.inl rfl)
  | @share κ w x rest hand =>
    exact .same (by simp only [Stage.held, hand, Multiset.add_cons, Multiset.cons_add]) rfl rfl
      (.inl rfl)
  | @installFunction κ w x d text name arity rep function rest earlier hand database named owned =>
    exact .same (Stage.held_eq_of_exchange rfl owned rfl
      (Registry.captured_insert_add w.registry _ _)) rfl rfl (.inr ⟨_, by exact not_false, rfl⟩)
  | @removeFunction κ w x d text name arity rep =>
    exact .same (Stage.held_eq_of_exchange (r := κ.exclusive) rfl (zero_add _).symm rfl
      (Registry.captured_erase_add w.registry _)) rfl rfl (.inr ⟨_, by exact not_false, rfl⟩)
  | @installBusy κ w x handler d rest hand database owned =>
    exact .same (Stage.held_eq_of_exchange rfl owned rfl
      (Registry.captured_insert_add w.registry _ _)) rfl rfl (.inl rfl)
  | @removeBusy κ w x d =>
    exact .same (Stage.held_eq_of_exchange (r := κ.exclusive) rfl (zero_add _).symm rfl
      (Registry.captured_erase_add w.registry _)) rfl rfl (.inl rfl)
  | _ => exact .same rfl rfl rfl (.inr ⟨_, by exact not_false, rfl⟩)

/-- What becomes of the connections that are held, the transcript left aside. -/
theorem Move.shifts {s s' : Stage E H} (move : Move s s') : Shifts s s' := by
  cases move.evolves with
  | same held connections target => exact .none held connections target
  | created held connections target => exact .created held connections target
  | opened before unopened held connections target =>
    exact .changed before held rfl nofun (by simp) connections target
  | closed before database held connections target =>
    exact .changed before held rfl nofun (by simp) connections target
  | discarded before tried connections target => exact .discarded before connections target

/-- Connections have different numbers, and interrupts go where they should. -/
structure Stage.Coherent (s : Stage E H) : Prop where
  distinct : (s.held.map (·.id)).Nodup
  counted : ∀ x ∈ s.held, x.id.number ≤ s.world.connections
  armed : ∀ id d, s.world.target id = some d → id.number ≤ s.world.connections
  opened : ∀ x ∈ s.held, x.state = .opened ↔ x.handle.isSome
  target : ∀ x ∈ s.held, s.world.target x.id = x.handle

/-- Connections keep having different numbers. -/
theorem Shifts.coherent {s s' : Stage E H} (shifts : Shifts s s') (h : s.Coherent) :
    s'.Coherent := by
  cases shifts with
  | none held connections target =>
    constructor
    · rw [held]
      exact h.distinct
    · rw [held, connections]
      exact h.counted
    · rw [target, connections]
      exact h.armed
    · rw [held]
      exact h.opened
    · rw [held, target]
      exact h.target
  | created held connections target =>
    -- the number of the new connection is higher than all that are known
    have new : ∀ id : ConnectionId, id.number ≤ s.world.connections →
        id ≠ ⟨s.world.connections + 1⟩ := by
      rintro _ hle rfl
      exact Nat.not_succ_le_self _ hle
    constructor
    · rw [held, Multiset.map_cons, Multiset.nodup_cons]
      refine ⟨fun hmem => ?_, h.distinct⟩
      obtain ⟨x, hx, hid⟩ := Multiset.mem_map.mp hmem
      exact new x.id (h.counted x hx) hid
    · rw [held, connections]
      intro x hx
      rcases Multiset.mem_cons.mp hx with rfl | hx
      · exact Nat.le_refl _
      · exact Nat.le_succ_of_le (h.counted x hx)
    · rw [target, connections]
      exact fun id d hd => Nat.le_succ_of_le (h.armed id d hd)
    · rw [held]
      intro x hx
      rcases Multiset.mem_cons.mp hx with rfl | hx
      · simp
      · exact h.opened x hx
    · rw [held, target]
      intro x hx
      rcases Multiset.mem_cons.mp hx with rfl | hx
      · refine Option.eq_none_iff_forall_ne_some.mpr fun d hd => ?_
        exact new _ (h.armed _ d hd) rfl
      · exact h.target x hx
  | @changed x y rest before held id begun fits connections target =>
    have distinct := h.distinct
    rw [before, Multiset.map_cons, Multiset.nodup_cons] at distinct
    have hx : x ∈ s.held := before ▸ Multiset.mem_cons_self x rest
    have hrest : ∀ z ∈ rest, z ∈ s.held := fun z hz => before ▸ Multiset.mem_cons_of_mem hz
    constructor
    · rw [held, Multiset.map_cons, Multiset.nodup_cons, id]
      exact distinct
    · rw [held, connections]
      intro z hz
      rcases Multiset.mem_cons.mp hz with rfl | hz
      · rw [id]
        exact h.counted x hx
      · exact h.counted z (hrest z hz)
    · rw [connections]
      intro i d hd
      rw [target] at hd
      split at hd
      · next heq =>
        rw [heq]
        exact h.counted x hx
      · exact h.armed i d hd
    · rw [held]
      intro z hz
      rcases Multiset.mem_cons.mp hz with rfl | hz
      · exact fits
      · exact h.opened z (hrest z hz)
    · rw [held]
      intro z hz
      rw [target]
      rcases Multiset.mem_cons.mp hz with rfl | hz
      · rw [if_pos id]
      · -- numbers are distinct, so interrupts for the others go where they went
        have hne : z.id ≠ x.id := fun heq =>
          distinct.1 (heq ▸ Multiset.mem_map_of_mem (·.id) hz)
        rw [if_neg hne]
        exact h.target z (hrest z hz)
  | @discarded x before connections target =>
    have distinct := h.distinct
    rw [before, Multiset.map_cons, Multiset.nodup_cons] at distinct
    have hrest : ∀ z ∈ s'.held, z ∈ s.held := fun z hz => before ▸ Multiset.mem_cons_of_mem hz
    constructor
    · exact distinct.2
    · rw [connections]
      exact fun z hz => h.counted z (hrest z hz)
    · rw [target, connections]
      exact h.armed
    · exact fun z hz => h.opened z (hrest z hz)
    · rw [target]
      exact fun z hz => h.target z (hrest z hz)

namespace Stage

variable {s : Stage E H} {x y : Connection} {d : Database}

namespace Coherent

/-- A connection is told by its number. -/
theorem eq_of_id (h : s.Coherent) (hx : x ∈ s.held) (hy : y ∈ s.held) (id : x.id = y.id) :
    x = y :=
  Multiset.inj_on_of_nodup_map h.distinct x hx y hy id

/-- The object of a connection that is open is what interrupts go to. -/
theorem database_iff (h : s.Coherent) (hx : x ∈ s.held) :
    x.database = .ok d ↔ s.world.target x.id = some d := by
  rw [Connection.database_eq_ok_iff, h.target x hx, h.opened x hx]
  constructor
  · exact fun hd => hd.2
  · exact fun hd => ⟨by rw [hd]; rfl, hd⟩

/-- A connection that nobody else can use is not one that others can use. -/
theorem id_ne (h : s.Coherent) (hx : x ∈ s.custody.shared) (hy : y ∈ s.custody.exclusive) :
    x.id ≠ y.id := by
  intro id
  have distinct := h.distinct
  simp only [held, Multiset.map_add, Multiset.nodup_add] at distinct
  have apart := Multiset.disjoint_left.mp distinct.1.2.2 (Multiset.mem_map_of_mem (·.id) hx)
  exact apart (id ▸ Multiset.mem_map_of_mem (·.id) hy)

/-- A connection that a closure in the registry owns is not one that others can use. -/
theorem id_ne_of_captured (h : s.Coherent) (hx : x ∈ s.custody.shared)
    (hy : y ∈ s.world.registry.captured) : y.id ≠ x.id := by
  intro id
  have distinct := h.distinct
  simp only [held, Multiset.map_add, Multiset.nodup_add] at distinct
  have apart := Multiset.disjoint_left.mp distinct.2.2
    (Multiset.mem_add.mpr (.inl (Multiset.mem_map_of_mem (·.id) hx)))
  exact apart (id ▸ Multiset.mem_map_of_mem (·.id) hy)

/-- The object of a connection that others may use is what interrupts go to. -/
theorem target_of_shared (h : s.Coherent) (hand : x ∈ s.custody.shared)
    (database : x.database = .ok d) : s.world.target x.id = some d :=
  (h.database_iff (mem_held_of_shared hand)).mp database

/-- The object of a connection that nobody else can use is what interrupts go to. -/
theorem target_of_exclusive (h : s.Coherent) (hand : x ∈ s.custody.exclusive)
    (database : x.database = .ok d) : s.world.target x.id = some d :=
  (h.database_iff (mem_held_of_exclusive hand)).mp database

/-- Interrupts of a connection that is not open yet go nowhere. -/
theorem target_of_unopened (h : s.Coherent) (hand : x ∈ s.held) (unopened : x.state = .unopened) :
    s.world.target x.id = none := by
  rw [h.target x hand]
  refine Option.not_isSome_iff_eq_none.mp fun hsome => ?_
  rw [(h.opened x hand).mpr hsome] at unopened
  cases unopened

end Coherent

end Stage

/-- Only connections that are open have closures in the registry. -/
def Stage.Owned (s : Stage E H) : Prop :=
  ∀ key r, s.world.registry.find? key = some r → ∃ d, s.world.target key.owner = some d

namespace Stage.Owned

variable {κ κ' : Custody} {w w' : World E H} {x : Connection} {d : Database}

/-- A closure may be put into a slot of a connection that is open. -/
theorem insert (h : Owned ⟨κ, w⟩) (slot : Slot) (r : Registration H)
    (registry : w'.registry = w.registry.insert ⟨x.id, slot⟩ r) (target : w'.target = w.target)
    (live : w.target x.id = some d) : Owned ⟨κ', w'⟩ := by
  intro key other found
  rw [show (Stage.mk κ' w').world = w' from rfl, registry] at found
  rw [show (Stage.mk κ' w').world = w' from rfl, target]
  by_cases hkey : key = ⟨x.id, slot⟩
  · exact hkey ▸ ⟨d, live⟩
  · rw [Registry.find?_insert_of_ne _ hkey] at found
    exact h key other found

/-- A slot may be emptied. -/
theorem erase (h : Owned ⟨κ, w⟩) (key : FunctionKey)
    (registry : w'.registry = w.registry.erase key) (target : w'.target = w.target) :
    Owned ⟨κ', w'⟩ := by
  intro other r found
  rw [show (Stage.mk κ' w').world = w' from rfl, registry] at found
  rw [show (Stage.mk κ' w').world = w' from rfl, target]
  by_cases hkey : other = key
  · subst hkey
    rw [Registry.find?_erase_self] at found
    cases found
  · rw [Registry.find?_erase_of_ne _ hkey] at found
    exact h other r found

/-- The slots of a connection that is not open yet are empty. -/
theorem vacant {s : Stage E H} (h : s.Owned) (coherent : s.Coherent) (hand : x ∈ s.held)
    (unopened : x.state = .unopened) (slot : Slot) :
    s.world.registry.find? ⟨x.id, slot⟩ = none := by
  refine Option.eq_none_iff_forall_ne_some.mpr fun r found => ?_
  obtain ⟨d, live⟩ := h _ r found
  cases (coherent.target_of_unopened hand unopened).symm.trans live

end Stage.Owned

/-- Closures leave the registry with their connection. -/
theorem Move.owned {s s' : Stage E H} (move : Move s s') (coherent : s.Coherent) (h : s.Owned) :
    s'.Owned := by
  cases move with
  | @adopt κ w x rest d path opening hand unopened =>
    intro key r found
    obtain ⟨other, hother⟩ := h key r found
    have armed : ((Bridge.arm x.id d w).2).target key.owner =
        if key.owner = x.id then some d else w.target key.owner := World.target_arm _ _ _
    by_cases hid : key.owner = x.id
    · exact ⟨d, by rw [if_pos hid] at armed; exact armed⟩
    · exact ⟨other, by rw [if_neg hid] at armed; exact armed.trans hother⟩
  | @close κ w x rest d hand database done =>
    intro key r found
    have hid : key.owner ≠ x.id := by
      intro heq
      have gone := Registry.find?_eraseOwner_self w.registry key
      rw [heq] at gone
      exact nomatch gone.symm.trans found
    have kept : w.registry.find? key = some r :=
      (Registry.find?_eraseOwner_of_ne w.registry hid).symm.trans found
    obtain ⟨other, hother⟩ := h key r kept
    have disarmed : ((Bridge.disarm x.id (w.asked (.closeV2 d))).2).target key.owner =
        if key.owner = x.id then none else w.target key.owner := World.target_disarm _ _
    exact ⟨other, by rw [if_neg hid] at disarmed; exact disarmed.trans hother⟩
  | installFunction hand database =>
    exact h.insert _ _ rfl rfl (coherent.target_of_shared hand database)
  | removeFunction => exact h.erase _ rfl rfl
  | installBusy hand database =>
    exact h.insert _ _ rfl rfl (coherent.target_of_shared hand database)
  | removeBusy => exact h.erase _ rfl rfl
  | _ => exact h

end EngineBridge
