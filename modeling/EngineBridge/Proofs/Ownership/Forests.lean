import EngineBridge.Proofs.Values.Cells
import Mathlib.Data.List.Perm.Subperm

/-!
# Forests of connections

A connection has closures in the registry, a closure may own a connection, and that one has
closures of its own.  As long as nothing is owned twice this is a forest.  `Spans` walks
through it from some connections on and lists every connection before those that its closures
own; the closures of a connection are taken in the order that an `Arrangement` puts them in,
and other orders list the same connections.
-/

set_option autoImplicit false

namespace EngineBridge

open Native

variable {E : Engine} {H : Host}

/-! ## Registries without some connections -/

namespace Registry

/-- The registry without the closures of several connections. -/
def eraseOwners (r : Registry H) (ids : List ConnectionId) : Registry H :=
  ⟨r.entries.filter (·.1.owner ∉ ids), r.distinct.filter _⟩

variable (r : Registry H) {ids : List ConnectionId} {id : ConnectionId}

/-- Emptying the slots of no connection leaves a registry as it is. -/
theorem eraseOwners_nil : r.eraseOwners [] = r := by
  obtain ⟨entries, distinct⟩ := r
  simp [eraseOwners]

/-- Without the closures of some connections and of one more. -/
theorem eraseOwner_eraseOwners :
    (r.eraseOwners ids).eraseOwner id = r.eraseOwners (id :: ids) := by
  simp only [eraseOwner, eraseOwners, List.filter_filter, Registry.mk.injEq]
  apply List.filter_congr
  intro entry _
  simp [bne, Bool.beq_eq_decide_eq]

/-- It does not matter in which order connections lose their closures. -/
theorem eraseOwners_congr {ids' : List ConnectionId} (same : ∀ id, id ∈ ids ↔ id ∈ ids') :
    r.eraseOwners ids = r.eraseOwners ids' := by
  simp only [eraseOwners, Registry.mk.injEq]
  apply List.filter_congr
  intro entry _
  simp [same]

/-- The other connections keep their closures. -/
theorem ownedBy_eraseOwners (other : id ∉ ids) :
    (r.eraseOwners ids).ownedBy id = r.ownedBy id := by
  simp only [ownedBy, eraseOwners, List.filter_filter]
  congr 1
  apply List.filter_congr
  intro entry _
  by_cases own : entry.1.owner = id
  · simp [own, other]
  · simp [own]

/-- Those connections have no closures any more. -/
theorem count_eraseOwners (gone : id ∈ ids) : (r.eraseOwners ids).count id = 0 := by
  simp only [count, ownedBy, eraseOwners, List.filter_filter, List.length_map,
    List.length_eq_zero_iff, List.filter_eq_nil_iff]
  intro entry _ kept
  simp only [Bool.and_eq_true, beq_iff_eq, decide_eq_true_eq] at kept
  exact kept.2 (kept.1 ▸ gone)

/-- The connections that the closures of a connection own. -/
def belongings (r : Registry H) (id : ConnectionId) : List Connection :=
  (r.ownedBy id).filterMap (·.owned)

end Registry

/-! ## Walks through a forest -/

/-- An order for the closures of each connection. -/
abbrev Arrangement (H : Host) := ConnectionId → List (Registration H) → List (Registration H)

namespace Arrangement

/-- Closures in the order in which the registry keeps them. -/
def kept : Arrangement H := fun _ regs => regs

/-- No closure is lost and none is added. -/
def Lawful (arrange : Arrangement H) : Prop :=
  ∀ id regs, (arrange id regs).Perm regs

/-- Keeping the order of closures is a lawful arrangement. -/
theorem lawful_kept : (kept : Arrangement H).Lawful := fun _ regs => .refl regs

end Arrangement

/-- Some connections are open, and so are all that they own, directly or not; a list of all of
them has each one before those that its closures own. -/
inductive Spans (arrange : Arrangement H) (r : Registry H) :
    List Connection → List Connection → Prop
  | nil : Spans arrange r [] []
  | cons {conn : Connection} {d : Database} {rest inner others : List Connection}
      (opened : conn.database = .ok d)
      (below : Spans arrange r ((arrange conn.id (r.ownedBy conn.id)).filterMap (·.owned)) inner)
      (beside : Spans arrange r rest others) :
      Spans arrange r (conn :: rest) (conn :: (inner ++ others))

namespace Spans

variable {arrange : Arrangement H} {r : Registry H} {conns listing : List Connection}

/-- The connections that a walk starts from are listed. -/
theorem subset (h : Spans arrange r conns listing) : conns ⊆ listing := by
  induction h with
  | nil => simp
  | @cons conn d rest inner others _ _ _ _ beside =>
    have later : rest ⊆ inner ++ others := fun c hc => List.mem_append_right _ (beside hc)
    exact List.cons_subset_cons conn later

/-- An owner is listed before what it owns. -/
theorem owner_first (lawful : arrange.Lawful) (h : Spans arrange r conns listing)
    {owner owned : Connection} (listed : owner ∈ listing) (owns : owned ∈ r.belongings owner.id) :
    [owner, owned].Sublist listing := by
  induction h with
  | nil => simp at listed
  | @cons first d rest inner others _ below _ ih ih' =>
    rcases List.mem_cons.mp listed with rfl | listed
    · have reached : owned ∈ (arrange owner.id (r.ownedBy owner.id)).filterMap (·.owned) :=
        ((lawful owner.id _).filterMap _).symm.subset owns
      have later : owned ∈ inner ++ others := List.mem_append_left _ (below.subset reached)
      exact List.Sublist.cons_cons owner (List.singleton_sublist.mpr later)
    · apply List.Sublist.cons
      rcases List.mem_append.mp listed with listed | listed
      · exact (ih listed).trans (List.sublist_append_left inner others)
      · exact (ih' listed).trans (List.sublist_append_right inner others)

/-- From the same connections in another order the same connections are reached. -/
theorem of_perm {conns' : List Connection} (order : conns.Perm conns')
    (h : Spans arrange r conns listing) :
    ∃ listing', Spans arrange r conns' listing' ∧ listing'.Perm listing := by
  induction order generalizing listing with
  | nil => exact ⟨listing, h, .refl _⟩
  | cons first _ ih =>
    obtain - | ⟨opened, below, beside⟩ := h
    obtain ⟨others', beside', same⟩ := ih beside
    exact ⟨_, .cons opened below beside', (same.append_left _).cons _⟩
  | swap first second rest =>
    obtain - | @⟨_, _, _, inner, _, opened, below, beside⟩ := h
    obtain - | @⟨_, _, _, inner', others, opened', below', beside'⟩ := beside
    refine ⟨_, .cons opened' below' (.cons opened below beside'), ?_⟩
    rw [List.perm_iff_count]
    intro conn
    simp only [List.count_cons, List.count_append]
    omega
  | trans _ _ ih ih' =>
    obtain ⟨between, spans, same⟩ := ih h
    obtain ⟨listing', spans', same'⟩ := ih' spans
    exact ⟨listing', spans', same'.trans same⟩

/-- With the closures of each connection in another order the same connections are reached. -/
theorem rearrange (lawful : arrange.Lawful) {arrange' : Arrangement H} (lawful' : arrange'.Lawful)
    (h : Spans arrange r conns listing) :
    ∃ listing', Spans arrange' r conns listing' ∧ listing'.Perm listing := by
  -- The closures of the first connection are put into the other order before their own walk is
  -- rearranged, so the induction is on the number of connections and not on the walk.
  induction hn : listing.length using Nat.strongRecOn generalizing conns listing with
  | ind n ih =>
    cases h with
    | nil => exact ⟨[], .nil, .refl _⟩
    | @cons conn d rest inner others opened below beside =>
      simp only [List.length_cons, List.length_append] at hn
      have order : ((arrange conn.id (r.ownedBy conn.id)).filterMap (·.owned)).Perm
          ((arrange' conn.id (r.ownedBy conn.id)).filterMap (·.owned)) :=
        ((lawful _ _).trans (lawful' _ _).symm).filterMap _
      obtain ⟨between, spans, same⟩ := below.of_perm order
      have size := same.length_eq
      obtain ⟨inner', below', sameInner⟩ := ih between.length (by omega) spans rfl
      obtain ⟨others', beside', sameOthers⟩ := ih others.length (by omega) beside rfl
      exact ⟨_, .cons opened below' beside', ((sameInner.trans same).append sameOthers).cons _⟩

end Spans

/-- A connection and all that it owns, directly or not, are open, and none of them is owned
twice. -/
structure Registry.Forest (r : Registry H) (root : Connection) (members : List Connection) :
    Prop where
  spans : Spans .kept r [root] members
  distinct : (members.map (·.id)).Nodup

/-! ## Engines that close -/

/-- An engine agrees to close some databases, each once and in any order. -/
def Native.Engine.AgreesToClose (E : Engine) (s : E.State) (databases : List Database) : Prop :=
  ∀ closed next, (closed ++ [next]).Subperm databases →
    (E.answer (E.after s (closed.map .closeV2)) (.closeV2 next)).1 = (0 : Int32)

namespace Native.Engine.AgreesToClose

variable {s : E.State} {d : Database} {ds ds' : List Database}

/-- The engine agrees to close one of them. -/
theorem head (h : E.AgreesToClose s (d :: ds)) :
    (E.answer s (.closeV2 d)).1 = (0 : Int32) :=
  h [] d (List.singleton_subperm_iff.mpr (by simp))

/-- And after that it agrees to close the others. -/
theorem tail (h : E.AgreesToClose s (d :: ds)) :
    E.AgreesToClose (E.answer s (.closeV2 d)).2 ds := by
  intro closed next sub
  exact h (d :: closed) next ((List.subperm_cons d).mpr sub)

/-- Some of them can be left alone. -/
theorem sublist (h : E.AgreesToClose s ds) (sub : ds'.Subperm ds) : E.AgreesToClose s ds' :=
  fun closed next within => h closed next (within.trans sub)

/-- When several have been closed, the engine agrees to close the others. -/
theorem after (h : E.AgreesToClose s (ds ++ ds')) :
    E.AgreesToClose (E.after s (ds.map .closeV2)) ds' := by
  induction ds generalizing s with
  | nil => exact h
  | cons d ds ih => exact ih h.tail

end Native.Engine.AgreesToClose

end EngineBridge
