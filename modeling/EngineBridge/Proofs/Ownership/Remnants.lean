import EngineBridge.Proofs.Custody.Lifecycle
import EngineBridge.Proofs.Custody.Provenance
import EngineBridge.Proofs.Ownership.Dismantling

/-!
# What connections leave behind

A connection that is let go is closed first if it is open.  If the engine agrees, its closures
leave the registry, and the connections that they own are let go in turn.  If the engine refuses,
the connection goes all the same and its closures stay: the registry has entries then whose owner
is gone.  No move touches such entries any more, since closures enter and leave the registry
through a connection that is held, and numbers of connections are not used again.
-/

set_option autoImplicit false

namespace EngineBridge

open Native

variable {E : Engine} {H : Host}

/-! ## Letting one connection go -/

namespace Registry

variable {r : Registry H} {owner : ConnectionId}

/-- A connection has no closures if its slots are empty. -/
theorem ownedBy_eq_nil_of_find? (empty : ∀ key, key.owner = owner → r.find? key = none) :
    r.ownedBy owner = [] := by
  refine ownedBy_eq_nil_iff.mpr fun key found entry own => ?_
  cases (empty key own).symm.trans (find?_eq_some_iff.mpr entry)

end Registry

namespace Connection

variable {x : Connection} {d : Database} {w : World E H}

/-- A connection that is not open goes without notice. -/
theorem drop_of_not_opened (h : x.state ≠ .opened) : x.drop.run w = ((), w) := by
  unfold drop dropWith
  rw [if_neg h]
  rfl

/-- A connection that the engine agrees to close leaves no entry in the registry, and the
connections that its closures own are let go after it. -/
theorem drop_of_agreed (database : x.database = .ok d) (agreed : w.answer (.closeV2 d) = (0 : Int32)) :
    ∃ v, ((w.registry.belongings x.id).forM drop).run (w.letGo x d) = ((), v) ∧
      x.drop.run w = ((), v.record (.reported (.closed x.id (w.registry.count x.id)))) ∧
      v.registry.ownedBy x.id = [] := by
  let v := ((Bridge.dispose (w.registry.ownedBy x.id)).run (w.letGo x d)).2
  have gone : (Bridge.dispose (w.registry.ownedBy x.id)).run (w.letGo x d) = ((), v) := rfl
  refine ⟨v, ?_, drop_run database (close_run database agreed gone), ?_⟩
  · rw [Bridge.dispose_eq_forM] at gone
    exact gone
  · refine Registry.ownedBy_eq_nil_of_find? fun key own => ?_
    exact (Bridge.sheds_dispose _ (w.letGo x d)).find?_eq_none (w.find?_letGo x d own)

/-- A connection that the engine refuses to close goes all the same, and its closures stay: the
engine is told to close its object and asked why it refuses, and nothing else happens. -/
theorem drop_of_refused (database : x.database = .ok d)
    (refused : w.answer (.closeV2 d) ≠ (0 : Int32)) :
    x.drop.run w =
      let code : Int32 := w.answer (.closeV2 d)
      let asked := w.called (.closeV2 d)
      ((), (asked.diagnosed (some d) .closeV2 code).record
        (.reported (.closeFailed x.id (.engine (asked.errorOf (some d) code))))) := by
  have isOpen : x.state = .opened := (database_eq_ok_iff.mp database).1
  unfold drop dropWith
  rw [if_pos isOpen]
  exact Bridge.run_bind_of_run (closeWith_run_of_refused database refused)

end Connection

/-! ## Entries without an owner -/

namespace Registry

variable (r : Registry H) {key : FunctionKey} {owner other : ConnectionId}

/-- Emptying a slot leaves what other connections own. -/
theorem ownedBy_erase_of_ne (h : key.owner ≠ owner) :
    (r.erase key).ownedBy owner = r.ownedBy owner := by
  simp only [ownedBy, erase, List.filter_filter]
  congr 1
  apply List.filter_congr
  intro entry _
  by_cases own : entry.1.owner = owner
  · have apart : entry.1 ≠ key := fun heq => h (heq ▸ own)
    simp [own, apart]
  · simp [own]

/-- Registering something leaves what other connections own. -/
theorem ownedBy_insert_of_ne (h : key.owner ≠ owner) (registration : Registration H) :
    (r.insert key registration).ownedBy owner = r.ownedBy owner := by
  rw [← ownedBy_erase_of_ne r h]
  simp [ownedBy, insert, h]

/-- Emptying the slots of a connection leaves what other connections own. -/
theorem ownedBy_eraseOwner_of_ne (h : other ≠ owner) :
    (r.eraseOwner other).ownedBy owner = r.ownedBy owner := by
  simp only [ownedBy, eraseOwner, List.filter_filter]
  congr 1
  apply List.filter_congr
  intro entry _
  by_cases own : entry.1.owner = owner
  · simp [own, h.symm]
  · simp [own]

end Registry

namespace Stage

/-- A connection that there has been is gone. -/
def Lost (s : Stage E H) (id : ConnectionId) : Prop :=
  id.number ≤ s.world.connections ∧ ∀ x ∈ s.held, x.id ≠ id

variable {s : Stage E H} {id : ConnectionId}

/-- The entries of a connection that is gone are those of one that was open when it went, and
that had been told to be closed. -/
theorem Follows.remnant {x : Connection} {base : List Entry} (h : s.Follows x base)
    (owned : s.Owned) (lost : ∀ z ∈ s.held, z.id ≠ x.id)
    (left : s.world.registry.ownedBy x.id ≠ []) :
    ∃ y d more, s.world.transcript = more ++ base ∧ x.Advances y more ∧ y.database = .ok d ∧
      s.world.target x.id = some d ∧ ToldToClose d s.world.transcript := by
  obtain ⟨y, more, transcript, advances, target, live, there⟩ := h
  have told := there.resolve_left fun hy => lost y hy advances.id_eq
  -- an entry keeps the object alive that interrupts of its owner go to
  have armed : ∃ d, s.world.target x.id = some d := by
    by_contra disarmed
    refine left (Registry.ownedBy_eq_nil_iff.mpr fun key found entry owner => ?_)
    obtain ⟨d, hd⟩ := owned key found (Registry.find?_eq_some_iff.mpr entry)
    exact disarmed ⟨d, owner ▸ hd⟩
  obtain ⟨d, armed⟩ := armed
  have handle : y.handle = some d := target.symm.trans armed
  have database : y.database = .ok d :=
    Connection.database_eq_ok_iff.mpr ⟨live.mpr (by rw [handle]; rfl), handle⟩
  exact ⟨y, d, more, transcript, advances, database, armed, told.2 d database⟩

/-- The engine has not agreed to close an object that interrupts still go to, if it hands out no
object twice. -/
theorem Unspoiled.refuses (h : s.Unspoiled) {d : Database} (armed : s.world.target id = some d)
    {code : Int32} (told : .called (.closeV2 d) code ∈ s.world.transcript) : code ≠ 0 := by
  rintro rfl
  exact (h.armed id d armed).1 (gone_of_closes told rfl)

end Stage

/-- Nothing touches the entries of a connection that is gone, and it does not come back. -/
theorem Move.lost {s s' : Stage E H} {id : ConnectionId} (move : Move s s') (h : s.Lost id) :
    s'.Lost id ∧ s'.world.registry.ownedBy id = s.world.registry.ownedBy id := by
  obtain ⟨known, gone⟩ := h
  have other {x : Connection} (hx : x ∈ s.held) : x.id ≠ id := gone x hx
  refine ⟨?_, ?_⟩
  · cases move.evolves with
    | same held connections => exact ⟨connections ▸ known, held ▸ gone⟩
    | created held connections =>
      refine ⟨connections ▸ Nat.le_succ_of_le known, ?_⟩
      rw [held]
      intro x hx
      rcases Multiset.mem_cons.mp hx with rfl | hx
      · rintro rfl
        exact Nat.not_succ_le_self _ known
      · exact gone x hx
    | opened before unopened held connections
    | closed before database held connections =>
      refine ⟨connections ▸ known, ?_⟩
      rw [held]
      rw [before] at gone
      intro x hx
      have own := gone _ (Multiset.mem_cons_self _ _)
      rcases Multiset.mem_cons.mp hx with rfl | hx
      · exact own
      · exact gone x (Multiset.mem_cons_of_mem hx)
    | discarded before tried connections =>
      rw [before] at gone
      exact ⟨connections ▸ known, fun x hx => gone x (Multiset.mem_cons_of_mem hx)⟩
  · cases move with
    | @close κ w x rest d hand =>
      have hx : x ∈ κ.exclusive := hand ▸ Multiset.mem_cons_self x rest
      exact Registry.ownedBy_eraseOwner_of_ne _ (other (Stage.mem_held_of_exclusive hx))
    | installFunction hand | installBusy hand =>
      exact Registry.ownedBy_insert_of_ne _ (other (Stage.mem_held_of_shared hand)) _
    | removeFunction hand | removeBusy hand =>
      exact Registry.ownedBy_erase_of_ne _ (other (Stage.mem_held_of_shared hand))
    | _ => rfl

end EngineBridge
