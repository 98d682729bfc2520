import EngineBridge.Proofs.Custody.History
import EngineBridge.Proofs.Custody.Holding

/-!
# The busy slot

Three operations change the busy handler of a connection, and each of them can fail.
Between operations the busy slot of a connection that is open holds what these changes
have left there.  A change that fails leaves the handler as it was, with one exception: a
handler that cannot be installed has taken the place of another one by then, and leaves
nothing behind.
-/

set_option autoImplicit false

namespace EngineBridge

open Native

variable {E : Engine} {H : Host}

/-! ## The history of changes -/

variable {rule : Change → Except BindError Unit → Option Nat → Option Nat} {id : ConnectionId}
variable {log : List Entry}

/-- A change ends, and the handler is what the rule makes of it. -/
theorem handlerBy_settled (change : Change) (result : Except BindError Unit) :
    handlerBy rule id (.settled id change result :: log) =
      rule change result (handlerBy rule id log) := by
  simp [handlerBy]

/-- A change of another connection ends. -/
theorem handlerBy_settled_of_ne {other : ConnectionId} (h : other ≠ id) (change : Change)
    (result : Except BindError Unit) :
    handlerBy rule id (.settled other change result :: log) = handlerBy rule id log := by
  simp [handlerBy, h]

/-- A note leaves the handler as it is. -/
theorem handlerBy_note {entry : Entry} (h : entry.IsNote) :
    handlerBy Change.actual id (entry :: log) = handlerBy Change.actual id log := by
  cases entry with
  | settled other change result =>
    by_cases hid : other = id
    · subst hid
      rw [handlerBy_settled]
      obtain ⟨name, arity, token, rfl⟩ | ⟨name, arity, rfl⟩ := h <;> cases result <;> rfl
    · exact handlerBy_settled_of_ne hid change result
  | _ => rfl

/-- A change that comes to its end leaves the handler that is in the slot by then. -/
theorem Stage.Settles.actual {change : Change} {result : Except BindError Unit}
    {token : Option Nat} (h : Stage.Settles change result token) (before : Option Nat) :
    change.actual result before = token := by
  cases change <;> cases result <;> first | exact h.elim | exact h.symm

/-- What changes leave behind is what they should, unless a handler could not be installed
in the meantime: then there is none. -/
theorem handlerBy_actual (id : ConnectionId) (log : List Entry) :
    Disturbed id log ∧ handlerBy Change.actual id log = none ∨
      ¬ Disturbed id log ∧
        handlerBy Change.actual id log = handlerBy Change.intended id log := by
  induction log with
  | nil => exact .inr ⟨not_false, rfl⟩
  | cons entry log ih =>
    cases entry with
    | settled other change result =>
      by_cases hid : other = id
      · subst hid
        rw [handlerBy_settled, handlerBy_settled]
        cases change <;> cases result <;>
          simp_all [Disturbed, Change.actual, Change.intended]
      · rw [handlerBy_settled_of_ne hid, handlerBy_settled_of_ne hid]
        cases change <;> cases result <;> simpa [Disturbed, hid] using ih
    | _ => exact ih

/-- Changes leave behind what they should exactly if no handler should be there anyway, or
each failure to install one has been followed by a change that succeeded. -/
theorem handlerBy_actual_eq_iff (id : ConnectionId) (log : List Entry) :
    handlerBy Change.actual id log = handlerBy Change.intended id log ↔
      handlerBy Change.intended id log = none ∨ ¬ Disturbed id log := by
  rcases handlerBy_actual id log with ⟨disturbed, hnone⟩ | ⟨undisturbed, heq⟩
  · rw [hnone]
    exact ⟨fun h => .inl h.symm, fun h => (h.resolve_right (fun hn => hn disturbed)).symm⟩
  · exact ⟨fun _ => .inr undisturbed, fun _ => heq⟩

/-! ## The slot -/

/-- The slot of a function is not the busy slot. -/
theorem FunctionKey.busyHandler_ne_ofFunction (id other : ConnectionId) (name : String)
    (arity : Int32) : (⟨id, .busyHandler⟩ : FunctionKey) ≠ ⟨other, .ofFunction name arity⟩ := by
  simp [Slot.ofFunction]

namespace Stage

/-- The handler that the busy slot of a connection should hold: while a change of it is
under way, the one that the change has put there. -/
def handler (s : Stage E H) (id : ConnectionId) : Option Nat :=
  match s.custody.settling with
  | some (other, token) =>
    if other = id then token else handlerBy Change.actual id s.world.transcript
  | none => handlerBy Change.actual id s.world.transcript

/-- A connection exists and has been opened at some time. -/
def Begun (s : Stage E H) (id : ConnectionId) : Prop :=
  id.number ≤ s.world.connections ∧ ∀ x ∈ s.held, x.id = id → x.state ≠ .unopened

/-- Busy slots hold what changes have left there, and only connections that have been
opened have had any changes. -/
structure Consulted (s : Stage E H) : Prop where
  handler : ∀ id d, s.world.target id = some d → s.world.busyToken id = s.handler id
  settling : ∀ id token, s.custody.settling = some (id, token) → s.Begun id
  begun : ∀ id, handlerBy Change.actual id s.world.transcript ≠ none → s.Begun id

/-- A connection that has been opened never becomes one that has not. -/
theorem Begun.shifts {s s' : Stage E H} (h : s.Begun id) (shifts : Shifts s s') : s'.Begun id := by
  obtain ⟨counted, begun⟩ := h
  cases shifts with
  | none held connections =>
    refine ⟨connections ▸ counted, ?_⟩
    rw [held]
    exact begun
  | created held connections =>
    refine ⟨connections ▸ Nat.le_succ_of_le counted, ?_⟩
    rw [held]
    intro x hx hid
    rcases Multiset.mem_cons.mp hx with rfl | hx
    · rw [← hid] at counted
      exact absurd counted (Nat.not_succ_le_self _)
    · exact begun x hx hid
  | @changed x y rest before held hid hbegun fits connections =>
    refine ⟨connections ▸ counted, ?_⟩
    rw [held]
    intro z hz hz'
    rcases Multiset.mem_cons.mp hz with rfl | hz
    · exact hbegun
    · exact begun z (before ▸ Multiset.mem_cons_of_mem hz) hz'
  | @discarded x before connections =>
    exact ⟨connections ▸ counted, fun z hz => begun z (before ▸ Multiset.mem_cons_of_mem hz)⟩

/-- A connection that is open has been opened. -/
theorem Coherent.begun {s : Stage E H} {x : Connection} {d : Database} (h : s.Coherent)
    (hand : x ∈ s.held) (database : x.database = .ok d) : s.Begun x.id := by
  refine ⟨h.counted x hand, fun y hy hid => ?_⟩
  obtain rfl := h.eq_of_id hy hand hid
  rw [(Connection.database_eq_ok_iff.mp database).1]
  nofun

/-- A connection that is not open yet has never been opened. -/
theorem not_begun {s : Stage E H} {x : Connection} (hand : x ∈ s.held)
    (unopened : x.state = .unopened) : ¬ s.Begun x.id :=
  fun begun => begun.2 x hand rfl unopened

/-- No handler is to be in the slot of a connection that has never been opened. -/
theorem Consulted.handler_eq_none {s : Stage E H} (h : s.Consulted) (new : ¬ s.Begun id) :
    s.handler id = none := by
  have hnone : handlerBy Change.actual id s.world.transcript = none :=
    not_not.mp fun hsome => new (h.begun id hsome)
  unfold Stage.handler
  split
  · next other token settling =>
    rw [hnone, if_neg]
    rintro rfl
    exact new (h.settling other token settling)
  · exact hnone

/-- Busy slots are right as long as they are left alone and no change ends. -/
theorem Consulted.keep {s s' : Stage E H} (h : s.Consulted) (shifts : Shifts s s')
    (slots : ∀ id d, s'.world.target id = some d → s.world.target id = some d ∧
      s'.world.registry.find? ⟨id, .busyHandler⟩ = s.world.registry.find? ⟨id, .busyHandler⟩)
    (settling : s'.custody.settling = s.custody.settling)
    (unchanged : ∀ id, handlerBy Change.actual id s'.world.transcript =
      handlerBy Change.actual id s.world.transcript) : s'.Consulted where
  handler id d hd := by
    obtain ⟨live, slot⟩ := slots id d hd
    have right := h.handler id d live
    simp only [World.busyToken, Stage.handler] at right ⊢
    rw [slot, settling, unchanged]
    exact right
  settling id token hid := (h.settling id token (settling ▸ hid)).shifts shifts
  begun id hid := (h.begun id (unchanged id ▸ hid)).shifts shifts

end Stage

open Stage

/-- Moves keep busy slots right. -/
theorem Move.consulted {s s' : Stage E H} (move : Move s s') (coherent : s.Coherent)
    (owned : s.Owned) (h : s.Consulted) : s'.Consulted := by
  have shifts := move.shifts
  cases move with
  | note hn =>
    exact h.keep shifts (fun _ _ hd => ⟨hd, rfl⟩) rfl fun _ => handlerBy_note hn
  | @adopt κ w x rest d path opening hand unopened =>
    have hand' : x ∈ Stage.held (⟨κ, w⟩ : Stage E H) :=
      mem_held_of_exclusive (s := ⟨κ, w⟩) (hand ▸ Multiset.mem_cons_self x rest)
    refine ⟨fun id other hother => ?_, fun id token hid => (h.settling id token hid).shifts shifts,
      fun id hid => (h.begun id hid).shifts shifts⟩
    rcases w.of_target_arm x.id d hother with ⟨rfl, -⟩ | ⟨-, hother⟩
    · -- a connection that was not open has no handler yet, and none was asked for
      have vacant : w.registry.find? ⟨x.id, .busyHandler⟩ = none :=
        owned.vacant coherent hand' unopened _
      have hbusy : w.busyToken x.id = none := by
        simp only [World.busyToken, vacant]
      exact hbusy.trans (h.handler_eq_none (not_begun hand' unopened)).symm
    · exact h.handler id other hother
  | @close κ w x rest d hand database done =>
    refine h.keep shifts (fun id other hother => ?_) rfl fun _ => rfl
    obtain ⟨hid, live⟩ := (w.asked (.closeV2 d)).of_target_disarm x.id hother
    exact ⟨live, Registry.find?_eraseOwner_of_ne w.registry hid⟩
  | installFunction =>
    exact h.keep shifts (fun id _ hd => ⟨hd, Registry.find?_insert_of_ne _
      (FunctionKey.busyHandler_ne_ofFunction id _ _ _) _⟩) rfl fun _ => rfl
  | removeFunction =>
    exact h.keep shifts (fun id _ hd => ⟨hd, Registry.find?_erase_of_ne _
      (FunctionKey.busyHandler_ne_ofFunction id _ _ _)⟩) rfl fun _ => rfl
  | @installBusy κ w x handler d rest hand database owned idle =>
    refine ⟨fun id other hother => ?_, ?_, fun id hid => (h.begun id hid).shifts shifts⟩
    · by_cases hid : id = x.id
      · subst hid
        simp only [World.busyToken, World.withRegistry, Registry.find?_insert_self, Stage.handler,
          if_true]
      · have right := h.handler id other hother
        have hne : (⟨id, .busyHandler⟩ : FunctionKey) ≠ ⟨x.id, .busyHandler⟩ :=
          fun heq => hid (congrArg FunctionKey.owner heq)
        simp only [World.busyToken, Stage.handler, idle] at right
        simp only [World.busyToken, World.withRegistry, Registry.find?_insert_of_ne _ hne,
          Stage.handler, if_neg (Ne.symm hid)]
        exact right
    · rintro id token hid
      obtain ⟨rfl, -⟩ := Prod.mk.inj (Option.some.inj hid)
      exact (coherent.begun (mem_held_of_shared hand) database).shifts shifts
  | @removeBusy κ w x d hand database mine =>
    refine ⟨fun id other hother => ?_, ?_, fun id hid => (h.begun id hid).shifts shifts⟩
    · by_cases hid : id = x.id
      · subst hid
        simp only [World.busyToken, World.withRegistry, Registry.find?_erase_self, Stage.handler,
          if_true]
      · have right := h.handler id other hother
        have hne : (⟨id, .busyHandler⟩ : FunctionKey) ≠ ⟨x.id, .busyHandler⟩ :=
          fun heq => hid (congrArg FunctionKey.owner heq)
        -- a change that is going on is one of this connection, so it says nothing of others
        have elsewhere : Stage.handler (⟨κ, w⟩ : Stage E H) id =
            handlerBy Change.actual id w.transcript := by
          unfold Stage.handler
          split
          · next changing token settling =>
            exact if_neg fun heq => hid (heq.symm.trans (mine changing token settling))
          · rfl
        rw [elsewhere] at right
        simp only [World.busyToken] at right
        simp only [World.busyToken, World.withRegistry, Registry.find?_erase_of_ne _ hne,
          Stage.handler, if_neg (Ne.symm hid)]
        exact right
    · rintro id token hid
      obtain ⟨rfl, -⟩ := Prod.mk.inj (Option.some.inj hid)
      exact (coherent.begun (mem_held_of_shared hand) database).shifts shifts
  | @settle κ w changing token change result mine fits =>
    refine ⟨fun id other hother => ?_, by rintro _ _ ⟨⟩, fun id hid => ?_⟩
    · have right := h.handler id other hother
      simp only [Stage.handler, mine] at right
      refine right.trans ?_
      by_cases hid : changing = id
      · subst hid
        simp only [if_true, Stage.handler, World.record, handlerBy_settled, fits.actual]
      · simp only [if_neg hid, Stage.handler, World.record, handlerBy_settled_of_ne hid]
    · by_cases heq : changing = id
      · exact (h.settling id token (heq ▸ mine)).shifts shifts
      · simp only [World.record, handlerBy_settled_of_ne heq] at hid
        exact (h.begun id hid).shifts shifts
  | @refuseBusy κ w x change e hand early =>
    refine ⟨fun id d hd => ?_, fun id token hid => (h.settling id token hid).shifts shifts,
      fun id hid => (h.begun id fun hnone => hid ?_).shifts shifts⟩
    · refine (h.handler id d hd).trans ?_
      by_cases heq : x.id = id
      · subst heq
        -- a refusal leaves the slot, unless the connection is closed, and then it has no target
        have unchanged : ∀ before, change.actual (.error e) before = before := by
          intro before
          rcases early with rfl | rfl | closed
          · rfl
          · rfl
          · exact absurd ((coherent.database_iff (mem_held_of_shared hand)).mpr hd) (closed d)
        simp only [Stage.handler, World.record, handlerBy_settled, unchanged]
      · simp only [Stage.handler, World.record, handlerBy_settled_of_ne heq]
    · by_cases heq : x.id = id
      · subst heq
        simp only [World.record, handlerBy_settled, hnone]
        cases change <;> rfl
      · simp only [World.record, handlerBy_settled_of_ne heq, hnone]
  | _ => exact h.keep shifts (fun _ _ hd => ⟨hd, rfl⟩) rfl fun _ => rfl

end EngineBridge
