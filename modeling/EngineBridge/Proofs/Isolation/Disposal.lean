import EngineBridge.Proofs.Custody.Closing

/-!
# How deep disposal goes

Closures that go can take connections along, and these take along their closures.  How deep
this may go is bounded by the size of the registry, and any other bound above that size gives
the same: the registry is smaller with every connection that has closures.
-/

set_option autoImplicit false

namespace EngineBridge

open Native

variable {E : Engine} {H : Host} {α β : Type}

/-- Computations that do the same at first, and then go on to do the same. -/
theorem Bridge.bind_congr {m m' : Bridge E H α} {f f' : α → Bridge E H β} {w : World E H}
    (h : m w = m' w) (next : f (m' w).1 (m' w).2 = f' (m' w).1 (m' w).2) :
    (m >>= f) w = (m' >>= f') w := by
  show f (m w).1 (m w).2 = f' (m' w).1 (m' w).2
  rw [h, next]

/-- A computation puts nothing into the registry. -/
def Bridge.Shrinks (m : Bridge E H α) : Prop :=
  ∀ w : World E H, (m w).2.registry.size ≤ w.registry.size

namespace Bridge.Shrinks

/-- A value that is just given registers nothing. -/
theorem pure (a : α) : Bridge.Shrinks (Pure.pure a : Bridge E H α) := fun _ => Nat.le_refl _

/-- A sequence registers nothing if its parts do not. -/
theorem bind {m : Bridge E H α} {f : α → Bridge E H β} (h : Bridge.Shrinks m)
    (next : ∀ a, Bridge.Shrinks (f a)) : Bridge.Shrinks (m >>= f) :=
  fun w => Nat.le_trans (next _ _) (h w)

/-- Noting an entry registers nothing. -/
theorem record (entry : Entry) : Bridge.Shrinks (Bridge.record entry : Bridge E H Unit) :=
  fun _ => Nat.le_refl _

/-- Calls register nothing. -/
theorem of_asks {m : Bridge E H α} (h : Asks (fun _ => True) m) : Bridge.Shrinks m := by
  intro w
  rw [(h w).registry_eq]

end Bridge.Shrinks

namespace Connection

variable {dispose dispose' : List (Registration H) → Bridge E H Unit} (conn : Connection)

/-- Closing a connection registers nothing, if the disposal of its closures does not. -/
theorem shrinks_closeWith (shrinks : ∀ regs, Bridge.Shrinks (dispose regs)) :
    Bridge.Shrinks (conn.closeWith dispose) := by
  unfold closeWith
  cases conn.database with
  | error e => exact .pure _
  | ok d =>
    have erased : Bridge.Shrinks (modifyGet fun w : World E H =>
        (w.registry.ownedBy conn.id, { w with registry := w.registry.eraseOwner conn.id }) :
          Bridge E H (List (Registration H))) :=
      fun w => List.length_filter_le _ w.registry.entries
    have disarmed : Bridge.Shrinks (Bridge.disarm conn.id : Bridge E H Unit) :=
      fun _ => Nat.le_refl _
    refine .bind (.of_asks (Asks.call trivial)) fun code => ?_
    split
    · refine disarmed.bind fun _ => erased.bind fun released => ?_
      refine .bind (shrinks released) fun _ => ?_
      exact .bind (.record _) fun _ => .pure _
    · exact .of_asks (.bind (.diagnose (fun _ _ => trivial) fun _ => trivial) fun _ => .pure _)

/-- A connection that goes out of use registers nothing, if the disposal of its closures does
not. -/
theorem shrinks_dropWith (shrinks : ∀ regs, Bridge.Shrinks (dispose regs)) :
    Bridge.Shrinks (conn.dropWith dispose) := by
  unfold dropWith
  split
  · refine .bind (shrinks_closeWith conn shrinks) fun r => ?_
    split
    · exact .pure _
    · exact .record _
  · exact .pure _

/-- Two ways to let closures go do the same while the registry is smaller than `bound`. -/
abbrev SameBelow (bound : Nat) (dispose dispose' : List (Registration H) → Bridge E H Unit) :
    Prop :=
  ∀ regs (w : World E H), regs = [] ∨ w.registry.size < bound → dispose regs w = dispose' regs w

/-- Closing is the same for two ways to let closures go that are the same for a registry of its
size. -/
theorem closeWith_congr {bound : Nat} (same : SameBelow bound dispose dispose') {w : World E H}
    (small : w.registry.size ≤ bound) :
    conn.closeWith dispose w = conn.closeWith dispose' w := by
  cases database : conn.database with
  | error e => rw [closeWith_eq_of_error database, closeWith_eq_of_error database]
  | ok d =>
    by_cases done : (w.announced (.closeV2 d)).answer (.closeV2 d) = (0 : Int32)
    · have size := Registry.size_eraseOwner w.registry conn.id
      have released : dispose (w.registry.ownedBy conn.id) (w.letGo conn d) =
          dispose' (w.registry.ownedBy conn.id) (w.letGo conn d) := by
        -- either the connection has no closures, or the registry is smaller without them
        refine same _ _ (size.imp (·.1) fun hlt => ?_)
        show (w.registry.eraseOwner conn.id).size < bound
        omega
      have run (dispose : List (Registration H) → Bridge E H Unit) :
          conn.closeWith dispose w = _ := closeWith_eq database done
      rw [run, run]
      exact Bridge.bind_congr released rfl
    · rw [closeWith_eq_of_refused database done, closeWith_eq_of_refused database done]

/-- Going out of use is the same for two ways to let closures go that are the same for a registry of
its size. -/
theorem dropWith_congr {bound : Nat} (same : SameBelow bound dispose dispose') {w : World E H}
    (small : w.registry.size ≤ bound) :
    conn.dropWith dispose w = conn.dropWith dispose' w := by
  have closed := closeWith_congr conn same small
  unfold dropWith
  split
  · exact Bridge.bind_congr closed rfl
  · rfl

end Connection

namespace Bridge

/-- Letting closures go registers nothing, however deep they are nested. -/
theorem shrinks_disposeTo (depth : Nat) (regs : List (Registration H)) :
    Shrinks (disposeTo depth regs : Bridge E H Unit) := by
  induction depth generalizing regs with
  | zero => exact .pure _
  | succ depth ih =>
    unfold disposeTo
    induction regs with
    | nil => exact .pure _
    | cons r regs others =>
      rw [List.forM_eq_forM, List.forM_cons]
      refine .bind ?_ fun _ => others
      cases r.owned with
      | none => exact .pure _
      | some conn => exact conn.shrinks_dropWith ih

/-- A bound above the size of the registry is as good as any other one. -/
theorem disposeTo_congr (n m : Nat) (regs : List (Registration H)) (w : World E H)
    (hn : regs = [] ∨ w.registry.size < n) (hm : regs = [] ∨ w.registry.size < m) :
    (disposeTo n regs : Bridge E H Unit) w = disposeTo m regs w := by
  induction n generalizing m regs w with
  | zero =>
    obtain rfl : regs = [] := hn.resolve_right (Nat.not_lt_zero _)
    cases m <;> rfl
  | succ n ih =>
    cases m with
    | zero =>
      obtain rfl : regs = [] := hm.resolve_right (Nat.not_lt_zero _)
      rfl
    | succ m =>
      induction regs generalizing w with
      | nil => rfl
      | cons r regs others =>
        have hn : w.registry.size ≤ n := Nat.le_of_lt_succ (hn.resolve_left (List.cons_ne_nil _ _))
        have hm : w.registry.size ≤ m := Nat.le_of_lt_succ (hm.resolve_left (List.cons_ne_nil _ _))
        unfold disposeTo at others ⊢
        rw [List.forM_eq_forM, List.forM_cons, List.forM_cons]
        cases r.owned with
        | none => exact others w (.inr (by omega)) (.inr (by omega))
        | some conn =>
          -- closing the connection takes something out of the registry before it goes on
          have same : Connection.SameBelow (min n m) (disposeTo n)
              (disposeTo m : _ → Bridge E H Unit) :=
            fun regs w h => ih m regs w (h.imp_right (by omega)) (h.imp_right (by omega))
          have dropped : conn.dropWith (disposeTo n) w = conn.dropWith (disposeTo m) w :=
            conn.dropWith_congr same (by omega)
          have size : (conn.dropWith (disposeTo n) w).2.registry.size ≤ w.registry.size :=
            conn.shrinks_dropWith (shrinks_disposeTo n) w
          have rest := others (conn.dropWith (disposeTo n) w).2 (.inr (by omega)) (.inr (by omega))
          rw [dropped] at rest
          exact bind_congr dropped rest

/-- Letting closures go with any bound above the size of the registry. -/
theorem dispose_eq {depth : Nat} {w : World E H} (deep : w.registry.size < depth)
    (regs : List (Registration H)) :
    (dispose regs : Bridge E H Unit) w = disposeTo depth regs w :=
  disposeTo_congr _ _ regs w (.inr (Nat.lt_succ_self _)) (.inr deep)

end Bridge

end EngineBridge
