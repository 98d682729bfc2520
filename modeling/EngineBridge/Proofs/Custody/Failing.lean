import EngineBridge.Proofs.Custody.Closing
import EngineBridge.Proofs.Custody.Holding

/-!
# What failures leave behind

A change of callbacks that fails leaves the registry as it was, except where it lets
closures go: these take along the connections that they own, and with them the entries of
these connections.
-/

set_option autoImplicit false

namespace EngineBridge

open Native

variable {E : Engine} {H : Host} {α β : Type} {w w' w₁ w₂ : World E H}

/-! ## Closures that go -/

/-- Connections have been closed, and nothing else has happened to the registry: a slot is as
it was, or it is empty and its connection is closed. -/
structure World.Sheds (w w' : World E H) : Prop where
  target : ∀ id, w'.target id = w.target id ∨ w'.target id = none
  slot : ∀ key, w'.registry.find? key = w.registry.find? key ∨
    w'.registry.find? key = none ∧ w'.target key.owner = none

namespace World.Sheds

/-- What has happened to neither the registry nor the connections does not matter. -/
theorem of_eq (registry : w'.registry = w.registry) (target : w'.target = w.target) :
    w.Sheds w' :=
  ⟨fun _ => .inl (by rw [target]), fun _ => .inl (by rw [registry])⟩

/-- A registry that has shed something twice has shed both. -/
theorem trans (h : w.Sheds w₁) (h' : w₁.Sheds w₂) : w.Sheds w₂ where
  target id := by
    rcases h'.target id with heq | hnone
    · rw [heq]
      exact h.target id
    · exact .inr hnone
  slot key := by
    rcases h'.slot key with heq | hnone
    · rw [heq]
      refine (h.slot key).imp_right fun ⟨hfind, htarget⟩ => ⟨hfind, ?_⟩
      rcases h'.target key.owner with heq | hnone
      · rw [heq]
        exact htarget
      · exact hnone
    · exact .inr hnone

/-- A slot that was empty stays empty. -/
theorem find?_eq_none (h : w.Sheds w') {key : FunctionKey}
    (empty : w.registry.find? key = none) : w'.registry.find? key = none := by
  rcases h.slot key with heq | ⟨hnone, -⟩
  · rw [heq, empty]
  · exact hnone

end World.Sheds

/-- Asking leaves what interrupts go to alone. -/
theorem AskedBy.target_eq {P : Call → Prop} (h : AskedBy P w w') : w'.target = w.target := by
  induction h with
  | refl => rfl
  | tail _ step ih =>
    obtain ⟨other, -, rfl⟩ | ⟨c, -, rfl⟩ := step
    · exact ih
    · exact ih

/-- Asking closes nothing. -/
theorem AskedBy.sheds {P : Call → Prop} (h : AskedBy P w w') : w.Sheds w' :=
  .of_eq h.registry_eq h.target_eq

/-- A connection that is closed has nothing in its slots. -/
theorem World.find?_letGo (w : World E H) (conn : Connection) (d : Database) {key : FunctionKey}
    (own : key.owner = conn.id) : (w.letGo conn d).registry.find? key = none := by
  have erased := Registry.find?_eraseOwner_self w.registry key
  rw [own] at erased
  exact erased

/-- A connection that is closed loses its entries, and nothing else is lost. -/
theorem World.sheds_letGo (w : World E H) (conn : Connection) (d : Database) :
    w.Sheds (w.letGo conn d) := by
  have target (id : ConnectionId) : (w.letGo conn d).target id =
      if id = conn.id then none else w.target id := World.target_disarm _ _
  constructor
  · intro id
    rw [target]
    split
    · exact .inr rfl
    · exact .inl rfl
  · intro key
    by_cases hid : key.owner = conn.id
    · exact .inr ⟨w.find?_letGo conn d hid, by rw [target, if_pos hid]⟩
    · exact .inl (Registry.find?_eraseOwner_of_ne w.registry hid)

/-- A computation closes connections and does nothing else to the registry. -/
def Bridge.Sheds (m : Bridge E H α) : Prop := ∀ w : World E H, w.Sheds (m w).2

namespace Bridge.Sheds

/-- A value that is just given puts nothing into the registry. -/
theorem pure (a : α) : Bridge.Sheds (Pure.pure a : Bridge E H α) := fun _ => .of_eq rfl rfl

/-- A sequence only sheds if its parts do. -/
theorem bind {m : Bridge E H α} {f : α → Bridge E H β} (h : Bridge.Sheds m)
    (next : ∀ a, Bridge.Sheds (f a)) : Bridge.Sheds (m >>= f) :=
  fun w => (h w).trans (next _ _)

/-- Taking a note closes nothing. -/
theorem record (entry : Entry) : Bridge.Sheds (Bridge.record entry : Bridge E H Unit) :=
  fun _ => .of_eq rfl rfl

/-- Asking closes nothing. -/
theorem of_asks {P : Call → Prop} {m : Bridge E H α} (h : Asks P m) : Bridge.Sheds m :=
  fun w => (h w).sheds

end Bridge.Sheds

namespace Connection

variable {dispose : List (Registration H) → Bridge E H Unit}

/-- Closing a connection closes connections. -/
theorem sheds_closeWith (sheds : ∀ regs, Bridge.Sheds (dispose regs)) (conn : Connection) :
    Bridge.Sheds (conn.closeWith dispose) := by
  intro w
  cases database : conn.database with
  | error e =>
    rw [closeWith_eq_of_error database]
    exact .of_eq rfl rfl
  | ok d =>
    by_cases done : (w.announced (.closeV2 d)).answer (.closeV2 d) = (0 : Int32)
    · have rest : Bridge.Sheds (do
          dispose (w.registry.ownedBy conn.id)
          Bridge.report (.closed conn.id (w.registry.ownedBy conn.id).length)
          pure (Except.ok (), { conn with state := .closed, handle := none }) :
            Bridge E H (Except BindError Unit × Connection)) :=
        .bind (sheds _) fun _ => .bind (.record _) fun _ => .pure _
      rw [closeWith_eq database done]
      exact (w.sheds_letGo conn d).trans (rest _)
    · have rest : Bridge.Sheds (do
          let e ← Bridge.diagnose (some d) .closeV2
            ((w.announced (.closeV2 d)).answer (.closeV2 d))
          pure (Except.error (BindError.engine e), conn) :
            Bridge E H (Except BindError Unit × Connection)) :=
        .of_asks (P := fun _ => True)
          (.bind (.diagnose (fun _ _ => trivial) fun _ => trivial) fun _ => .pure _)
      rw [closeWith_eq_of_refused database done]
      have asked : w.Sheds ((w.announced (.closeV2 d)).asked (.closeV2 d)) := .of_eq rfl rfl
      exact asked.trans (rest _)

/-- A connection that goes out of use takes along nothing but connections. -/
theorem sheds_dropWith (sheds : ∀ regs, Bridge.Sheds (dispose regs)) (conn : Connection) :
    Bridge.Sheds (conn.dropWith dispose) := by
  unfold dropWith
  split
  · refine .bind (sheds_closeWith sheds conn) fun r => ?_
    split
    · exact .pure _
    · exact .record _
  · exact .pure _

end Connection

namespace Bridge

/-- Closures that go take along nothing but connections. -/
theorem sheds_disposeTo (depth : Nat) (regs : List (Registration H)) :
    Sheds (disposeTo depth regs : Bridge E H Unit) := by
  induction depth generalizing regs with
  | zero => exact .pure _
  | succ depth ih =>
    unfold disposeTo
    induction regs with
    | nil => exact .pure _
    | cons r regs others =>
      rw [List.forM_eq_forM, List.forM_cons]
      refine .bind ?_ fun _ => others
      cases r.owned with
      | none => exact .pure _
      | some conn => exact Connection.sheds_dropWith ih conn

/-- Closures that go take along nothing but connections. -/
theorem sheds_dispose (regs : List (Registration H)) :
    Sheds (dispose regs : Bridge E H Unit) :=
  fun w => sheds_disposeTo _ regs w

/-- A closure that is replaced takes along nothing but connections. -/
theorem sheds_supersede (key : FunctionKey) (replaced : Option (Registration H)) :
    Sheds (supersede key replaced : Bridge E H Unit) := by
  cases replaced with
  | none => exact .pure _
  | some other => exact .bind (.record _) fun _ => sheds_dispose _

/-- A closure that owns nothing goes without a trace. -/
theorem dispose_run_of_none {r : Registration H} (h : r.owned = none) :
    (dispose [r]).run w = ((), w) := by
  show ((disposeTo (w.registry.size + 1) [r] : Bridge E H Unit)).run w = _
  simp only [disposeTo, List.forM_eq_forM, List.forM_cons, h]
  rfl

end Bridge

/-! ## Changes that fail -/

namespace Fallible

/-- A computation fails where its first part does, or where the rest does. -/
theorem run_bind_error {m : Fallible E H α} {f : α → Fallible E H β} {e : BindError}
    (h : (m >>= f).run.run w = (.error e, w')) : m.run.run w = (.error e, w') ∨
      ∃ a w₁, m.run.run w = (.ok a, w₁) ∧ (f a).run.run w₁ = (.error e, w') := by
  cases hm : m.run.run w with
  | mk r w₁ =>
    rw [ExceptT.run_bind] at h
    have rest := (Bridge.run_bind_of_run hm).symm.trans h
    cases r with
    | error e' =>
      obtain ⟨heq, rfl⟩ := Prod.mk.inj rest
      obtain rfl := Except.error.inj heq
      exact .inl rfl
    | ok a => exact .inr ⟨a, w₁, rfl, rest⟩

/-- A computation that cannot fail succeeds. -/
theorem lift_run_of_run {m : Bridge E H α} {a : α} (h : m.run w = (a, w')) :
    (lift m).run.run w = (.ok a, w') := by
  show (Except.ok <$> m).run w = _
  rw [StateT.run_map, h]
  rfl

/-- A failure that is handled is what the handler makes of another one. -/
theorem run_tryCatch_error {m : Fallible E H α} {f : BindError → Fallible E H α} {e : BindError}
    (h : (tryCatch m f).run.run w = (.error e, w')) :
    ∃ e' w₁, m.run.run w = (.error e', w₁) ∧ (f e').run.run w₁ = (.error e, w') := by
  cases hm : m.run.run w with
  | mk r w₁ =>
    rw [ExceptT.run_tryCatch] at h
    have rest := (Bridge.run_bind_of_run hm).symm.trans h
    cases r with
    | error e' => exact ⟨e', w₁, rfl, rest⟩
    | ok a => cases rest

/-- What succeeds although a failure would be handed on has succeeded by itself. -/
theorem run_tryCatch_ok {m : Fallible E H α} {clean : BindError → Bridge E H Unit} {a : α}
    (h : (tryCatch m fun e => do
      Fallible.lift (clean e)
      throw e : Fallible E H α).run.run w = (.ok a, w')) : m.run.run w = (.ok a, w') := by
  cases hm : m.run.run w with
  | mk r w₁ =>
    rw [ExceptT.run_tryCatch] at h
    have rest := (Bridge.run_bind_of_run hm).symm.trans h
    cases r with
    | error e => cases rest
    | ok b => exact rest

/-- A change of callbacks does what its operation does, between two notes. -/
theorem noted_run {id : ConnectionId} {change : Change} {operation : Fallible E H Unit}
    {result : Except BindError Unit}
    (h : operation.run.run (w.record (.requested id change)) = (result, w')) :
    (noted id change operation).run.run w = (result, w'.record (.settled id change result)) := by
  have requested : (lift (Bridge.record (.requested id change)) : Fallible E H Unit).run.run w =
      (.ok (), w.record (.requested id change)) := rfl
  have done : (lift operation.run).run.run (w.record (.requested id change)) = (.ok result, w') :=
    lift_run_of_run h
  unfold noted
  rw [run_bind_of_run requested, run_bind_of_run done]
  cases result <;> rfl

/-- A change of callbacks fails where what is done for it fails. -/
theorem noted_error {id : ConnectionId} {change : Change} {operation : Fallible E H Unit}
    {e : BindError} (h : (noted id change operation).run.run w = (.error e, w')) :
    ∃ w₁, operation.run.run (w.record (.requested id change)) = (.error e, w₁) ∧
      w' = w₁.record (.settled id change (.error e)) := by
  rcases run : operation.run.run (w.record (.requested id change)) with ⟨result, w₁⟩
  cases (noted_run run).symm.trans h
  exact ⟨w₁, rfl, rfl⟩

/-- A call of which nothing but success is taken leaves the registry alone. -/
theorem succeed_registry {database : Option Database} {c : Call} {code : c.Answer → Int32}
    {r : Except BindError Unit} (h : (succeed database c code).run.run w = (r, w')) :
    w'.registry = w.registry ∧ w'.target = w.target := by
  have asked : AskedBy (fun _ => True) w w' := by
    have asks : Asks (fun _ => True) (succeed database c code : Fallible E H Unit).run :=
      Asks.run_succeed trivial (fun _ _ => trivial) fun _ _ => trivial
    rw [show w' = _ from (congrArg Prod.snd h).symm]
    exact asks w
  exact ⟨asked.registry_eq, asked.target_eq⟩

/-- A conversion leaves the world alone. -/
theorem ofExcept_run {ε : Type} {convert : ε → BindError} {r : Except ε α}
    {result : Except BindError α}
    (h : (ofExcept convert r : Fallible E H α).run.run w = (result, w')) : w' = w := by
  cases r <;> exact (congrArg Prod.snd h).symm

end Fallible

namespace Connection

variable {conn : Connection} {e : BindError}

/-- A call after which a slot is emptied leaves the registry alone if it fails. -/
theorem registry_eq_of_released_error {database : Option Database} {c : Call}
    {code : c.Answer → Int32} {key : FunctionKey}
    (h : (do
      Fallible.succeed database c code
      Fallible.lift (Bridge.release key) : Fallible E H Unit).run.run w = (.error e, w')) :
    w'.registry = w.registry := by
  rcases Fallible.run_bind_error h with failed | ⟨_, w₁, -, released⟩
  · exact (Fallible.succeed_registry failed).1
  · cases released

/-- A busy timeout that cannot be set leaves the registry alone. -/
theorem registry_eq_of_busyTimeout_error {ms : UInt32}
    (h : (conn.busyTimeout ms).run.run w = (.error e, w')) : w'.registry = w.registry := by
  obtain ⟨w₁, failed, rfl⟩ := Fallible.noted_error h
  rcases Fallible.run_bind_error failed with failed | ⟨d, w₂, live, failed⟩
  · show w₁.registry = _
    rw [Fallible.ofExcept_run failed]
    rfl
  · refine (registry_eq_of_released_error failed).trans ?_
    rw [Fallible.ofExcept_run live]
    rfl

/-- A busy handler that cannot be removed stays in the registry, as everything else. -/
theorem registry_eq_of_clearBusyHandler_error
    (h : conn.clearBusyHandler.run.run w = (.error e, w')) : w'.registry = w.registry := by
  obtain ⟨w₁, failed, rfl⟩ := Fallible.noted_error h
  rcases Fallible.run_bind_error failed with failed | ⟨d, w₂, live, failed⟩
  · show w₁.registry = _
    rw [Fallible.ofExcept_run failed]
    rfl
  · refine (registry_eq_of_released_error failed).trans ?_
    rw [Fallible.ofExcept_run live]
    rfl

/-- A function that cannot be removed stays in the registry, as everything else. -/
theorem registry_eq_of_removeFunction_error {name : String} {arity : Int32}
    (h : (conn.removeFunction name arity).run.run w = (.error e, w')) :
    w'.registry = w.registry := by
  obtain ⟨w₁, failed, rfl⟩ := Fallible.noted_error h
  rcases Fallible.run_bind_error failed with failed | ⟨d, w₂, live, failed⟩
  · show w₁.registry = _
    rw [Fallible.ofExcept_run failed]
    rfl
  · rcases Fallible.run_bind_error failed with failed | ⟨text, w₃, named, failed⟩
    · refine (congrArg World.registry (Fallible.ofExcept_run failed)).trans ?_
      rw [Fallible.ofExcept_run live]
      rfl
    · refine (registry_eq_of_released_error failed).trans ?_
      rw [Fallible.ofExcept_run named, Fallible.ofExcept_run live]
      rfl

/-- A busy handler that cannot be installed leaves an empty slot behind, if the connection is
open. -/
theorem find?_of_registerBusyHandler_error {handler : Closure H.Handler} {d : Database}
    (database : conn.database = .ok d)
    (h : (conn.registerBusyHandler handler).run.run w = (.error e, w')) :
    w'.registry.find? ⟨conn.id, .busyHandler⟩ = none := by
  obtain ⟨w₁, failed, rfl⟩ := Fallible.noted_error h
  unfold installBusyHandler at failed
  rw [database] at failed
  rcases Fallible.run_bind_error failed with failed | ⟨_, w₂, -, failed⟩
  · cases failed
  · obtain ⟨e', w₃, -, failed⟩ := Fallible.run_tryCatch_error failed
    rcases Fallible.run_bind_error failed with failed | ⟨_, w₄, released, failed⟩
    · cases failed
    · have hthrow : w₁ = w₄ := (congrArg Prod.snd failed).symm
      have hreleased : w₄ = (Bridge.release ⟨conn.id, .busyHandler⟩ w₃).2 :=
        (congrArg Prod.snd released).symm
      rw [hthrow, hreleased]
      exact (Bridge.sheds_dispose _ _).find?_eq_none (Registry.find?_erase_self _ _)

/-- Having a function accepted takes nothing but calls, and none about a column. -/
theorem asks_announceFunction (name : String) (arity : Int32) (flags : FunctionFlags) :
    Asks Call.Columnless (conn.announceFunction name arity flags : Fallible E H Unit).run :=
  Asks.run_bind (Asks.run_ofExcept _) fun _ => Asks.run_bind (Asks.run_ofExcept _) fun _ =>
    Asks.run_succeed rfl (fun _ _ => rfl) fun _ _ => rfl

/-- A function that cannot be registered closes the connections that go with it, and leaves
the registry alone otherwise. -/
theorem sheds_of_registerFunction_error {name : String} {arity : Int32} {flags : FunctionFlags}
    {function : Closure H.Function}
    (h : (conn.registerFunction name arity flags function).run.run w = (.error e, w')) :
    w.Sheds w' ∧ (function.owned = none → w'.registry = w.registry) := by
  obtain ⟨w₁, failed, rfl⟩ := Fallible.noted_error h
  rcases Fallible.run_bind_error failed with failed | ⟨_, w₂, -, failed⟩
  · obtain ⟨e', w₂, announced, failed⟩ := Fallible.run_tryCatch_error failed
    have asked : AskedBy Call.Columnless (w.record (.requested conn.id
        (.registerFunction name arity function.token))) w₂ := by
      rw [show w₂ = _ from (congrArg Prod.snd announced).symm]
      exact asks_announceFunction name arity flags _
    rcases Fallible.run_bind_error failed with failed | ⟨_, w₃, disposed, failed⟩
    · cases failed
    · obtain rfl : w₁ = w₃ := (congrArg Prod.snd failed).symm
      have hdisposed : w₁ = (Bridge.dispose [.function function] w₂).2 :=
        (congrArg Prod.snd disposed).symm
      constructor
      · have going := Bridge.sheds_dispose [.function function] w₂
        rw [← hdisposed] at going
        have noted : w.Sheds (w.record (.requested conn.id
            (.registerFunction name arity function.token))) := .of_eq rfl rfl
        exact (noted.trans (asked.sheds.trans going)).trans (.of_eq rfl rfl)
      · intro howned
        have gone : w₁ = w₂ := hdisposed.trans
          (congrArg Prod.snd (Bridge.dispose_run_of_none (r := .function function) howned))
        rw [gone]
        exact asked.registry_eq
  · cases failed

end Connection

end EngineBridge
