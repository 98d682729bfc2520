import EngineBridge.Proofs.Custody.Diagnosing
import EngineBridge.Proofs.Reentry.Replaying

/-!
# Changes of callbacks tell what they do

Every operation that puts closures into the registry or takes them out ends with an entry that
says so: a change of callbacks with its result, and the closing of a connection with its report.
By then nothing but that entry is missing from the account.  What goes on in between, such as the
closing of connections that a replaced closure owns, has been accounted for already.
-/

set_option autoImplicit false

namespace EngineBridge

open Native

variable {E : Engine} {H : Host} {w v : World E H}

/-! ## Closures that go -/

namespace World

/-- To the slots of other connections nothing happens when a connection is let go. -/
theorem recountsOn_letGo (w : World E H) (conn : Connection) (d : Database) :
    w.RecountsOn (fun key => key.owner ≠ conn.id) (w.letGo conn d) := by
  refine ⟨[.called (.closeV2 d) _, .reported (.nativeCall _)], rfl, ?_⟩
  intro key other
  have kept : (w.letGo conn d).registry.find? key = w.registry.find? key :=
    Registry.find?_eraseOwner_of_ne w.registry other
  rw [kept]
  exact .of_idle (by simp [Entry.effect])

end World

namespace Connection

variable {dispose : List (Registration H) → Bridge E H Unit}

/-- Closing a connection empties its slots, and the report of it says so. -/
theorem recounts_closeWith (recounts : ∀ regs, Bridge.Recounts (dispose regs))
    (sheds : ∀ regs, Bridge.Sheds (dispose regs)) (conn : Connection) :
    Bridge.Recounts (conn.closeWith dispose) := by
  intro w
  cases database : conn.database with
  | error e =>
    rw [closeWith_eq_of_error database]
    exact .refl w
  | ok d =>
    by_cases done : (w.announced (.closeV2 d)).answer (.closeV2 d) = (0 : Int32)
    · rw [closeWith_eq database done]
      let regs := w.registry.ownedBy conn.id
      let v : World E H := (dispose regs (w.letGo conn d)).2
      show w.Recounts (v.record (.reported (.closed conn.id regs.length)))
      have others : w.RecountsOn (fun key => key.owner ≠ conn.id) v :=
        (w.recountsOn_letGo conn d).trans ((recounts regs _).mono fun _ _ => trivial)
      apply others.complete
      · intro key own
        have own : key.owner = conn.id := by simpa using own
        have empty : v.registry.find? key = none :=
          (sheds regs _).find?_eq_none (w.find?_letGo conn d own)
        simp [Entry.effect, World.occupant, own, empty]
      · intro key other
        simp [Entry.effect, other]
    · have rest : Bridge.Recounts (do
          let e ← Bridge.diagnose (some d) .closeV2
            ((w.announced (.closeV2 d)).answer (.closeV2 d))
          pure (Except.error (BindError.engine e), conn) :
            Bridge E H (Except BindError Unit × Connection)) :=
        .of_asks (P := fun _ => True)
          (.bind (.diagnose (fun _ _ => trivial) fun _ => trivial) fun _ => .pure _)
      have call : Bridge.Recounts (Bridge.call (.closeV2 d) : Bridge E H Int32) :=
        .of_asks (P := fun _ => True) (.call trivial)
      have asked : w.Recounts ((w.announced (.closeV2 d)).asked (.closeV2 d)) := call w
      rw [closeWith_eq_of_refused database done]
      exact asked.trans (rest _)

/-- A connection that goes out of use is accounted for. -/
theorem recounts_dropWith (recounts : ∀ regs, Bridge.Recounts (dispose regs))
    (sheds : ∀ regs, Bridge.Sheds (dispose regs)) (conn : Connection) :
    Bridge.Recounts (conn.dropWith dispose) := by
  unfold dropWith
  split
  · apply (recounts_closeWith recounts sheds conn).bind
    intro r
    split
    · exact .pure _
    · exact .record fun _ => rfl
  · exact .pure _

end Connection

namespace Bridge

/-- Closures that go are accounted for, as deep as it goes. -/
theorem recounts_disposeTo (depth : Nat) (regs : List (Registration H)) :
    Recounts (disposeTo depth regs : Bridge E H Unit) := by
  induction depth generalizing regs with
  | zero => exact .pure _
  | succ depth ih =>
    unfold disposeTo
    apply Recounts.forM
    intro r
    cases r.owned with
    | none => exact .pure _
    | some conn => exact Connection.recounts_dropWith ih (sheds_disposeTo depth) conn

/-- Closures that go are accounted for. -/
theorem recounts_dispose (regs : List (Registration H)) :
    Recounts (dispose regs : Bridge E H Unit) :=
  .get_bind fun _ => recounts_disposeTo _ regs

/-- A slot that is emptied is empty afterwards, and the other slots are accounted for. -/
theorem release_recounts (key : FunctionKey) (w : World E H) :
    w.RecountsOn (· ≠ key) (release key w).2 ∧ (release key w).2.occupant key = none := by
  let erased := w.withRegistry (w.registry.erase key)
  have run : (release key w).2 = (dispose (w.registry.find? key).toList erased).2 := rfl
  have others : w.RecountsOn (· ≠ key) erased := by
    refine ⟨[], rfl, ?_⟩
    intro other hne
    have kept : erased.registry.find? other = w.registry.find? other :=
      Registry.find?_erase_of_ne w.registry hne
    rw [kept]
    exact .of_idle (by simp)
  rw [run]
  constructor
  · exact others.trans ((recounts_dispose _ erased).mono fun _ _ => trivial)
  · have empty : (dispose (w.registry.find? key).toList erased).2.registry.find? key = none :=
      (sheds_dispose _ erased).find?_eq_none (Registry.find?_erase_self w.registry key)
    simp [World.occupant, empty]

/-- A slot that is filled holds its new closure unless the connection is closed, and the other
slots are accounted for. -/
theorem register_recounts (key : FunctionKey) (r : Registration H) (w : World E H) :
    w.RecountsOn (· ≠ key) (register key r w).2 ∧
      ((register key r w).2.target key.owner ≠ none →
        (register key r w).2.registry.find? key = some r) := by
  let filled := w.withRegistry (w.registry.insert key r)
  have run : (register key r w).2 = (supersede key (w.registry.find? key) filled).2 := rfl
  have others : w.RecountsOn (· ≠ key) filled := by
    refine ⟨[], rfl, ?_⟩
    intro other hne
    have kept : filled.registry.find? other = w.registry.find? other :=
      Registry.find?_insert_of_ne w.registry hne r
    rw [kept]
    exact .of_idle (by simp)
  have recounts : Recounts (supersede key (w.registry.find? key) : Bridge E H Unit) := by
    cases w.registry.find? key with
    | none => exact .pure _
    | some other => exact .bind (.record fun _ => rfl) fun _ => recounts_dispose _
  have sheds : Sheds (supersede key (w.registry.find? key) : Bridge E H Unit) :=
    sheds_supersede key _
  rw [run]
  constructor
  · exact others.trans ((recounts filled).mono fun _ _ => trivial)
  · intro alive
    have found : filled.registry.find? key = some r := Registry.find?_insert_self w.registry key r
    rcases (sheds filled).slot key with kept | ⟨-, closed⟩
    · exact kept.trans found
    · exact absurd closed alive

end Bridge

namespace Connection

/-- Closing a connection is accounted for. -/
theorem recounts_close (conn : Connection) : Bridge.Recounts (conn.close : Bridge E H _) :=
  recounts_closeWith Bridge.recounts_dispose Bridge.sheds_dispose conn

/-- Dropping a connection is accounted for. -/
theorem recounts_drop (conn : Connection) : Bridge.Recounts (conn.drop : Bridge E H Unit) :=
  recounts_dropWith Bridge.recounts_dispose Bridge.sheds_dispose conn

end Connection

/-! ## Changes that come to their end -/

/-- By the time a change of callbacks ends, nothing is missing from the account but what the
change itself leaves in its slot, which is the closure that it was given, or nothing. -/
def Accomplishes (id : ConnectionId) (change : Change) (given : Option (Registration H))
    (result : Except BindError Unit) (w v : World E H) : Prop :=
  match change.outcome result with
  | none => w.Recounts v
  | some (slot, occupant) =>
    w.RecountsOn (· ≠ ⟨id, slot⟩) v ∧ v.occupant ⟨id, slot⟩ = occupant ∧
      (occupant.isSome → v.registry.find? ⟨id, slot⟩ = given)

variable {given : Option (Registration H)}

/-- The entry that a change ends with makes the account complete. -/
theorem Accomplishes.settled {id : ConnectionId} {change : Change} {result : Except BindError Unit}
    (h : Accomplishes id change given result w v) :
    w.Recounts (v.record (.settled id change result)) := by
  unfold Accomplishes at h
  cases outcome : change.outcome result with
  | none =>
    rw [outcome] at h
    apply World.RecountsOn.record h
    intro key _
    exact Entry.effect_settled_of_none outcome
  | some left =>
    obtain ⟨slot, occupant⟩ := left
    rw [outcome] at h
    obtain ⟨others, own, -⟩ := h
    apply others.complete
    · intro key hkey
      obtain rfl : key = ⟨id, slot⟩ := by simpa using hkey
      rw [own]
      exact Entry.effect_settled outcome
    · intro key hkey
      exact Entry.effect_settled_of_ne outcome hkey

/-- A slot that a change has filled holds the closure that the change was given. -/
theorem Accomplishes.filled {id : ConnectionId} {change : Change} {result : Except BindError Unit}
    (h : Accomplishes id change given result w v) {slot : Slot} {occupant : Occupant}
    (outcome : change.outcome result = some (slot, some occupant)) :
    v.registry.find? ⟨id, slot⟩ = given := by
  unfold Accomplishes at h
  rw [outcome] at h
  exact h.2.2 rfl

namespace Fallible

/-- A change of callbacks is accounted for if its operation accomplishes it. -/
theorem recounts_noted (given : Option (Registration H)) {id : ConnectionId} {change : Change}
    {operation : Fallible E H Unit}
    (h : ∀ result v, operation.run.run (w.record (.requested id change)) = (result, v) →
      Accomplishes id change given result (w.record (.requested id change)) v) :
    w.Recounts ((noted id change operation).run.run w).2 := by
  rcases run : operation.run.run (w.record (.requested id change)) with ⟨result, v⟩
  rw [noted_run run]
  have requested : w.Recounts (w.record (.requested id change)) :=
    .of_quiet (.record w fun _ => rfl)
  exact requested.trans (h result v run).settled

/-- A call of which nothing but success is taken is quiet, and fails with an engine error. -/
theorem succeed_cases {database : Option Database} {c : Call}
    {code : c.Answer → Int32} {result : Except BindError Unit}
    (run : (succeed database c code : Fallible E H Unit).run.run w = (result, v)) :
    w.Quiet v ∧ (result = .ok () ∨ ∃ e, result = .error (.engine e)) := by
  have asks : Asks (fun _ => True) (succeed database c code : Fallible E H Unit).run :=
    Asks.run_succeed trivial (fun _ _ => trivial) fun _ _ => trivial
  have quiet : w.Quiet ((succeed database c code).run.run w).2 := (asks w).quiet
  rw [run] at quiet
  refine ⟨quiet, ?_⟩
  by_cases done : code ((w.announced c).answer c) = 0
  · have succeeded := succeed_run database c code done
    exact .inl (congrArg Prod.fst (run.symm.trans succeeded))
  · have failed := succeed_run_error database c code done
    exact .inr ⟨_, congrArg Prod.fst (run.symm.trans failed)⟩

end Fallible

namespace Connection

variable {conn : Connection}

/-- A slot is emptied after the engine has agreed, and stays as it is if it has not. -/
theorem recounts_noted_release {P : Call → Prop} {change : Change} {slot : Slot}
    {m : Fallible E H Unit} (asks : Asks P m.run)
    (emptied : change.outcome (.ok ()) = some (slot, none))
    (refused : ∀ e, change.outcome (.error e) = none) :
    Bridge.Recounts (Fallible.noted conn.id change
      (m >>= fun _ => Fallible.lift (Bridge.release ⟨conn.id, slot⟩))).run := by
  intro w
  apply Fallible.recounts_noted none
  intro result v run
  let w₀ := w.record (.requested conn.id change)
  have quiet : w₀.Quiet (m.run.run w₀).2 := (asks w₀).quiet
  rcases asked : m.run.run w₀ with ⟨answer, w₁⟩
  rw [asked] at quiet
  cases answer with
  | error e =>
    have stopped : (m >>= fun _ => Fallible.lift (Bridge.release ⟨conn.id, slot⟩)).run.run w₀ =
        (.error e, w₁) := by
      rw [ExceptT.run_bind, Bridge.run_bind_of_run asked]
      rfl
    cases stopped.symm.trans run
    unfold Accomplishes
    rw [refused e]
    exact .of_quiet quiet
  | ok =>
    have released := Fallible.run_bind_of_run (f := fun _ =>
      Fallible.lift (Bridge.release ⟨conn.id, slot⟩)) asked
    obtain ⟨rfl, rfl⟩ := Prod.mk.inj (released.symm.trans run)
    obtain ⟨others, empty⟩ := Bridge.release_recounts ⟨conn.id, slot⟩ w₁
    unfold Accomplishes
    rw [show change.outcome _ = some (slot, none) from emptied]
    exact ⟨(World.RecountsOn.of_quiet quiet).trans others, empty, nofun⟩

/-- What has to be asked before a busy slot is emptied. -/
theorem asks_liveSucceed {c : Database → Call} {code : (d : Database) → (c d).Answer → Int32}
    (columnless : ∀ d, (c d).Columnless) :
    Asks Call.Columnless (conn.live >>= fun d => Fallible.succeed (some d) (c d) (code d) :
      Fallible E H Unit).run :=
  Asks.run_bind (Asks.run_ofExcept _) fun d =>
    Asks.run_succeed (columnless d) (fun _ _ => rfl) fun _ _ => rfl

/-- Setting a timeout is accounted for: it takes the place of a busy handler. -/
theorem recounts_busyTimeout (ms : UInt32) :
    Bridge.Recounts (conn.busyTimeout ms : Fallible E H Unit).run := by
  unfold busyTimeout setBusyTimeout
  rw [← bind_assoc]
  exact recounts_noted_release (asks_liveSucceed fun _ => rfl) rfl fun _ => rfl

/-- Taking the busy handler away is accounted for. -/
theorem recounts_clearBusyHandler :
    Bridge.Recounts (conn.clearBusyHandler : Fallible E H Unit).run := by
  unfold clearBusyHandler uninstallBusyHandler
  rw [← bind_assoc]
  exact recounts_noted_release (asks_liveSucceed fun _ => rfl) rfl fun _ => rfl

/-- Removing a function is accounted for. -/
theorem recounts_removeFunction (name : String) (arity : Int32) :
    Bridge.Recounts (conn.removeFunction name arity : Fallible E H Unit).run := by
  let dropped : Fallible E H Unit := do
    let d ← conn.live
    let text ← Fallible.ofExcept .ofCodec (CString.ofText name)
    Fallible.succeed (some d) (.createFunctionV2 d text arity
      FunctionFlags.empty.textRepresentation none false false false false) (·)
  have parts : conn.uninstallFunction name arity = dropped >>= fun _ =>
      Fallible.lift (Bridge.release ⟨conn.id, .ofFunction name arity⟩) := by
    simp only [dropped, uninstallFunction, bind_assoc]
  have asks : Asks (fun _ => True) dropped.run :=
    Asks.run_bind (Asks.run_ofExcept _) fun _ => Asks.run_bind (Asks.run_ofExcept _) fun _ =>
      Asks.run_succeed trivial (fun _ _ => trivial) fun _ _ => trivial
  unfold removeFunction
  rw [parts]
  exact recounts_noted_release asks rfl fun _ => rfl

/-- A busy handler is in its slot afterwards, or has left it again, or the connection was not
open. -/
theorem accomplishes_installBusyHandler {handler : Closure H.Handler}
    {result : Except BindError Unit}
    (run : (conn.installBusyHandler handler).run.run w = (result, v))
    (alive : ∀ d, conn.database = .ok d → v.target conn.id ≠ none) :
    Accomplishes conn.id (.registerBusyHandler handler.token) (some (.busy handler)) result w v := by
  unfold installBusyHandler at run
  cases database : conn.database with
  | error e =>
    rw [database] at run
    have gone : (Fallible.lift (Bridge.dispose [.busy handler]) >>= fun _ => throw (.state e) :
        Fallible E H Unit).run.run w =
          (.error (.state e), (Bridge.dispose [.busy handler] w).2) := rfl
    cases gone.symm.trans run
    exact Bridge.recounts_dispose [.busy handler] w
  | ok d =>
    rw [database] at run
    let key : FunctionKey := ⟨conn.id, .busyHandler⟩
    let c : Call := .busyHandler d true conn.id.number
    obtain ⟨others, own⟩ := Bridge.register_recounts key (.busy handler) w
    let w₁ := (Bridge.register key (.busy handler) w).2
    rcases asked : (Fallible.succeed (some d) c (·) : Fallible E H Unit).run.run w₁ with
      ⟨answer, w₂⟩
    obtain ⟨quiet, answered⟩ := Fallible.succeed_cases asked
    have before : w.RecountsOn (· ≠ key) w₂ := others.trans (.of_quiet quiet)
    have caught : (tryCatch (Fallible.succeed (some d) c (·)) fun e => do
        Fallible.lift (Bridge.release key)
        throw e : Fallible E H Unit).run.run w₁ = (result, v) := run
    rw [ExceptT.run_tryCatch, Bridge.run_bind_of_run asked] at caught
    rcases answered with rfl | ⟨e, rfl⟩
    · cases caught
      -- the handler that was replaced may own this very connection, and close it as it goes
      have target : v.target conn.id = w₁.target conn.id := by
        unfold World.target
        rw [quiet.armed]
      have filled : v.registry.find? key = some (.busy handler) := by
        rw [quiet.registry]
        apply own
        rw [← target]
        exact alive d database
      exact ⟨before, congrArg (Option.map Registration.occupant) filled, fun _ => filled⟩
    · cases caught
      obtain ⟨after, empty⟩ := Bridge.release_recounts key w₂
      exact ⟨before.trans after, empty, nofun⟩

/-- What becomes of a busy handler that is registered is accounted for, unless the connection,
open before, is closed by the end. -/
theorem recounts_registerBusyHandler {handler : Closure H.Handler}
    (alive : ∀ d, conn.database = .ok d →
      ((conn.registerBusyHandler handler).run.run w).2.target conn.id ≠ none) :
    w.Recounts ((conn.registerBusyHandler handler).run.run w).2 := by
  apply Fallible.recounts_noted (some _)
  intro result v run
  apply accomplishes_installBusyHandler run
  have whole := Fallible.noted_run run
  unfold registerBusyHandler at alive
  rw [whole] at alive
  exact alive

/-- A user function is in its slot afterwards, or has gone. -/
theorem accomplishes_installFunction {name : String} {arity : Int32} {flags : FunctionFlags}
    {function : Closure H.Function} {result : Except BindError Unit}
    (run : (conn.installFunction name arity flags function).run.run w = (result, v))
    (alive : ∀ d, conn.database = .ok d → v.target conn.id ≠ none) :
    Accomplishes conn.id (.registerFunction name arity function.token) (some (.function function))
      result w v := by
  let key : FunctionKey := ⟨conn.id, .ofFunction name arity⟩
  have quiet : w.Quiet ((conn.announceFunction name arity flags).run.run w).2 :=
    (asks_announceFunction name arity flags w).quiet
  unfold installFunction at run
  rcases announced : (conn.announceFunction name arity flags).run.run w with ⟨answer, w₁⟩
  rw [announced] at quiet
  rw [ExceptT.run_bind, ExceptT.run_tryCatch, bind_assoc,
    Bridge.run_bind_of_run announced] at run
  cases answer with
  | ok =>
    cases run
    have opened : ∃ d, conn.database = .ok d := by
      unfold announceFunction live at announced
      cases database : conn.database with
      | ok d => exact ⟨d, rfl⟩
      | error e =>
        rw [database] at announced
        cases announced
    obtain ⟨d, database⟩ := opened
    obtain ⟨others, own⟩ := Bridge.register_recounts key (.function function) w₁
    have before : w.RecountsOn (· ≠ key) w₁ := .of_quiet quiet
    have filled := own (alive d database)
    exact ⟨before.trans others, congrArg (Option.map Registration.occupant) filled,
      fun _ => filled⟩
  | error e =>
    cases run
    have before : w.Recounts w₁ := .of_quiet quiet
    exact before.trans (Bridge.recounts_dispose [.function function] w₁)

/-- What becomes of a user function that is registered is accounted for, unless the connection,
open before, is closed by the end. -/
theorem recounts_registerFunction {name : String} {arity : Int32} {flags : FunctionFlags}
    {function : Closure H.Function}
    (alive : ∀ d, conn.database = .ok d →
      ((conn.registerFunction name arity flags function).run.run w).2.target conn.id ≠ none) :
    w.Recounts ((conn.registerFunction name arity flags function).run.run w).2 := by
  apply Fallible.recounts_noted (some _)
  intro result v run
  apply accomplishes_installFunction run
  have whole := Fallible.noted_run run
  unfold registerFunction at alive
  rw [whole] at alive
  exact alive

end Connection

end EngineBridge
