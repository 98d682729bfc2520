import EngineBridge.Proofs.Custody.Closing

/-!
# Changing callbacks as moves

A user function enters or leaves the registry in one move with the call by which the
engine agrees.  A busy handler enters before that call and leaves after it, so that its
slot is unsettled in between; the change is noted once it is settled.
-/

set_option autoImplicit false

namespace EngineBridge

open Native

variable {E : Engine} {H : Host} {κ : Custody} {w : World E H}

namespace Leads

/-- A change of callbacks ends with a move that notes how it went. -/
theorem noted {id : ConnectionId} {change : Change} {operation : Fallible E H Unit}
    {mid : Except BindError Unit → Custody → World E H → Prop}
    {post : Except BindError Unit → Custody → Prop}
    (h : Leads Move operation.run κ (w.record (.requested id change)) mid)
    (ending : ∀ r κ₁ w₁, mid r κ₁ w₁ →
      ∃ κ', Move ⟨κ₁, w₁⟩ ⟨κ', w₁.record (.settled id change r)⟩ ∧ post r κ') :
    Leads Move (Fallible.noted id change operation).run κ w fun r κ' _ => post r κ' := by
  refine run_record_bind trivial ?_
  refine run_lift_bind h fun r κ₁ w₁ hmid => ?_
  obtain ⟨κ', move, hpost⟩ := ending r κ₁ w₁ hmid
  have noted : Leads Move (Bridge.record (.settled id change r)) κ₁ w₁ fun _ κ₂ _ => post r κ₂ :=
    single move hpost
  refine run_lift_bind noted fun _ _ _ h => ?_
  cases r <;> exact pure h

end Leads

namespace Bridge

variable {rest : Multiset Connection}

/-- A closure that has been replaced goes, and the connection that it owns. -/
theorem leads_supersede {key : FunctionKey} {replaced : Option (Registration H)}
    (hand : κ.exclusive = capturedBy replaced.toList + rest) :
    Leads Move (supersede key replaced : Bridge E H Unit) κ w
      fun _ κ' _ => κ' = { κ with exclusive := rest } := by
  cases replaced with
  | none =>
    refine Leads.pure ?_
    rw [show rest = κ.exclusive from by simp [hand, capturedBy]]
  | some r => exact Leads.record_bind trivial (leads_dispose hand)

/-- A busy handler enters the registry, in place of any other. -/
theorem leads_registerBusy {conn : Connection} {d : Database} {handler : Closure H.Handler}
    (hand : conn ∈ κ.shared) (database : conn.database = .ok d)
    (owned : κ.exclusive = capturedBy (H := H) [.busy handler] + rest)
    (idle : κ.settling = none)
    (asked : .requested conn.id (.registerBusyHandler handler.token) ∈ w.transcript) :
    Leads Move (register ⟨conn.id, .busyHandler⟩ (.busy handler) : Bridge E H Unit) κ w
      fun _ κ' _ => κ' =
        { κ with exclusive := rest, settling := some (conn.id, some handler.token) } := by
  have install := Move.installBusy (w := w) hand database owned idle asked
  exact Leads.shift (.single install) rfl (leads_supersede rfl)

/-- A busy handler leaves the registry, if there is one. -/
theorem leads_releaseBusy {conn : Connection} {d : Database} (hand : conn ∈ κ.shared)
    (database : conn.database = .ok d)
    (mine : ∀ other token, κ.settling = some (other, token) → other = conn.id) :
    Leads Move (release ⟨conn.id, .busyHandler⟩ : Bridge E H Unit) κ w
      fun _ κ' _ => κ' = { κ with settling := some (conn.id, none) } := by
  have remove := Move.removeBusy (w := w) hand database mine
  exact Leads.shift (.single remove) rfl (leads_dispose rfl)

end Bridge

namespace Connection

variable {conn : Connection} {rest : Multiset Connection}

/-- What is done with the object of a connection is done if the connection is open. -/
theorem leads_live {α : Type} {f : Database → Fallible E H α}
    {post : Except BindError α → Custody → World E H → Prop}
    (closed : ∀ e, conn.database = .error e → post (.error (.state e)) κ w)
    (opened : ∀ d, conn.database = .ok d → Leads Move (f d).run κ w post) :
    Leads Move (conn.live >>= f).run κ w post :=
  Leads.run_ofExcept_bind closed opened

/-- A call on a shared connection that the moves keep no account of. -/
theorem leads_set {d : Database} {c : Call} {code : c.Answer → Int32} (hand : conn ∈ κ.shared)
    (database : conn.database = .ok d) (within : c.Within (some d) none) :
    Leads Move (Fallible.succeed (some d) c code : Fallible E H Unit).run κ w
      fun _ κ' _ => κ' = κ := by
  have asks : Asks (Call.Within (some d) none)
      (Fallible.succeed (some d) c code : Fallible E H Unit).run := by
    refine Asks.run_succeed within ?_ (by simp)
    rintro _ ⟨⟩
    exact .of_database (fun _ => trivial) rfl
  refine (asks.leads_within ?_ (by simp)).mono fun _ _ _ h => h.1
  rintro _ ⟨⟩
  exact Custody.reaches_shared hand (handle_of_database database)

/-- The busy slot is emptied after the engine has agreed to that. -/
theorem leads_releaseAfter {d : Database} {c : Call} {code : c.Answer → Int32}
    (hand : conn ∈ κ.shared) (idle : κ.settling = none) (database : conn.database = .ok d)
    (within : c.Within (some d) none) :
    Leads Move (do
      Fallible.succeed (some d) c code
      Fallible.lift (Bridge.release ⟨conn.id, .busyHandler⟩) : Fallible E H Unit).run κ w
        fun r κ' _ => match r with
          | .ok _ => κ' = { κ with settling := some (conn.id, none) }
          | .error _ => κ' = κ := by
  refine Leads.run_bind (leads_set hand database within) ?_ ?_
  · rintro _ κ w₁ rfl
    exact Leads.run_lift (Bridge.leads_releaseBusy hand database (by simp [idle]))
  · exact fun _ _ _ h => h

/-- A change that has emptied the busy slot, or has failed before, comes to its end. -/
theorem settles_emptied {change : Change} {r : Except BindError Unit} {κ₁ : Custody}
    {w₁ : World E H} (hand : conn ∈ κ.shared) (idle : κ.settling = none)
    (empties : change = .clearBusyHandler ∨ change = .busyTimeout)
    (h : match r with
      | .ok _ => κ₁ = { κ with settling := some (conn.id, none) }
      | .error _ => κ₁ = κ) :
    ∃ κ', Move ⟨κ₁, w₁⟩ ⟨κ', w₁.record (.settled conn.id change r)⟩ ∧ κ' = κ := by
  cases r with
  | error e =>
    subst h
    exact ⟨κ₁, .refuseBusy hand (empties.imp_right .inl), rfl⟩
  | ok =>
    subst h
    refine ⟨_, .settle rfl ?_, ?_⟩
    · rcases empties with rfl | rfl <;> rfl
    · rw [← idle]

/-- A busy timeout takes the place of a busy handler, unless it is refused. -/
theorem leads_busyTimeout (ms : UInt32) (hand : conn ∈ κ.shared) (idle : κ.settling = none) :
    Leads Move (conn.busyTimeout ms : Fallible E H Unit).run κ w fun _ κ' _ => κ' = κ := by
  have changed (w : World E H) : Leads Move (conn.setBusyTimeout ms : Fallible E H Unit).run κ w
      fun r κ' _ => match r with
        | .ok _ => κ' = { κ with settling := some (conn.id, none) }
        | .error _ => κ' = κ :=
    leads_live (fun _ _ => rfl) fun d database => leads_releaseAfter hand idle database
      (.of_database (fun _ => trivial) rfl)
  exact Leads.noted (changed _) fun r κ₁ w₁ h => settles_emptied hand idle (.inr rfl) h

/-- The busy handler goes, unless the engine refuses. -/
theorem leads_clearBusyHandler (hand : conn ∈ κ.shared) (idle : κ.settling = none) :
    Leads Move (conn.clearBusyHandler : Fallible E H Unit).run κ w fun _ κ' _ => κ' = κ := by
  have changed (w : World E H) : Leads Move (conn.uninstallBusyHandler : Fallible E H Unit).run
      κ w fun r κ' _ => match r with
        | .ok _ => κ' = { κ with settling := some (conn.id, none) }
        | .error _ => κ' = κ :=
    leads_live (fun _ _ => rfl) fun d database => leads_releaseAfter hand idle database
      (.of_database (fun _ => trivial) rfl)
  exact Leads.noted (changed _) fun r κ₁ w₁ h => settles_emptied hand idle (.inl rfl) h

/-- A busy handler is in its slot, or the slot is empty because the engine has refused, or
nothing has happened because the connection is not open. -/
theorem leads_installBusyHandler {handler : Closure H.Handler} (hand : conn ∈ κ.shared)
    (owned : κ.exclusive = capturedBy (H := H) [.busy handler] + rest)
    (idle : κ.settling = none)
    (asked : .requested conn.id (.registerBusyHandler handler.token) ∈ w.transcript) :
    Leads Move (conn.installBusyHandler handler : Fallible E H Unit).run κ w
      fun r κ' _ => match r with
        | .ok _ =>
          κ' = { κ with exclusive := rest, settling := some (conn.id, some handler.token) }
        | .error _ =>
          (κ' = { κ with exclusive := rest } ∧ ∀ d, conn.database ≠ .ok d) ∨
            κ' = { κ with exclusive := rest, settling := some (conn.id, none) } := by
  unfold installBusyHandler
  cases database : conn.database with
  | error e =>
    refine Leads.run_lift_bind (Bridge.leads_dispose owned) ?_
    rintro _ _ w₁ rfl
    exact Leads.pure (.inl ⟨rfl, nofun⟩)
  | ok d =>
    refine Leads.run_lift_bind (Bridge.leads_registerBusy hand database owned idle asked) ?_
    rintro _ _ w₁ rfl
    refine Leads.run_tryCatch (leads_set hand database
      (.of_database (fun _ => trivial) rfl)) (fun _ _ _ h => h) ?_
    rintro e _ w₂ rfl
    have released := Bridge.leads_releaseBusy (w := w₂)
      (κ := { κ with exclusive := rest, settling := some (conn.id, some handler.token) })
      hand database (by simp)
    refine Leads.run_lift_bind released ?_
    rintro _ _ w₃ rfl
    exact Leads.pure (.inr rfl)

/-- A busy handler is installed or goes, and one that was there before goes in either
case, unless the connection is not open. -/
theorem leads_registerBusyHandler {handler : Closure H.Handler} (hand : conn ∈ κ.shared)
    (owned : κ.exclusive = capturedBy (H := H) [.busy handler] + rest)
    (idle : κ.settling = none) :
    Leads Move (conn.registerBusyHandler handler : Fallible E H Unit).run κ w
      fun _ κ' _ => κ' = { κ with exclusive := rest } := by
  refine Leads.noted (leads_installBusyHandler hand owned idle List.mem_cons_self) ?_
  rintro (e | _) κ₁ w₁ h
  · rcases h with ⟨rfl, closed⟩ | rfl
    · exact ⟨_, .refuseBusy hand (.inr (.inr closed)), rfl⟩
    · refine ⟨_, .settle rfl rfl, ?_⟩
      rw [← idle]
  · cases h
    refine ⟨_, .settle rfl rfl, ?_⟩
    rw [← idle]

/-- The call that announces a user function to the engine. -/
def announcing (conn : Connection) (d : Database) (text : CString) (name : String) (arity : Int32)
    (flags : FunctionFlags) : Call :=
  .createFunctionV2 d text arity flags.textRepresentation
    (some ⟨conn.id, .ofFunction name arity⟩) true false false true

/-- A call for a user function that the engine does not agree to changes nothing. -/
theorem leads_refused {d : Database} {text : CString} {arity rep : Int32}
    {context : Option FunctionKey} {scalar step final destroy : Bool} (hand : conn ∈ κ.shared)
    (database : conn.database = .ok d)
    (refused : (w.announced (.createFunctionV2 d text arity rep context scalar step final
      destroy)).answer (.createFunctionV2 d text arity rep context scalar step final destroy) ≠
        (0 : Int32)) :
    Leads Move (Fallible.succeed (some d)
        (.createFunctionV2 d text arity rep context scalar step final destroy) (·) :
          Fallible E H Unit).run κ w
      fun r κ' _ => (∃ e, r = .error e) ∧ κ' = κ := by
  have reach (w' : World E H) : Stage.Reaches ⟨κ, w'⟩ (.database d) :=
    Custody.reaches_shared hand (handle_of_database database)
  exact Leads.run_succeed (.call refused (Stage.reaches_all (reach _) rfl)) (reach _)
    (fun h => absurd h refused) fun _ _ _ _ => ⟨⟨_, rfl⟩, rfl⟩

/-- The engine either agrees to a user function, in a single call, or nothing changes. -/
theorem announceFunction_cases (name : String) (arity : Int32) (flags : FunctionFlags)
    (hand : conn ∈ κ.shared) :
    (∃ d text, conn.database = .ok d ∧ CString.ofText name = .ok text ∧
      (w.announced (announcing conn d text name arity flags)).answer
        (announcing conn d text name arity flags) = (0 : Int32) ∧
      (conn.announceFunction name arity flags : Fallible E H Unit).run.run w =
        (.ok (), (w.announced (announcing conn d text name arity flags)).asked
          (announcing conn d text name arity flags))) ∨
    Leads Move (conn.announceFunction name arity flags : Fallible E H Unit).run κ w
      fun r κ' _ => (∃ e, r = .error e) ∧ κ' = κ := by
  unfold announceFunction live
  cases database : conn.database with
  | error e => exact .inr (Leads.pure ⟨⟨_, rfl⟩, rfl⟩)
  | ok d =>
    cases named : CString.ofText name with
    | error e => exact .inr (Leads.pure ⟨⟨_, rfl⟩, rfl⟩)
    | ok text =>
      by_cases done : (w.announced (announcing conn d text name arity flags)).answer
          (announcing conn d text name arity flags) = (0 : Int32)
      · have accepted := Fallible.succeed_run (some d) (announcing conn d text name arity flags)
          (·) done
        exact .inl ⟨d, text, rfl, rfl, done, accepted⟩
      · exact .inr (leads_refused hand database done)

/-- A user function enters the registry as the engine agrees, and goes if it does not. -/
theorem leads_installFunction {name : String} {arity : Int32} {flags : FunctionFlags}
    {function : Closure H.Function} {earlier : List Entry} (hand : conn ∈ κ.shared)
    (owned : κ.exclusive = capturedBy [.function function] + rest)
    (asked : w.transcript =
      .requested conn.id (.registerFunction name arity function.token) :: earlier) :
    Leads Move (conn.installFunction name arity flags function : Fallible E H Unit).run κ w
      fun _ κ' _ => κ' = { κ with exclusive := rest } := by
  unfold installFunction
  rcases announceFunction_cases (w := w) name arity flags hand with
    ⟨d, text, database, named, done, announced⟩ | refused
  · -- the call and the entry into the registry are one move
    have announce : Move ⟨κ, w⟩ ⟨κ, w.announced (announcing conn d text name arity flags)⟩ :=
      .note trivial
    have asked' : (w.announced (announcing conn d text name arity flags)).transcript =
        .reported (.nativeCall .createFunctionV2) ::
          .requested conn.id (.registerFunction name arity function.token) :: earlier :=
      congrArg (_ :: ·) asked
    have install := Move.installFunction hand database named owned asked' done
    refine Leads.shift (n := (Fallible.lift (Bridge.supersede ⟨conn.id, .ofFunction name arity⟩
      (w.registry.find? ⟨conn.id, .ofFunction name arity⟩)) : Fallible E H Unit).run)
        (.head announce (.single install)) ?_ (Leads.run_lift (Bridge.leads_supersede rfl))
    have caught : (tryCatch (conn.announceFunction name arity flags) fun e => do
        Fallible.lift (Bridge.dispose [.function function])
        throw e : Fallible E H Unit).run.run w =
          (.ok (), (w.announced (announcing conn d text name arity flags)).asked
            (announcing conn d text name arity flags)) := by
      rw [ExceptT.run_tryCatch]
      exact Bridge.run_bind_of_run announced
    exact Fallible.run_bind_of_run caught
  · have caught : Leads Move (tryCatch (conn.announceFunction name arity flags) fun e => do
        Fallible.lift (Bridge.dispose [.function function])
        throw e : Fallible E H Unit).run κ w fun r κ' _ =>
          (∃ e, r = .error e) ∧ κ' = { κ with exclusive := rest } := by
      refine Leads.run_tryCatch refused ?_ ?_
      · rintro _ _ _ ⟨⟨e, ⟨⟩⟩, -⟩
      · rintro e κ w₁ ⟨-, rfl⟩
        refine Leads.run_lift_bind (Bridge.leads_dispose owned) ?_
        rintro _ _ w₂ rfl
        exact Leads.pure ⟨⟨e, rfl⟩, rfl⟩
    refine Leads.run_bind caught ?_ fun _ _ _ h => h.2
    rintro _ _ _ ⟨⟨e, ⟨⟩⟩, -⟩

/-- A user function is in its slot, or goes and nothing else has changed. -/
theorem leads_registerFunction {name : String} {arity : Int32} {flags : FunctionFlags}
    {function : Closure H.Function} (hand : conn ∈ κ.shared)
    (owned : κ.exclusive = capturedBy [.function function] + rest) :
    Leads Move (conn.registerFunction name arity flags function : Fallible E H Unit).run κ w
      fun _ κ' _ => κ' = { κ with exclusive := rest } := by
  refine Leads.noted (leads_installFunction hand owned rfl) ?_
  rintro r _ w₁ rfl
  exact ⟨_, .note (.inl ⟨name, arity, function.token, rfl⟩), rfl⟩

/-- A user function leaves the registry as the engine agrees. -/
theorem leads_uninstallFunction (name : String) (arity : Int32) (hand : conn ∈ κ.shared) :
    Leads Move (conn.uninstallFunction name arity : Fallible E H Unit).run κ w
      fun _ κ' _ => κ' = κ := by
  unfold uninstallFunction
  refine leads_live (fun _ _ => rfl) fun d database => ?_
  cases named : CString.ofText name with
  | error e => exact Leads.pure rfl
  | ok text =>
    let c : Call := .createFunctionV2 d text arity FunctionFlags.empty.textRepresentation none
      false false false false
    by_cases done : (w.announced c).answer c = (0 : Int32)
    · -- the call and the departure from the registry are one move
      have announce : Move ⟨κ, w⟩ ⟨κ, w.announced c⟩ := .note trivial
      have remove := Move.removeFunction hand database named done
      refine Leads.shift (n := (Fallible.lift (Bridge.dispose
        (w.registry.find? ⟨conn.id, .ofFunction name arity⟩).toList) : Fallible E H Unit).run)
          (.head announce (.single remove)) ?_ (Leads.run_lift (Bridge.leads_dispose rfl))
      have accepted := Fallible.succeed_run (some d) c (·) done
      show StateT.run (ExceptT.run (Fallible.succeed (some d) c (·) >>= fun _ =>
        Fallible.lift (Bridge.release _))) w = _
      exact Fallible.run_bind_of_run accepted
    · refine Leads.run_bind (m := Fallible.succeed (some d) c (·))
        (leads_refused hand database done) ?_ fun _ _ _ h => h.2
      rintro _ _ _ ⟨⟨e, ⟨⟩⟩, -⟩

/-- A user function goes, or nothing has changed. -/
theorem leads_removeFunction (name : String) (arity : Int32) (hand : conn ∈ κ.shared) :
    Leads Move (conn.removeFunction name arity : Fallible E H Unit).run κ w
      fun _ κ' _ => κ' = κ := by
  refine Leads.noted (leads_uninstallFunction name arity hand) ?_
  rintro r κ w₁ rfl
  exact ⟨_, .note (.inr ⟨name, arity, rfl⟩), rfl⟩

end Connection

end EngineBridge
