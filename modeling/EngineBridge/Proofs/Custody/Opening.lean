import EngineBridge.Proofs.Custody.Plain

/-!
# Opening connections as moves

A call that is a move, and what becomes of it when nothing but success will do.  Opening a
connection either adopts the object that the engine made or abandons it.
-/

set_option autoImplicit false

namespace EngineBridge

open Native

variable {E : Engine} {H : Host}

/-- The world in which a call has been announced. -/
def World.announced (w : World E H) (c : Call) : World E H :=
  w.record (.reported (.nativeCall c.symbol))

/-- A call is announced, made and answered before anything else. -/
theorem Bridge.call_bind {α : Type} (c : Call) (f : c.Answer → Bridge E H α) (w : World E H) :
    (Bridge.call c >>= f) w = f ((w.announced c).answer c) ((w.announced c).asked c) :=
  rfl

/-- A call that succeeds needs no diagnosis. -/
theorem Fallible.checked_run {database : Option Database} {c : Call} {code : c.Answer → Int32}
    {w : World E H} (done : code ((w.announced c).answer c) = 0) :
    (Fallible.checked database c code : Fallible E H c.Answer).run.run w =
      (.ok ((w.announced c).answer c), (w.announced c).asked c) := by
  have hok := (ResultClass.ofCode_eq_ok_iff (code ((w.announced c).answer c))).mpr done
  unfold Fallible.checked Fallible.lift
  rw [ExceptT.run_bind_lift]
  refine (Bridge.call_bind c _ w).trans ?_
  rw [hok]
  rfl

/-- A call that succeeds needs no diagnosis. -/
theorem Fallible.succeed_run (database : Option Database) (c : Call) (code : c.Answer → Int32)
    {w : World E H} (done : code ((w.announced c).answer c) = 0) :
    (Fallible.succeed database c code : Fallible E H Unit).run.run w =
      (.ok (), (w.announced c).asked c) := by
  unfold Fallible.succeed
  exact run_bind_of_run (checked_run done)

/-- Without an attempt to open a connection there is nothing to forget about one. -/
theorem Custody.opening_eq_self {κ : Custody} (h : κ.opening = none) :
    { κ with opening := none } = κ := by
  cases κ
  cases h
  rfl

namespace Leads

variable {κ : Custody} {w : World E H}

/-- A call that is a move. -/
theorem call {c : Call} {κ' : Custody} {post : c.Answer → Custody → World E H → Prop}
    (step : Move ⟨κ, w.announced c⟩ ⟨κ', (w.announced c).asked c⟩)
    (h : post ((w.announced c).answer c) κ' ((w.announced c).asked c)) :
    Leads Move (Bridge.call c) κ w post := by
  have note : Move ⟨κ, w⟩ ⟨κ, w.announced c⟩ := .note trivial
  exact ⟨κ', .head note (.single step), h⟩

/-- The diagnosis of a failure, within reach. -/
theorem diagnose {database : Option Database} {symbol : Symbol} {code : Int32}
    {post : EngineError → Custody → World E H → Prop}
    (reach : ∀ d, database = some d → Stage.Reaches ⟨κ, w⟩ (.database d))
    (h : ∀ e w', AskedBy (Call.Within database none) w w' → post e κ w') :
    Leads Move (Bridge.diagnose database symbol code) κ w post := by
  have asks : Asks (Call.Within database none)
      (Bridge.diagnose database symbol code : Bridge E H EngineError) := by
    refine Asks.diagnose ?_ ?_
    · rintro d rfl
      exact .of_database (fun _ => trivial) rfl
    · rintro rfl
      exact .of_nil (fun _ => trivial) rfl
  refine (asks.leads_within reach (by simp)).mono ?_
  rintro e κ' w' ⟨rfl, asked⟩
  exact h e w' asked

/-- A call that is a move, of which nothing but success is taken. -/
theorem run_checked {d : Database} {c : Call} {code : c.Answer → Int32} {κ' : Custody}
    {post : Except BindError c.Answer → Custody → World E H → Prop}
    (step : Move ⟨κ, w.announced c⟩ ⟨κ', (w.announced c).asked c⟩)
    (reach : Stage.Reaches ⟨κ', (w.announced c).asked c⟩ (.database d))
    (done : code ((w.announced c).answer c) = 0 →
      post (.ok ((w.announced c).answer c)) κ' ((w.announced c).asked c))
    (failed : code ((w.announced c).answer c) ≠ 0 → ∀ e w',
      AskedBy (Call.Within (some d) none) ((w.announced c).asked c) w' →
        post (.error (.engine e)) κ' w') :
    Leads Move (Fallible.checked (some d) c code).run κ w post := by
  have made : Leads Move (Bridge.call c) κ w fun a κ₁ w₁ =>
      a = (w.announced c).answer c ∧ κ₁ = κ' ∧ w₁ = (w.announced c).asked c :=
    call step ⟨rfl, rfl, rfl⟩
  refine run_lift_bind made ?_
  rintro _ κ' _ ⟨rfl, rfl, rfl⟩
  split
  · next hok => exact pure (done ((ResultClass.ofCode_eq_ok_iff _).mp hok))
  · next hne =>
    have hcode := fun h0 => hne ((ResultClass.ofCode_eq_ok_iff _).mpr h0)
    have diagnosed : Leads Move (Bridge.diagnose (some d) c.symbol
        (code ((w.announced c).answer c))) κ' ((w.announced c).asked c)
        fun e κ₁ w₁ => post (.error (.engine e)) κ₁ w₁ :=
      diagnose (fun _ hd => Option.some.inj hd ▸ reach) (failed hcode)
    exact run_lift_bind diagnosed fun e κ' w' h => pure h

/-- A call that is a move and answers with a result code, of which nothing but success is
taken. -/
theorem run_succeed {d : Database} {c : Call} {code : c.Answer → Int32} {κ' : Custody}
    {post : Except BindError Unit → Custody → World E H → Prop}
    (step : Move ⟨κ, w.announced c⟩ ⟨κ', (w.announced c).asked c⟩)
    (reach : Stage.Reaches ⟨κ', (w.announced c).asked c⟩ (.database d))
    (done : code ((w.announced c).answer c) = 0 → post (.ok ()) κ' ((w.announced c).asked c))
    (failed : code ((w.announced c).answer c) ≠ 0 → ∀ e w',
      AskedBy (Call.Within (some d) none) ((w.announced c).asked c) w' →
        post (.error (.engine e)) κ' w') :
    Leads Move (Fallible.succeed (some d) c code).run κ w post := by
  have checked : Leads Move (Fallible.checked (some d) c code).run κ w fun r κ₁ w₁ =>
      post (r.map fun _ => ()) κ₁ w₁ := run_checked step reach done failed
  refine run_bind checked ?_ ?_
  · exact fun _ _ _ h => pure h
  · exact fun _ _ _ h => h

end Leads

namespace Connection

variable {κ : Custody} {w : World E H}

/-- A new connection is in nobody else's hands. -/
theorem leads_create :
    Leads Move create κ w fun conn κ' _ =>
      conn.state = .unopened ∧ κ' = { κ with exclusive := conn ::ₘ κ.exclusive } :=
  Leads.single .create ⟨rfl, rfl⟩

/-- Either there is an object now, or there is none and none is left behind. -/
theorem leads_openDatabase (file : CString) (flags : OpenFlags) (vfs : Option CString)
    (idle : κ.opening = none) :
    Leads Move (openDatabase file flags vfs : Fallible E H Database).run κ w fun r κ' _ =>
      match r with
      | .ok d => κ' = { κ with opening := some d }
      | .error _ => κ' = κ := by
  have called : Leads Move (Bridge.call (.openV2 file flags.bits vfs)) κ w
      fun a κ₁ _ => κ₁ = { κ with opening := a.database } := Leads.call (.allocate idle) rfl
  refine Leads.run_lift_bind called ?_
  rintro ⟨code, database⟩ _ w₁ rfl
  split
  · cases database with
    | some d => exact Leads.pure rfl
    | none => exact Leads.pure (Custody.opening_eq_self idle)
  · have diagnosed : Leads Move (Bridge.diagnose database .openV2 code)
        { κ with opening := database } w₁ fun _ κ₂ _ => κ₂ = { κ with opening := database } :=
      Leads.diagnose (fun d hd => .inr (.inr (.inl hd))) fun _ _ _ => rfl
    refine Leads.run_lift_bind diagnosed ?_
    rintro e _ w₂ rfl
    cases database with
    | none => exact Leads.pure (Custody.opening_eq_self idle)
    | some d =>
      have closed : Leads Move (Bridge.call (.closeV2 d)) { κ with opening := some d } w₂
          fun _ κ₃ _ => κ₃ = { κ with opening := none } := Leads.call (.abandon rfl) rfl
      refine Leads.run_lift_bind closed ?_
      rintro _ _ w₃ rfl
      exact Leads.pure (Custody.opening_eq_self idle)

/-- A new object keeps its busy timeout or is abandoned. -/
theorem leads_applyTimeout {d : Database} (ms : UInt32) (opening : κ.opening = some d) :
    Leads Move (applyTimeout d ms : Fallible E H Unit).run κ w fun r κ' _ =>
      match r with
      | .ok _ => κ' = κ
      | .error _ => κ' = { κ with opening := none } := by
  have set : Leads Move (Fallible.succeed (some d) (.busyTimeout d (nativeMilliseconds ms)) (·)).run
      κ w fun _ κ₁ _ => κ₁ = κ := by
    have reach (w' : World E H) : Stage.Reaches ⟨κ, w'⟩ (.database d) := .inr (.inr (.inl opening))
    exact Leads.run_succeed (.call trivial (Stage.reaches_all (reach _) rfl)) (reach _)
      (fun _ => rfl) fun _ _ _ _ => rfl
  refine Leads.run_tryCatch set (fun _ _ _ h => h) ?_
  rintro e κ w₁ rfl
  have closed : Leads Move (Bridge.call (.closeV2 d)) κ w₁
      fun _ κ₂ _ => κ₂ = { κ with opening := none } := Leads.call (.abandon opening) rfl
  exact Leads.run_lift_bind closed fun _ _ _ h => Leads.pure h

/-- Either there is an object for the connection now, which was unopened before, or there
is none and none is left behind. -/
theorem leads_acquire {conn : Connection} (path : String) (options : OpenOptions)
    (idle : κ.opening = none) :
    Leads Move (conn.acquire path options : Fallible E H Database).run κ w fun r κ' _ =>
      match r with
      | .ok d => conn.state = .unopened ∧ κ' = { κ with opening := some d }
      | .error _ => κ' = κ := by
  unfold acquire
  cases hstate : conn.state with
  | opened => exact Leads.pure rfl
  | closed => exact Leads.pure rfl
  | unopened =>
    cases hstrings : openStrings path options with
    | error e => exact Leads.pure rfl
    | ok strings =>
      obtain ⟨file, vfs⟩ := strings
      refine Leads.run_bind (m := openDatabase file options.flags vfs)
        (leads_openDatabase file options.flags vfs idle) ?_ ?_
      · rintro d _ w₁ rfl
        cases options.busyTimeout with
        | none => exact Leads.pure ⟨rfl, rfl⟩
        | some ms =>
          refine Leads.run_bind (leads_applyTimeout ms rfl) ?_ ?_
          · rintro _ _ w₂ rfl
            exact Leads.pure ⟨rfl, rfl⟩
          · rintro e _ w₂ rfl
            exact Custody.opening_eq_self idle
      · exact fun _ _ _ h => h

/-- A connection in nobody else's hands is opened, or stays as it was. -/
theorem leads_openWith {conn : Connection} {rest : Multiset Connection} (path : String)
    (options : OpenOptions) (idle : κ.opening = none) (hand : κ.exclusive = conn ::ₘ rest) :
    Leads Move (conn.openWith path options : Bridge E H _) κ w fun r κ' _ =>
      r.2.id = conn.id ∧ (∀ e, r.1 = .error e → r.2 = conn) ∧
        κ' = { κ with exclusive := r.2 ::ₘ rest } := by
  refine Leads.bind (leads_acquire path options idle) ?_
  rintro (e | d) κ₁ w₁ acquired
  · cases acquired
    refine Leads.pure ⟨rfl, fun _ _ => rfl, ?_⟩
    rw [← hand]
  · obtain ⟨unopened, rfl⟩ := acquired
    refine ⟨_, .single (.adopt (κ := { κ with opening := some d }) rfl hand unopened), rfl,
      nofun, ?_⟩
    simp only [idle]
    rfl

end Connection

end EngineBridge
