import EngineBridge.Proofs.Custody.Failing

/-!
# Calls that fail

A call that fails is diagnosed at once: what the engine is asked for next is its message, and
the failure is reported before anything else happens.  On the way to a connection there is
one more call to come, which closes the object that has been made.
-/

set_option autoImplicit false

namespace EngineBridge

open Native

variable {E : Engine} {H : Host}

namespace World

/-- The failure of a call with a result code: the message is the one that the engine gives for
the object of a connection, or for the code if there is none. -/
def errorOf (w : World E H) (database : Option Database) (code : Int32) : EngineError :=
  ⟨code, Bridge.diagnosis code <|
    match database with
    | some d => w.answer (.errmsg d)
    | none => w.answer (.errstr code)⟩

/-- The world after a failure has been diagnosed and reported. -/
def diagnosed (w : World E H) (database : Option Database) (symbol : Symbol) (code : Int32) :
    World E H :=
  let asked := match database with
    | some d => w.asked (.errmsg d)
    | none => w.asked (.errstr code)
  asked.record (.reported (.callFailed symbol code (w.errorOf database code).message))

/-- The world after a call has been announced, made and answered. -/
def called (w : World E H) (c : Call) : World E H := (w.announced c).asked c

end World

/-- A failure is diagnosed by one call, and reported. -/
theorem Bridge.diagnose_run (database : Option Database) (symbol : Symbol) (code : Int32)
    (w : World E H) :
    (Bridge.diagnose database symbol code : Bridge E H EngineError).run w =
      (w.errorOf database code, w.diagnosed database symbol code) := by
  cases database <;> rfl

/-- A call that does not succeed fails with its result code. -/
theorem Fallible.checked_run_error {database : Option Database} {c : Call}
    {code : c.Answer → Int32} {w : World E H} (failed : code ((w.announced c).answer c) ≠ 0) :
    (Fallible.checked database c code : Fallible E H c.Answer).run.run w =
      (.error (.engine ((w.called c).errorOf database (code ((w.announced c).answer c)))),
        (w.called c).diagnosed database c.symbol (code ((w.announced c).answer c))) := by
  have hne : ResultClass.ofCode (code ((w.announced c).answer c)) ≠ .ok := fun hok =>
    failed ((ResultClass.ofCode_eq_ok_iff _).mp hok)
  unfold Fallible.checked Fallible.lift
  rw [ExceptT.run_bind_lift]
  refine (Bridge.call_bind c _ w).trans ?_
  split
  · next hok => exact absurd hok hne
  · rw [ExceptT.run_bind_lift]
    exact Bridge.run_bind_of_run (Bridge.diagnose_run _ _ _ _)

/-- A call that answers with a result code other than success fails with that code. -/
theorem Fallible.succeed_run_error (database : Option Database) (c : Call)
    (code : c.Answer → Int32) {w : World E H}
    (failed : code ((w.announced c).answer c) ≠ 0) :
    (Fallible.succeed database c code : Fallible E H Unit).run.run w =
      (.error (.engine ((w.called c).errorOf database (code ((w.announced c).answer c)))),
        (w.called c).diagnosed database c.symbol (code ((w.announced c).answer c))) := by
  unfold Fallible.succeed
  rw [ExceptT.run_bind]
  exact Bridge.run_bind_of_run (Fallible.checked_run_error failed)

namespace Connection

/-- The engine is asked to open a database, and told to close what it has made if it reports
a failure. -/
theorem openDatabase_run (file : CString) (flags : OpenFlags) (vfs : Option CString)
    (w : World E H) :
    (openDatabase file flags vfs : Fallible E H Database).run.run w =
      let c : Call := .openV2 file flags.bits vfs
      let answer := (w.announced c).answer c
      if answer.code = 0 then
        match answer.database with
        | some d => (.ok d, w.called c)
        | none => (.error (.infrastructure (.nullReturn .openV2)), w.called c)
      else
        let failed := (w.called c).diagnosed answer.database .openV2 answer.code
        (.error (.engine ((w.called c).errorOf answer.database answer.code)),
          match answer.database with
          | some d => failed.called (.closeV2 d)
          | none => failed) := by
  unfold openDatabase Fallible.lift
  rw [ExceptT.run_bind_lift]
  refine (Bridge.call_bind _ _ w).trans ?_
  rw [← World.called]
  dsimp only
  generalize w.called (.openV2 file flags.bits vfs) = v
  generalize (w.announced (.openV2 file flags.bits vfs)).answer (.openV2 file flags.bits vfs) =
    answer
  obtain ⟨code, database⟩ := answer
  by_cases done : code = 0
  · simp only [done]
    cases database <;> rfl
  · rw [if_neg (show ¬ code = NamedCode.ok.value from done), ExceptT.run_bind_lift]
    refine (Bridge.run_bind_of_run (Bridge.diagnose_run database .openV2 code v)).trans ?_
    simp only [if_neg done]
    cases database <;> rfl

/-- The object of a new connection is told to be closed if its busy timeout cannot be set. -/
theorem applyTimeout_run (d : Database) (ms : UInt32) (w : World E H) :
    (applyTimeout d ms : Fallible E H Unit).run.run w =
      let c : Call := .busyTimeout d (nativeMilliseconds ms)
      let code : Int32 := (w.announced c).answer c
      if code = 0 then (.ok (), w.called c)
      else
        (.error (.engine ((w.called c).errorOf (some d) code)),
          ((w.called c).diagnosed (some d) .busyTimeout code).called (.closeV2 d)) := by
  unfold applyTimeout
  rw [ExceptT.run_tryCatch]
  by_cases done : (w.announced (.busyTimeout d (nativeMilliseconds ms))).answer
      (.busyTimeout d (nativeMilliseconds ms)) = (0 : Int32)
  · refine (Bridge.run_bind_of_run (Fallible.succeed_run _ _ _ done)).trans ?_
    simp only [if_pos done]
    rfl
  · refine (Bridge.run_bind_of_run (Fallible.succeed_run_error _ _ _ done)).trans ?_
    simp only [if_neg done]
    rfl

end Connection

/-! ## Connections that cannot be opened or closed -/

namespace Connection

variable {conn after : Connection} {w w' : World E H} {e : BindError}

/-- Once the engine has refused to close it, a connection stays as it is, and the failure is
diagnosed. -/
theorem closeWith_run_of_refused {dispose : List (Registration H) → Bridge E H Unit}
    {d : Database} (database : conn.database = .ok d)
    (refused : ¬ (w.announced (.closeV2 d)).answer (.closeV2 d) = (0 : Int32)) :
    (conn.closeWith dispose).run w =
      let code : Int32 := (w.announced (.closeV2 d)).answer (.closeV2 d)
      ((.error (.engine ((w.called (.closeV2 d)).errorOf (some d) code)), conn),
        (w.called (.closeV2 d)).diagnosed (some d) .closeV2 code) :=
  (closeWith_eq_of_refused database refused).trans
    (Bridge.run_bind_of_run (Bridge.diagnose_run _ _ _ _))

/-- A connection that cannot be closed stays as it was, and so do its callbacks and what
interrupts of it go to. -/
theorem closeWith_error {dispose : List (Registration H) → Bridge E H Unit}
    (run : (conn.closeWith dispose).run w = ((.error e, after), w')) :
    after = conn ∧ w'.target = w.target ∧ w'.registry = w.registry := by
  cases database : conn.database with
  | error cause =>
    cases (closeWith_eq_of_error database).symm.trans run
    exact ⟨rfl, rfl, rfl⟩
  | ok d =>
    by_cases done : (w.announced (.closeV2 d)).answer (.closeV2 d) = (0 : Int32)
    · have closed : ((conn.closeWith dispose).run w).1.1 = .ok () := by
        change (conn.closeWith dispose w).1.1 = .ok ()
        rw [closeWith_eq database done]
        rfl
      rw [run] at closed
      cases closed
    · cases (closeWith_run_of_refused database done).symm.trans run
      exact ⟨rfl, rfl, rfl⟩

/-- Acquiring an object takes nothing but calls, and none about a column. -/
theorem asks_acquire (conn : Connection) (path : String) (options : OpenOptions) :
    Asks Call.Columnless (conn.acquire path options : Fallible E H Database).run := by
  have diagnose (database : Option Database) (symbol : Symbol) (code : Int32) :
      Asks Call.Columnless (Bridge.diagnose database symbol code : Bridge E H EngineError) :=
    .diagnose (fun _ _ => rfl) fun _ => rfl
  have opened (file : CString) (vfs : Option CString) : Asks Call.Columnless
      (openDatabase file options.flags vfs : Fallible E H Database).run := by
    refine .run_bind (.run_lift (.call rfl)) fun answer => ?_
    split
    · split
      · exact .run_pure _
      · exact .run_throw _
    · refine .run_bind (.run_lift (diagnose _ _ _)) fun e => ?_
      split
      · exact .run_throw _
      · exact .run_bind (.run_lift (.call rfl)) fun _ => .run_throw _
  have limited (d : Database) (ms : UInt32) : Asks Call.Columnless
      (applyTimeout d ms : Fallible E H Unit).run := by
    unfold applyTimeout
    rw [ExceptT.run_tryCatch]
    refine .bind (.run_succeed rfl (fun _ _ => rfl) fun _ _ => rfl) fun r => ?_
    cases r with
    | ok => exact .pure _
    | error e => exact .run_bind (.run_lift (.call rfl)) fun _ => .run_throw _
  unfold acquire
  split
  · exact .run_throw _
  · exact .run_throw _
  · refine .run_bind (.run_ofExcept _) fun strings => ?_
    refine .run_bind (opened _ _) fun d => ?_
    split
    · exact .run_pure _
    · exact .run_bind (limited _ _) fun _ => .run_pure _

/-- A connection that cannot be opened stays as it was, and so do callbacks and what interrupts
go to. -/
theorem openWith_error {path : String} {options : OpenOptions}
    (run : (conn.openWith path options).run w = ((.error e, after), w')) :
    after = conn ∧ w'.target = w.target ∧ w'.registry = w.registry := by
  have asked := conn.asks_acquire path options w
  cases hacquire : (conn.acquire path options).run.run w with
  | mk r v =>
    obtain rfl : _ = v := congrArg Prod.snd hacquire
    unfold openWith at run
    rw [Bridge.run_bind_of_run hacquire] at run
    cases r with
    | error e' =>
      cases run
      exact ⟨rfl, asked.target_eq, asked.registry_eq⟩
    | ok d => cases run

end Connection

/-- The engine is told to finalize a statement, and if it reports a failure that is diagnosed by
the connection of the statement. -/
theorem Statement.finalize_run {stmt : Statement} {p : Program} (handle : stmt.handle = some p)
    (w : World E H) :
    stmt.finalize.run w =
      let noted := w.record (.reported (.finalizing stmt.sql))
      let code : Int32 := (noted.announced (.finalize p)).answer (.finalize p)
      let called := noted.called (.finalize p)
      let after := { stmt with handle := none, state := .finalized }
      if code = 0 then ((.ok (), after), called)
      else
        ((.error (.engine (called.errorOf (some stmt.database) code)), after),
          called.diagnosed (some stmt.database) .finalize code) := by
  unfold finalize
  rw [handle]
  dsimp only
  have noted : (Bridge.report (.finalizing stmt.sql) : Bridge E H Unit).run w =
      ((), w.record (.reported (.finalizing stmt.sql))) := rfl
  rw [Bridge.run_bind_of_run noted]
  generalize w.record (.reported (.finalizing stmt.sql)) = v
  by_cases done : (v.announced (.finalize p)).answer (.finalize p) = (0 : Int32)
  · rw [if_pos done]
    exact Bridge.run_bind_of_run (Fallible.succeed_run _ _ _ done)
  · rw [if_neg done]
    exact Bridge.run_bind_of_run (Fallible.succeed_run_error _ _ _ done)

end EngineBridge
