import EngineBridge.Proofs.Operations.Texts

/-!
# State errors

Which state errors a computation can end with.  There is one rule for each form of computation,
so that the proof for an operation follows its text.

An operation that the state of its connection allows ends with no state error, but that a text may
hold no statement to prepare.
-/

set_option autoImplicit false

namespace EngineBridge

open Native

variable {E : Engine} {H : Host} {α β : Type} {P : StateError → Prop}

/-- The state errors that a computation can end with are of a kind. -/
def Raises (P : StateError → Prop) (m : Fallible E H α) : Prop :=
  ∀ w s, (m.run.run w).1 = .error (.state s) → P s

namespace Raises

/-- A value that is just given is no failure. -/
theorem pure (a : α) : Raises P (Pure.pure a : Fallible E H α) := nofun

/-- A failure that is raised is of a kind if it is a state error of that kind or none at all. -/
theorem throw {e : BindError} (h : ∀ s, e = .state s → P s) :
    Raises P (throw e : Fallible E H α) :=
  fun _ s raised => h s (Except.error.inj raised)

/-- The failure of a conversion or of the engine is no state error. -/
theorem throw_other {e : BindError} (h : e.asState = none) :
    Raises P (MonadExcept.throw e : Fallible E H α) :=
  throw fun s heq => by
    rw [heq] at h
    cases h

/-- What cannot fail raises nothing. -/
theorem lift (m : Bridge E H α) : Raises P (Fallible.lift m : Fallible E H α) := nofun

/-- A conversion of octets or texts raises no state error. -/
theorem ofCodec (r : Except CodecError α) :
    Raises P (Fallible.ofExcept .ofCodec r : Fallible E H α) := by
  cases r with
  | error e => exact throw_other rfl
  | ok a => exact pure a

/-- A sequence raises what its parts raise. -/
theorem bind {m : Fallible E H α} {f : α → Fallible E H β} (h : Raises P m)
    (next : ∀ a, Raises P (f a)) : Raises P (m >>= f) := by
  intro w s raised
  rcases Fallible.run_bind_cases m f w with ⟨e, v, run, whole⟩ | ⟨a, v, run, whole⟩
  · rw [whole] at raised
    obtain rfl := Except.error.inj raised
    exact h w s (by rw [run])
  · rw [whole] at raised
    exact next a v s raised

/-- A failure is handed on once something has been cleaned up. -/
theorem tryCatch_throw {m : Fallible E H α} {clean : Bridge E H Unit} (h : Raises P m) :
    Raises P (tryCatch m fun e => do
      Fallible.lift clean
      MonadExcept.throw e : Fallible E H α) := by
  intro w s raised
  rcases Fallible.run_tryCatch_cases m _ w with ⟨e, v, run, whole⟩ | ⟨a, v, run, whole⟩
  · rw [whole] at raised
    obtain rfl : e = .state s := Except.error.inj raised
    exact h w s (by rw [run])
  · rw [whole] at raised
    cases raised

/-- A call whose result is checked raises no state error. -/
theorem checked (database : Option Database) (c : Call) (code : c.Answer → Int32) :
    Raises P (Fallible.checked database c code : Fallible E H c.Answer) := by
  refine bind (lift _) fun answer => ?_
  split
  · exact pure _
  · exact bind (lift _) fun e => throw_other rfl

/-- A call that has to succeed raises no state error. -/
theorem succeed (database : Option Database) (c : Call) (code : c.Answer → Int32) :
    Raises P (Fallible.succeed database c code : Fallible E H Unit) :=
  bind (checked database c code) fun _ => pure _

/-- A string that is missing or no text is no state error. -/
theorem requiredString (symbol : Symbol) (text : Option CString) :
    Raises P (Fallible.requiredString symbol text : Fallible E H String) := by
  refine bind (ofCodec _) fun text => ?_
  cases text with
  | none => exact throw_other rfl
  | some s => exact pure s

/-- Noting a change raises what the change raises. -/
theorem noted {id : ConnectionId} {change : Change} {m : Fallible E H Unit} (h : Raises P m) :
    Raises P (Fallible.noted id change m) := by
  intro w s raised
  rcases run : m.run.run (w.record (.requested id change)) with ⟨r, v⟩
  rw [Fallible.noted_run run] at raised
  refine h (w.record (.requested id change)) s ?_
  rw [run]
  exact raised

end Raises

namespace Connection

variable {conn : Connection} {d : Database}

/-- With an open database, an operation raises what is raised after the check. -/
theorem raises_live {f : Database → Fallible E H α} (database : conn.database = .ok d)
    (h : Raises P (f d)) : Raises P (conn.live >>= f) := by
  intro w s raised
  rw [Operation.live_bind_of_database database] at raised
  exact h w s raised

/-- A connection that the engine refuses to close ends with an error of the engine. -/
theorem raises_close (database : conn.database = .ok d) (w : World E H) (s : StateError) :
    (conn.close.run w).1.1 ≠ .error (.state s) := by
  by_cases done : (w.announced (.closeV2 d)).answer (.closeV2 d) = (0 : Int32)
  · show (conn.closeWith Bridge.dispose w).1.1 ≠ _
    rw [closeWith_eq database done]
    exact nofun
  · show (conn.closeWith Bridge.dispose w).1.1 ≠ _
    rw [closeWith_eq_of_refused database done]
    exact nofun

/-- Setting the timeout of options raises no state error. -/
theorem raises_applyTimeout (d : Database) (ms : UInt32) :
    Raises P (applyTimeout d ms : Fallible E H Unit) := by
  intro w s raised
  rw [applyTimeout_run] at raised
  dsimp only at raised
  split at raised <;> cases raised

/-- Asking for a database raises no state error. -/
theorem raises_openDatabase (file : CString) (flags : OpenFlags) (vfs : Option CString) :
    Raises P (openDatabase file flags vfs : Fallible E H Database) := by
  intro w s raised
  rw [openDatabase_run] at raised
  dsimp only at raised
  split at raised
  · split at raised <;> cases raised
  · cases raised

/-- An unopened connection that cannot be opened ends with no state error. -/
theorem raises_acquire {path : String} {options : OpenOptions} (unopened : conn.state = .unopened) :
    Raises P (conn.acquire path options : Fallible E H Database) := by
  unfold acquire
  rw [unopened]
  refine .bind (.ofCodec _) fun strings => ?_
  refine .bind (raises_openDatabase _ _ _) fun d => ?_
  split
  · exact .pure _
  · exact .bind (raises_applyTimeout _ _) fun _ => .pure _

/-- A text may hold no statement to prepare. -/
theorem raises_prepare {sql : String} (database : conn.database = .ok d) (empty : P .noStatement) :
    Raises P (conn.prepare sql : Fallible E H Statement) := by
  refine raises_live database ?_
  refine .bind (.ofCodec _) fun text => .bind (.ofCodec _) fun size => ?_
  refine .bind (.checked _ _ _) fun answer => ?_
  split
  · refine .throw fun s heq => ?_
    obtain rfl := BindError.state.inj heq
    exact empty
  · dsimp only
    split
    · exact .bind (.lift _) fun _ => .bind (.lift _) fun _ => .pure _
    · exact .bind (.lift _) fun _ => .pure _

/-- With an open database, installing a busy handler raises no state error. -/
theorem raises_installBusyHandler (database : conn.database = .ok d)
    (handler : Closure H.Handler) :
    Raises P (conn.installBusyHandler handler : Fallible E H Unit) := by
  unfold installBusyHandler
  rw [database]
  exact .bind (.lift _) fun _ => .tryCatch_throw (.succeed _ _ _)

/-- With an open database, installing a function raises no state error. -/
theorem raises_installFunction (database : conn.database = .ok d) (name : String) (arity : Int32)
    (flags : FunctionFlags) (function : Closure H.Function) :
    Raises P (conn.installFunction name arity flags function : Fallible E H Unit) := by
  have announced : Raises P (conn.announceFunction name arity flags : Fallible E H Unit) :=
    raises_live database (.bind (.ofCodec _) fun _ => .succeed _ _ _)
  exact .bind (.tryCatch_throw announced) fun _ => .lift _

/-- With an open database, removing a function raises no state error. -/
theorem raises_uninstallFunction (database : conn.database = .ok d) (name : String)
    (arity : Int32) : Raises P (conn.uninstallFunction name arity : Fallible E H Unit) := by
  refine raises_live database (.bind (.ofCodec _) fun _ => ?_)
  exact .bind (.succeed _ _ _) fun _ => .lift _

/-- With an open database, executing a batch raises no state error. -/
theorem raises_executeBatch (cb : Callbacks E H) (database : conn.database = .ok d)
    (sql : String) : Raises P (conn.executeBatch cb sql) := by
  refine raises_live database (.bind (.ofCodec _) fun _ => .bind (.lift _) fun _ => ?_)
  split
  · exact .pure _
  · exact .bind (.lift _) fun _ => .throw_other rfl

namespace Operation

variable {op : Operation H}

/-- An open connection ends with no state error, but that there may be no statement to prepare. -/
theorem raises_perform (cb : Callbacks E H) (database : conn.database = .ok d)
    (opens : ∀ path options, op ≠ .openWith path options) {w : World E H} {s : StateError}
    (raised : ((op.perform cb conn).run w).1.1 = .error (.state s)) : s = .noStatement := by
  have keep {γ : Type} {m : Fallible E H γ} (h : Raises (· = .noStatement) m)
      (raised : ((conn.keep m).run w).1.1 = .error (.state s)) : s = .noStatement := by
    rcases run : m.run.run w with ⟨r, v⟩
    rw [keep_run run] at raised
    cases r with
    | error e => exact h w s (by rw [run, Except.error.inj raised])
    | ok a => cases raised
  have uninstalled : Raises (· = .noStatement) (conn.uninstallBusyHandler : Fallible E H Unit) :=
    raises_live database (.bind (.succeed _ _ _) fun _ => .lift _)
  have limited (ms : UInt32) :
      Raises (· = .noStatement) (conn.setBusyTimeout ms : Fallible E H Unit) :=
    raises_live database (.bind (.succeed _ _ _) fun _ => .lift _)
  cases op with
  | openWith path options => exact absurd rfl (opens path options)
  | close => exact absurd raised (raises_close database w s)
  | prepare sql => exact keep (raises_prepare database rfl) raised
  | executeBatch sql => exact keep (raises_executeBatch cb database sql) raised
  | busyTimeout ms => exact keep (.noted (limited ms)) raised
  | registerBusyHandler handler =>
    exact keep (.noted (raises_installBusyHandler database handler)) raised
  | clearBusyHandler => exact keep (.noted uninstalled) raised
  | registerFunction name arity flags function =>
    exact keep (.noted (raises_installFunction database name arity flags function)) raised
  | removeFunction name arity =>
    exact keep (.noted (raises_uninstallFunction database name arity)) raised
  | errmsg =>
    exact keep (raises_live database (.bind (.lift _) fun _ => .requiredString _ _)) raised
  | changes | totalChanges | limit which value =>
    exact keep (raises_live database (.lift _)) raised
  | enableLoadExtension on => exact keep (raises_live database (.succeed _ _ _)) raised

/-- What the state of a connection rules out, and nothing else, is declined with the error that
says so. -/
theorem state_errors_iff (cb : Callbacks E H)
    (live : conn.state = .opened → ∃ d, conn.database = .ok d)
    (opens : ∀ path options, op ≠ .openWith path options) (w : World E H) :
    (((op.perform cb conn).run w).1.1 = .error (.state .notOpen) ↔ conn.state = .unopened) ∧
      (((op.perform cb conn).run w).1.1 = .error (.state .closed) ↔ conn.state = .closed) ∧
      (conn.state ≠ .opened → ((op.perform cb conn).run w).1.2 = conn ∧
        op.Declines w ((op.perform cb conn).run w).2) := by
  have declined {s : StateError} (database : conn.database = .error s) :=
    perform_of_database_error (w := w) cb database opens
  cases state : conn.state with
  | unopened =>
    have database : conn.database = .error .notOpen := by
      unfold Connection.database
      rw [state]
    rw [declined database]
    exact ⟨⟨fun _ => rfl, fun _ => rfl⟩, by simp, fun _ => ⟨rfl, declines_declined⟩⟩
  | closed =>
    have database : conn.database = .error .closed := by
      unfold Connection.database
      rw [state]
    rw [declined database]
    exact ⟨by simp, ⟨fun _ => rfl, fun _ => rfl⟩, fun _ => ⟨rfl, declines_declined⟩⟩
  | opened =>
    obtain ⟨d, database⟩ := live state
    have other {s : StateError} (ne : s ≠ .noStatement) :
        ((op.perform cb conn).run w).1.1 ≠ .error (.state s) :=
      fun raised => ne (raises_perform cb database opens raised)
    exact ⟨by simp [other], by simp [other], fun ne => absurd rfl ne⟩

end Operation

/-- A connection that is open already, or closed, is not opened, and no other one is refused for
its state. -/
theorem open_state_errors_iff (path : String) (options : OpenOptions) (w : World E H) :
    (∀ p, ((conn.openWith path options).run w).1.1 = .error (.state (.alreadyOpen p)) ↔
        conn.state = .opened ∧ p = conn.path) ∧
      (((conn.openWith path options).run w).1.1 = .error (.state .closed) ↔
        conn.state = .closed) ∧
      (conn.state ≠ .unopened → ((conn.openWith path options).run w).1.2 = conn ∧
        ((conn.openWith path options).run w).2 = w) := by
  have refused {s : StateError}
      (h : (conn.acquire path options : Fallible E H Database) = throw (.state s)) :
      (conn.openWith path options).run w = ((.error (.state s), conn), w) := by
    unfold openWith
    rw [h]
    rfl
  cases state : conn.state with
  | opened =>
    rw [refused (s := .alreadyOpen conn.path) (by unfold acquire; rw [state])]
    simp [eq_comm]
  | closed =>
    rw [refused (s := .closed) (by unfold acquire; rw [state])]
    simp
  | unopened =>
    have other (s : StateError) :
        ((conn.openWith path options).run w).1.1 ≠ .error (.state s) := by
      intro raised
      have raises : Raises (fun _ => False) (conn.acquire path options : Fallible E H Database) :=
        raises_acquire state
      refine raises w s ?_
      unfold openWith at raised
      rcases run : (conn.acquire path options).run.run w with ⟨r, v⟩
      rw [Bridge.run_bind_of_run run] at raised
      cases r with
      | error e => exact congrArg Except.error (Except.error.inj raised)
      | ok d => cases raised
    simp [other]

end Connection

end EngineBridge
