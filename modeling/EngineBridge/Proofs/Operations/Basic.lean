import EngineBridge.Proofs.Custody.Diagnosing
import EngineBridge.Proofs.Ownership.Dismantling
import EngineBridge.Proofs.Values.Reading

/-!
# The operations of a connection

All operations of a connection taken together, with what comes along with each: the texts
that are handed to the engine, the change of callbacks that is asked for, and the closure
that is to be kept.

An operation can be declined because of its arguments or the state of its connection.  Then
nothing happens, but that a closure which came along goes, and with it the connection that
it owns.
-/

set_option autoImplicit false

namespace EngineBridge

open Native

variable {E : Engine} {H : Host}

namespace Connection

/-- An operation of a connection with its arguments. -/
inductive Operation (H : Host) where
  | openWith (path : String) (options : OpenOptions)
  | close
  | prepare (sql : String)
  | executeBatch (sql : String)
  | busyTimeout (ms : UInt32)
  | registerBusyHandler (handler : Closure H.Handler)
  | clearBusyHandler
  | registerFunction (name : String) (arity : Int32) (flags : FunctionFlags)
      (function : Closure H.Function)
  | removeFunction (name : String) (arity : Int32)
  | errmsg
  | changes
  | totalChanges
  | limit (limit : Limit) (value : Int32)
  | enableLoadExtension (on : Bool)

/-- Do something that leaves the connection as it is, and forget what it gives. -/
def keep {α : Type} (conn : Connection) (m : Fallible E H α) :
    Bridge E H (Except BindError Unit × Connection) := do
  let result ← m.run
  pure (result.map fun _ => (), conn)

namespace Operation

/-- Carry out an operation.  What it gives besides success is forgotten. -/
def perform (cb : Callbacks E H) (conn : Connection) :
    Operation H → Bridge E H (Except BindError Unit × Connection)
  | .openWith path options => conn.openWith path options
  | .close => conn.close
  | .prepare sql => conn.keep (conn.prepare sql)
  | .executeBatch sql => conn.keep (conn.executeBatch cb sql)
  | .busyTimeout ms => conn.keep (conn.busyTimeout ms)
  | .registerBusyHandler handler => conn.keep (conn.registerBusyHandler handler)
  | .clearBusyHandler => conn.keep conn.clearBusyHandler
  | .registerFunction name arity flags function =>
    conn.keep (conn.registerFunction name arity flags function)
  | .removeFunction name arity => conn.keep (conn.removeFunction name arity)
  | .errmsg => conn.keep conn.errmsg
  | .changes => conn.keep conn.changes
  | .totalChanges => conn.keep conn.totalChanges
  | .limit which value => conn.keep (conn.limit which value)
  | .enableLoadExtension on => conn.keep (conn.enableLoadExtension on)

/-- The state of a connection allows an operation. -/
def Allowed (conn : Connection) : Operation H → Prop
  | .openWith .. => conn.state = .unopened
  | _ => ∃ d, conn.database = .ok d

/-- The texts that an operation hands to the engine, in the order in which they are looked
at. -/
def texts : Operation H → List String
  | .openWith path options => path :: options.vfs.toList
  | .prepare sql | .executeBatch sql => [sql]
  | .registerFunction name .. | .removeFunction name _ => [name]
  | _ => []

/-- The change of callbacks that an operation asks for. -/
def change : Operation H → Option Change
  | .busyTimeout _ => some .busyTimeout
  | .registerBusyHandler handler => some (.registerBusyHandler handler.token)
  | .clearBusyHandler => some .clearBusyHandler
  | .registerFunction name arity _ function =>
    some (.registerFunction name arity function.token)
  | .removeFunction name arity => some (.removeFunction name arity)
  | _ => none

/-- The closure that comes along with an operation. -/
def closure : Operation H → Option (Registration H)
  | .registerBusyHandler handler => some (.busy handler)
  | .registerFunction _ _ _ function => some (.function function)
  | _ => none

/-- The connection that goes with the closure of an operation. -/
def owned (op : Operation H) : Option Connection :=
  op.closure.bind Registration.owned

/-- The world after an operation has been declined: its closure has gone, and there is a note
if the operation was about callbacks. -/
def declined (conn : Connection) (op : Operation H) (e : BindError) (w : World E H) :
    World E H :=
  match op.change with
  | none => w
  | some change =>
    ((op.owned.forM Connection.drop).run (w.record (.requested conn.id change))).2.record
      (.settled conn.id change (.error e))

end Operation

end Connection

/-- A note of a change of callbacks that was asked for or has come to its end; it is about
nothing that has happened. -/
def Entry.IsMemo : Entry → Prop
  | .requested .. | .settled .. => True
  | _ => False

/-- Nothing has happened between two worlds. -/
structure World.Untouched (w w' : World E H) : Prop where
  engine : w'.engine = w.engine
  host : w'.host = w.host
  registry : w'.registry = w.registry
  armed : w'.armed = w.armed
  connections : w'.connections = w.connections
  closures : w'.closures = w.closures
  transcript : ∃ memos, w'.transcript = memos ++ w.transcript ∧ ∀ entry ∈ memos, entry.IsMemo

/-- What has been added to a transcript is what has happened since. -/
theorem World.since_of_append {w w' : World E H} {more : List Entry}
    (grown : w'.transcript = more ++ w.transcript) :
    w'.since w.transcript.length = more.reverse := by
  unfold World.since
  rw [grown, List.length_append, Nat.add_sub_cancel, List.take_left]

namespace World.Untouched

variable {w w₁ w₂ : World E H}

/-- A world is untouched at first. -/
theorem refl (w : World E H) : w.Untouched w := ⟨rfl, rfl, rfl, rfl, rfl, rfl, [], rfl, by simp⟩

/-- A memo leaves a world untouched. -/
theorem record (w : World E H) {entry : Entry} (memo : entry.IsMemo) :
    w.Untouched (w.record entry) :=
  ⟨rfl, rfl, rfl, rfl, rfl, rfl, [entry], rfl, by simpa using memo⟩

/-- What is untouched twice is untouched. -/
theorem trans (h : w.Untouched w₁) (h' : w₁.Untouched w₂) : w.Untouched w₂ where
  engine := h'.engine.trans h.engine
  host := h'.host.trans h.host
  registry := h'.registry.trans h.registry
  armed := h'.armed.trans h.armed
  connections := h'.connections.trans h.connections
  closures := h'.closures.trans h.closures
  transcript := by
    obtain ⟨earlier, grown, memos⟩ := h.transcript
    obtain ⟨later, grown', memos'⟩ := h'.transcript
    refine ⟨later ++ earlier, by rw [grown', grown, List.append_assoc], ?_⟩
    exact List.forall_mem_append.mpr ⟨memos', memos⟩

end World.Untouched

namespace Fallible

variable {α β : Type}

/-- A computation goes on with what has been obtained, unless that failed. -/
theorem run_bind_cases (m : Fallible E H α) (f : α → Fallible E H β) (w : World E H) :
    (∃ e v, m.run.run w = (.error e, v) ∧ (m >>= f).run.run w = (.error e, v)) ∨
      ∃ a v, m.run.run w = (.ok a, v) ∧ (m >>= f).run.run w = (f a).run.run v := by
  rcases run : m.run.run w with ⟨r, v⟩
  rw [ExceptT.run_bind, Bridge.run_bind_of_run run]
  cases r with
  | error e => exact .inl ⟨e, v, rfl, rfl⟩
  | ok a => exact .inr ⟨a, v, rfl, rfl⟩

/-- A failure is handled, and nothing else is. -/
theorem run_tryCatch_cases (m : Fallible E H α) (f : BindError → Fallible E H α)
    (w : World E H) :
    (∃ e v, m.run.run w = (.error e, v) ∧ (tryCatch m f).run.run w = (f e).run.run v) ∨
      ∃ a v, m.run.run w = (.ok a, v) ∧ (tryCatch m f).run.run w = (.ok a, v) := by
  rcases run : m.run.run w with ⟨r, v⟩
  rw [ExceptT.run_tryCatch, Bridge.run_bind_of_run run]
  cases r with
  | error e => exact .inl ⟨e, v, rfl, rfl⟩
  | ok a => exact .inr ⟨a, v, rfl, rfl⟩

end Fallible

namespace Connection.Operation

variable {op : Operation H} {conn : Connection} {e : BindError} {w w' : World E H}

/-- Between two worlds an operation has been declined: nothing has happened, but that the
connection which its closure owns, if it owns one, has been let go. -/
def Declines (op : Operation H) (w w' : World E H) : Prop :=
  match op.owned with
  | none => w.Untouched w'
  | some y => ∃ v, w.Untouched v ∧ (y.drop.run v).2.Untouched w'

/-- An operation that is declined, with its notes and its closure gone, declines. -/
theorem declines_declined : op.Declines w (op.declined conn e w) := by
  have requested (change : Change) : w.Untouched (w.record (.requested conn.id change)) :=
    .record w trivial
  unfold Declines declined
  cases asked : op.change with
  | none =>
    have unowned : op.owned = none := by
      cases op <;> first | rfl | cases asked
    rw [unowned]
    exact .refl w
  | some change =>
    cases op.owned with
    | none => exact (requested change).trans (.record _ trivial)
    | some y => exact ⟨_, requested change, .record _ trivial⟩

/-- What leaves a connection as it is gives the connection back. -/
theorem keep_run {α : Type} {m : Fallible E H α} {r : Except BindError α}
    (h : m.run.run w = (r, w')) : (conn.keep m).run w = ((r.map fun _ => (), conn), w') := by
  unfold keep
  exact Bridge.run_bind_of_run h

/-- One closure is disposed of by dropping the connection that it owns, if any. -/
theorem dispose_single (r : Registration H) :
    (Bridge.dispose [r] : Bridge E H Unit) = r.owned.forM Connection.drop := by
  rw [Bridge.dispose_eq_forM]
  cases owned : r.owned with
  | none => simp [owned, Option.forM]
  | some y => simp [owned, Option.forM]

/-- A failure may be raised after a closure has gone. -/
theorem dispose_throw_run (r : Registration H) :
    (do Fallible.lift (Bridge.dispose [r]); throw e : Fallible E H Unit).run.run w =
      (.error e, ((r.owned.forM Connection.drop).run w).2) := by
  have gone : (Fallible.lift (Bridge.dispose [r]) : Fallible E H Unit).run.run w =
      (.ok (), ((r.owned.forM Connection.drop).run w).2) := by
    rw [dispose_single]
    exact Fallible.lift_run_of_run rfl
  exact Fallible.run_bind_of_run gone

/-- A change of callbacks that fails, and only lets its closure go, is declined. -/
theorem noted_of_failed {change : Change} {m : Fallible E H Unit}
    (asked : op.change = some change)
    (failed : ∀ v : World E H,
      m.run.run v = (.error e, ((op.owned.forM Connection.drop).run v).2)) :
    (conn.keep (Fallible.noted conn.id change m)).run w =
      ((.error e, conn), op.declined conn e w) := by
  unfold declined
  rw [asked]
  exact keep_run (Fallible.noted_run (failed _))

/-- A busy handler for a connection that is not open goes. -/
theorem installBusyHandler_of_error {handler : Closure H.Handler} {s : StateError}
    (database : conn.database = .error s) :
    (conn.installBusyHandler handler).run.run w =
      (.error (.state s), ((handler.owned.forM Connection.drop).run w).2) := by
  unfold installBusyHandler
  rw [database]
  exact dispose_throw_run (.busy handler)

/-- A user function that the engine does not hear of goes. -/
theorem installFunction_of_failed {name : String} {arity : Int32} {flags : FunctionFlags}
    {function : Closure H.Function}
    (failed : (conn.announceFunction name arity flags).run.run w = (.error e, w)) :
    (conn.installFunction name arity flags function).run.run w =
      (.error e, ((function.owned.forM Connection.drop).run w).2) := by
  have caught : (tryCatch (conn.announceFunction name arity flags) fun e => do
      Fallible.lift (Bridge.dispose [.function function])
      throw e : Fallible E H Unit).run.run w =
        (.error e, ((function.owned.forM Connection.drop).run w).2) := by
    rw [ExceptT.run_tryCatch]
    exact (Bridge.run_bind_of_run failed).trans (dispose_throw_run (.function function))
  unfold installFunction
  rw [ExceptT.run_bind]
  exact Bridge.run_bind_of_run caught

/-- Without an open database, what needs one fails at once and leaves the world. -/
theorem live_bind_of_error {α : Type} {f : Database → Fallible E H α} {s : StateError}
    (database : conn.database = .error s) :
    (conn.live >>= f).run.run w = (.error (.state s), w) := by
  unfold live
  rw [database]
  rfl

/-- An operation that needs an open connection is declined if the connection is not open. -/
theorem perform_of_database_error (cb : Callbacks E H) {s : StateError}
    (database : conn.database = .error s) (opens : ∀ path options, op ≠ .openWith path options) :
    (op.perform cb conn).run w = ((.error (.state s), conn), op.declined conn (.state s) w) := by
  cases op with
  | openWith path options => exact absurd rfl (opens path options)
  | close => exact closeWith_eq_of_error database
  | prepare | executeBatch | errmsg | changes | totalChanges | limit | enableLoadExtension =>
    exact keep_run (live_bind_of_error database)
  | busyTimeout | clearBusyHandler | removeFunction =>
    exact noted_of_failed rfl fun _ => live_bind_of_error database
  | registerBusyHandler =>
    exact noted_of_failed rfl fun _ => installBusyHandler_of_error database
  | registerFunction =>
    exact noted_of_failed rfl fun _ => installFunction_of_failed (live_bind_of_error database)

end Connection.Operation

end EngineBridge
