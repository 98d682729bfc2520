import EngineBridge.Proofs.Reentry.Changes
import EngineBridge.Proofs.Session.Serving

/-!
# Operations that leave callbacks alone

Preparing statements, moving them and letting them go takes nothing but calls and notes, and so
does opening a connection.  The registry is the same afterwards.
-/

set_option autoImplicit false

namespace EngineBridge

open Native

variable {E : Engine} {H : Host} {α β : Type}

namespace Statement

variable (stmt : Statement)

/-- Resetting a statement is about no column. -/
theorem asks_reset : Asks Call.Columnless (stmt.reset : Bridge E H _) := by
  unfold reset
  split
  · exact Asks.pure _
  · exact Asks.bind (Asks.run_succeed rfl (fun _ _ => rfl) fun _ _ => rfl)
        fun _ => Asks.pure _

/-- Finalizing a statement is about no column. -/
theorem asks_finalize : Asks Call.Columnless (stmt.finalize : Bridge E H _) := by
  unfold finalize
  split
  · exact Asks.pure _
  · exact Asks.bind (Asks.record trivial) fun _ =>
      Asks.bind (Asks.run_succeed rfl (fun _ _ => rfl) fun _ _ => rfl)
        fun _ => Asks.pure _

/-- Dropping a statement is about no column. -/
theorem asks_drop : Asks Call.Columnless (stmt.drop : Bridge E H Unit) := by
  unfold drop
  split
  · apply Asks.bind stmt.asks_finalize
    intro r
    split
    · exact Asks.pure _
    · exact Asks.record trivial
  · exact Asks.pure _

end Statement

namespace Connection

variable (conn : Connection)

/-- Nothing more is asked once the engine has prepared a statement. -/
theorem asks_prepared (database : Database) (sql : String) (answer : Prepared) :
    Asks Call.Columnless (match answer.program with
      | none => throw (.state .noStatement)
      | some program => do
        let (first, rest) := divide sql answer.tail
        let ignored := Text.trim rest
        if ignored ≠ "" then Fallible.lift (Bridge.report (.restIgnored ignored))
        Fallible.lift (Bridge.report (.prepared conn.id first))
        pure ⟨conn.id, database, some program, .prepared, first⟩ :
      Fallible E H Statement).run := by
  split
  · exact Asks.run_throw _
  · next p _ =>
    have told : Asks Call.Columnless (Fallible.lift (Bridge.report (.prepared conn.id
        (divide sql answer.tail).1)) : Fallible E H Unit).run :=
      Asks.run_lift (Asks.record trivial)
    dsimp only
    split
    · exact Asks.run_bind (Asks.run_lift (Asks.record trivial)) fun _ =>
        Asks.run_bind told fun _ => Asks.run_pure _
    · exact Asks.run_bind told fun _ => Asks.run_pure _

/-- Preparing a statement is about no column. -/
theorem asks_prepare (sql : String) :
    Asks Call.Columnless (conn.prepare sql : Fallible E H Statement).run := by
  unfold prepare
  apply Asks.run_bind (Asks.run_ofExcept _)
  intro d
  apply Asks.run_bind (Asks.run_ofExcept _)
  intro text
  apply Asks.run_bind (Asks.run_ofExcept _)
  intro size
  have checked : Asks Call.Columnless (Fallible.checked (some d) (.prepareV2 d text size)
      (·.code) : Fallible E H Prepared).run :=
    Asks.run_checked rfl (fun _ _ => rfl) fun _ _ => rfl
  exact Asks.run_bind checked (conn.asks_prepared d sql)

/-- Interrupting is about no column. -/
theorem asks_interrupt (id : ConnectionId) :
    Asks Call.Columnless (interrupt id : Bridge E H Unit) := by
  apply Asks.get_bind
  intro w
  split
  · exact Asks.pure _
  · exact Asks.call rfl

/-- A connection that is opened has no callbacks yet. -/
theorem recounts_openWith (path : String) (options : OpenOptions) :
    Bridge.Recounts (conn.openWith path options : Bridge E H _) := by
  unfold openWith
  apply Bridge.Recounts.bind (.of_asks (conn.asks_acquire path options))
  intro r
  split
  · exact .pure _
  · apply Bridge.Recounts.bind (.modifyGet (fun _ => rfl) fun _ => rfl)
    intro _
    exact .bind (.record fun _ => rfl) fun _ => .pure _

/-- Creating a connection is accounted for. -/
theorem recounts_create : Bridge.Recounts (create : Bridge E H Connection) :=
  .bind (.modifyGet (fun _ => rfl) fun _ => rfl) fun _ => .pure _

/-- Creating a connection and opening it is accounted for. -/
theorem recounts_connectWith (path : String) (options : OpenOptions) :
    Bridge.Recounts (connectWith path options : Fallible E H Connection).run := by
  unfold connectWith
  apply Bridge.Recounts.run_bind (.run_lift recounts_create)
  intro conn
  apply Bridge.Recounts.run_bind (.run_lift (conn.recounts_openWith path options))
  rintro ⟨result, other⟩
  cases result with
  | ok => exact .run_pure _
  | error => exact .run_bind (.run_lift other.recounts_drop) fun _ => .run_throw _

end Connection

end EngineBridge
