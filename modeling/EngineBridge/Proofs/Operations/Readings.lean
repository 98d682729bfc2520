import EngineBridge.Proofs.Custody.Records
import EngineBridge.Proofs.Operations.Additions
import EngineBridge.Proofs.Operations.Columns

/-!
# Columns that are looked at

A column is looked at only once the engine has been asked for the number of columns, and only if
there is such a column by the answer; a value of the current row is looked at only while there is
one.  `Statement.Permits` is this rule for the single entries that questions to a statement add to
the transcript.  No such entry moves a statement, so that the rule can be told from the transcript
afterwards.
-/

set_option autoImplicit false

namespace EngineBridge

open Native Relation

variable {E : Engine} {H : Host} {α β : Type}

/-- A call that takes a value from the current row. -/
def Native.Call.readsRow : Call → Bool
  | .columnType .. | .columnText .. | .columnBlob .. | .columnDouble .. | .columnInt ..
  | .columnInt64 .. | .columnBytes .. => true
  | _ => false

/-- A value has been taken from the current row. -/
def Entry.readsRow : Entry → Bool
  | .called c _ => c.readsRow
  | _ => false

/-- The number of columns of a statement, if that is what the engine has answered. -/
def Entry.count? (p : Program) : Entry → Option Int32
  | .called (.columnCount q) count => if q = p then some count else none
  | _ => none

/-- The number of columns that the engine has given for a statement most recently. -/
def latestCount (p : Program) (log : List Entry) : Option Int32 :=
  log.findSome? (Entry.count? p)

/-- A statement has a column with this index, by the number of columns that the engine has given
most recently. -/
def InRange (p : Program) (index : Int32) (log : List Entry) : Prop :=
  ∃ count, latestCount p log = some count ∧ 0 ≤ index ∧ index < count

/-- An index stays in range while the columns are not counted anew. -/
theorem InRange.cons {p : Program} {index : Int32} {log : List Entry} (h : InRange p index log)
    {entry : Entry} (other : entry.count? p = none) : InRange p index (entry :: log) := by
  obtain ⟨count, latest, bounds⟩ := h
  refine ⟨count, ?_, bounds⟩
  unfold latestCount
  rw [List.findSome?_cons, other]
  exact latest

/-- A number of columns that does not rule out an index is the latest one. -/
theorem inRange_of_not_outOfRange {p : Program} {index count : Int32} {log : List Entry}
    (inside : ¬ OutOfRange index count) :
    InRange p index (.called (.columnCount p) count :: log) := by
  obtain ⟨low, high⟩ := not_or.mp inside
  have latest : latestCount p (.called (.columnCount p) count :: log) = some count := by
    simp [latestCount, Entry.count?]
  exact ⟨count, latest, Int32.not_lt.mp low, Int32.not_le.mp high⟩

/-- What a question to a statement may add to the transcript: nothing that moves a statement, and
no call about a column of another statement, or one that is not there.  A value is taken only
while a row is current. -/
structure Statement.Permits (stmt : Statement) (entry : Entry) (earlier : List Entry) : Prop where
  rests : entry.Rests
  column : ∀ p index, entry.column? = some (p, index) →
    stmt.handle = some p ∧ InRange p index earlier ∧ (entry.readsRow → stmt.state = .stepping)

/-- A call that moves no statement and is about no column. -/
structure Native.Call.Harmless (c : Call) : Prop where
  plain : ∀ a, c.IsPlain a
  columnless : c.Columnless

/-- A call that may come once a column is known to be there: it asks for no number of columns, and
if it is about a column it is about this one.  It takes a value only while a row is current. -/
structure Native.Call.LooksAt (stmt : Statement) (p : Program) (index : Int32) (c : Call) :
    Prop where
  plain : ∀ a, c.IsPlain a
  counts : c.symbol ≠ .columnCount
  column : ∀ q i, c.column? = some (q, i) → q = p ∧ i = index
  row : c.readsRow → stmt.state = .stepping

namespace Statement

variable {stmt : Statement} {p : Program} {index : Int32} {w v : World E H}

/-- A statement permits every entry that is no call. -/
theorem Permits.aside {entry : Entry} (aside : entry.IsAside) (log : List Entry) :
    stmt.Permits entry log := by
  refine ⟨aside.isNote.rests, ?_⟩
  cases entry with
  | called => exact aside.elim
  | _ => rintro p index ⟨⟩

/-- A statement permits every call that is about no column. -/
theorem Permits.harmless {c : Call} (harmless : c.Harmless) (a : c.Answer) (log : List Entry) :
    stmt.Permits (.called c a) log := by
  refine ⟨(harmless.plain a).rests, fun p index about => ?_⟩
  cases harmless.columnless.symm.trans about

/-- A computation that makes harmless calls adds only what a statement permits. -/
theorem adds_of_asks {m : Bridge E H α} (h : Asks Call.Harmless m) : Bridge.Adds stmt.Permits m :=
  fun w => (h w).adds (fun _ aside => .aside aside) fun _ harmless => .harmless harmless

/-- A column that is known to be there may be looked at. -/
theorem extends_of_looksAt (handle : stmt.handle = some p)
    (asked : AskedBy (Call.LooksAt stmt p index) w v) (inRange : InRange p index w.transcript) :
    Extends stmt.Permits w.transcript v.transcript := by
  -- the number of columns stays the latest one meanwhile
  suffices Extends stmt.Permits w.transcript v.transcript ∧ InRange p index v.transcript from
    this.1
  induction asked with
  | refl => exact ⟨.refl, inRange⟩
  | tail _ step ih =>
    obtain ⟨more, inRange⟩ := ih
    obtain ⟨entry, aside, rfl⟩ | ⟨c, looks, rfl⟩ := step
    · refine ⟨more.tail ⟨entry, .aside aside _, rfl⟩, inRange.cons ?_⟩
      cases entry with
      | called => exact aside.elim
      | _ => rfl
    · refine ⟨more.tail ⟨_, ⟨(looks.plain _).rests, fun q i about => ?_⟩, rfl⟩,
        inRange.cons ?_⟩
      · obtain ⟨rfl, rfl⟩ := looks.column q i about
        exact ⟨handle, inRange, looks.row⟩
      · cases c with
        | columnCount => exact absurd rfl looks.counts
        | _ => rfl

/-- What follows on the number of columns follows only if the column is there. -/
theorem adds_column {f : Program → Fallible E H α}
    (looks : ∀ p, stmt.handle = some p → Asks (Call.LooksAt stmt p index) (f p).run) :
    Bridge.Adds stmt.Permits (stmt.column index >>= f).run := by
  intro w
  cases handle : stmt.handle with
  | none =>
    have refused : (stmt.column index >>= f).run.run w = (.error (.state .finalized), w) :=
      Refuses.bind (refuses_live handle) w
    rw [show (stmt.column index >>= f).run w = _ from refused]
    exact .refl
  | some p =>
    have counted : Extends stmt.Permits w.transcript (w.called (.columnCount p)).transcript :=
      adds_of_asks (m := Bridge.call (.columnCount p)) (.call ⟨fun _ => trivial, rfl⟩) w
    rcases Fallible.run_bind_cases (stmt.column index) f w with
      ⟨e, v, run, whole⟩ | ⟨a, v, run, whole⟩
    · rw [column_run handle] at run
      obtain rfl : _ = v := congrArg Prod.snd run
      rw [show (stmt.column index >>= f).run w = _ from whole]
      exact counted
    · rw [column_run handle] at run
      obtain rfl : _ = v := congrArg Prod.snd run
      have result := congrArg Prod.fst run
      by_cases out : index < 0 ∨ w.answer (.columnCount p) ≤ index
      · simp only [if_pos out] at result
        cases result
      · simp only [if_neg out] at result
        obtain rfl := Except.ok.inj result
        have there : InRange p index (w.called (.columnCount p)).transcript :=
          inRange_of_not_outOfRange out
        rw [show (stmt.column index >>= f).run w = _ from whole]
        exact counted.trans (extends_of_looksAt handle (looks p handle _) there)

/-- A value of the current row is asked for only if there is one. -/
theorem adds_rowColumn {f : Program → Fallible E H α}
    (looks : ∀ p, stmt.handle = some p → stmt.state = .stepping →
      Asks (Call.LooksAt stmt p index) (f p).run) :
    Bridge.Adds stmt.Permits (stmt.rowColumn index >>= f).run := by
  unfold rowColumn
  by_cases none : stmt.handle.isSome ∧ stmt.state ≠ .stepping
  · rw [if_pos none]
    exact fun _ => .refl
  · rw [if_neg none]
    refine adds_column fun p handle => looks p handle ?_
    by_contra row
    exact none ⟨by rw [handle]; rfl, row⟩

/-- A question about a column looks at that column, if there is a row where one is needed. -/
theorem looksAt_of_column {c : Call} (about : c.column? = some (p, index))
    (row : c.readsRow → stmt.state = .stepping) : c.LooksAt stmt p index := by
  have column (q : Program) (i : Int32) (named : c.column? = some (q, i)) : q = p ∧ i = index := by
    obtain ⟨rfl, rfl⟩ := Prod.mk.inj (Option.some.inj (named.symm.trans about))
    exact ⟨rfl, rfl⟩
  cases c with
  | columnType | columnName | columnTableName | columnDecltype | columnText | columnBlob
  | columnDouble | columnInt | columnInt64 | columnBytes =>
    exact ⟨fun _ => trivial, Symbol.noConfusion, column, row⟩
  | _ => cases about

/-- A question about a column makes no other call. -/
theorem asks_look {c : Call} (about : c.column? = some (p, index))
    (row : c.readsRow → stmt.state = .stepping) :
    Asks (Call.LooksAt stmt p index) (Fallible.lift (Bridge.call c) : Fallible E H _).run :=
  .run_lift (.call (looksAt_of_column about row))

/-- Asking how a column is stored looks at that column. -/
theorem asks_lookAtType (row : stmt.state = .stepping) :
    Asks (Call.LooksAt stmt p index) (storedType p index : Fallible E H ColumnType).run :=
  .run_bind (asks_look rfl fun _ => row) fun _ => .run_pure _

variable (index)

/-- Asking for a name looks at the column after its index has been checked. -/
theorem adds_columnName :
    Bridge.Adds stmt.Permits (stmt.columnName index : Fallible E H String).run :=
  adds_column fun _ _ => .run_bind (asks_look rfl nofun) fun _ => .run_requiredString _

/-- Asking for a table looks at the column after its index has been checked. -/
theorem adds_columnTableName :
    Bridge.Adds stmt.Permits (stmt.columnTableName index : Fallible E H (Option String)).run :=
  adds_column fun _ _ => .run_bind (asks_look rfl nofun) fun _ => .run_ofExcept _

/-- Asking for a declared type looks at the column after its index has been checked. -/
theorem adds_columnDecltype :
    Bridge.Adds stmt.Permits (stmt.columnDecltype index : Fallible E H (Option String)).run :=
  adds_column fun _ _ => .run_bind (asks_look rfl nofun) fun _ => .run_ofExcept _

/-- Asking for a type looks at the column after row and index have been checked. -/
theorem adds_columnType :
    Bridge.Adds stmt.Permits (stmt.columnType index : Fallible E H ColumnType).run :=
  adds_rowColumn fun _ _ row => asks_lookAtType row

/-- Reading a text looks at the column after row and index have been checked. -/
theorem adds_columnText :
    Bridge.Adds stmt.Permits (stmt.columnText index : Fallible E H (Option String)).run := by
  refine adds_rowColumn fun p _ row => .run_bind (asks_lookAtType row) fun type => ?_
  split
  · exact .run_pure _
  · exact .run_bind (asks_look rfl fun _ => row) fun _ =>
      .run_bind (asks_look rfl fun _ => row) fun _ => .run_ofExcept _

/-- Reading a blob looks at the column after row and index have been checked. -/
theorem adds_columnBlob :
    Bridge.Adds stmt.Permits (stmt.columnBlob index : Fallible E H (Option Bytes)).run := by
  refine adds_rowColumn fun p _ row => .run_bind (asks_lookAtType row) fun type => ?_
  split
  · exact .run_pure _
  · exact .run_bind (asks_look rfl fun _ => row) fun _ =>
      .run_bind (asks_look rfl fun _ => row) fun _ => .run_pure _

/-- Reading a real looks at the column after row and index have been checked. -/
theorem adds_columnDouble :
    Bridge.Adds stmt.Permits (stmt.columnDouble index : Fallible E H Binary64).run :=
  adds_rowColumn fun _ _ row => asks_look rfl fun _ => row

/-- Reading an integer looks at the column after row and index have been checked. -/
theorem adds_columnInt :
    Bridge.Adds stmt.Permits (stmt.columnInt index : Fallible E H Int32).run :=
  adds_rowColumn fun _ _ row => asks_look rfl fun _ => row

/-- Reading a wide integer looks at the column after row and index have been checked. -/
theorem adds_columnInt64 :
    Bridge.Adds stmt.Permits (stmt.columnInt64 index : Fallible E H Int64).run :=
  adds_rowColumn fun _ _ row => asks_look rfl fun _ => row

/-- Reading a length looks at the column after row and index have been checked. -/
theorem adds_columnBytes :
    Bridge.Adds stmt.Permits (stmt.columnBytes index : Fallible E H Int32).run :=
  adds_rowColumn fun _ _ row => asks_look rfl fun _ => row

/-- The number of columns is asked for once more before a value is taken by its storage class. -/
theorem adds_columnValue :
    Bridge.Adds stmt.Permits (stmt.columnValue index : Fallible E H Value).run := by
  refine .run_bind (adds_columnType index) fun type => ?_
  cases type with
  | null => exact .run_pure _
  | integer => exact .run_bind (adds_columnInt64 index) fun _ => .run_pure _
  | float => exact .run_bind (adds_columnDouble index) fun _ => .run_pure _
  | text => exact .run_bind (adds_columnText index) fun _ => .run_pure _
  | blob => exact .run_bind (adds_columnBlob index) fun _ => .run_pure _

/-! ## Questions about no column -/

/-- Harmless calls on the object of a statement are permitted. -/
theorem adds_live {f : Program → Fallible E H α} (h : ∀ p, Asks Call.Harmless (f p).run) :
    Bridge.Adds stmt.Permits (stmt.live >>= f).run := by
  unfold live
  cases stmt.handle with
  | none => exact fun _ => .refl
  | some p => exact adds_of_asks (h p)

/-- A harmless call that has to succeed makes only harmless calls, its diagnosis included. -/
theorem asks_harmless {c : Call} {code : c.Answer → Int32} (harmless : c.Harmless) :
    Asks Call.Harmless (Fallible.succeed (some stmt.database) c code : Fallible E H Unit).run :=
  .run_succeed harmless (fun _ _ => ⟨fun _ => trivial, rfl⟩) fun _ _ => ⟨fun _ => trivial, rfl⟩

/-- A harmless call on the object of a statement is permitted, its diagnosis included. -/
theorem adds_succeed {c : Program → Call} {code : (p : Program) → (c p).Answer → Int32}
    (harmless : ∀ p, (c p).Harmless) :
    Bridge.Adds stmt.Permits (stmt.succeed c code : Fallible E H Unit).run :=
  adds_live fun p => asks_harmless (harmless p)

/-- Binding a text is permitted. -/
theorem adds_bindText (value : String) :
    Bridge.Adds stmt.Permits (stmt.bindText index value : Fallible E H Unit).run :=
  adds_live fun _ => .run_bind (.run_ofExcept _) fun _ => asks_harmless ⟨fun _ => trivial, rfl⟩

/-- Binding a blob is permitted. -/
theorem adds_bindBlob (value : Bytes) :
    Bridge.Adds stmt.Permits (stmt.bindBlob index value : Fallible E H Unit).run :=
  adds_live fun _ => .run_bind (.run_ofExcept _) fun _ => asks_harmless ⟨fun _ => trivial, rfl⟩

/-- Binding a parameter and making all of them null look at no column. -/
theorem adds_bindValue (value : Value) :
    Bridge.Adds stmt.Permits (stmt.bindValue index value : Fallible E H Unit).run := by
  cases value with
  | null => exact adds_succeed fun _ => ⟨fun _ => trivial, rfl⟩
  | integer v => exact adds_succeed fun _ => ⟨fun _ => trivial, rfl⟩
  | real v => exact adds_succeed fun _ => ⟨fun _ => trivial, rfl⟩
  | text s => exact adds_bindText index s
  | blob bs => exact adds_bindBlob index bs

end Statement

end EngineBridge
