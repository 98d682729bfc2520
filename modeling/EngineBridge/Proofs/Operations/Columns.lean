import EngineBridge.Proofs.Operations.Raising

/-!
# Columns that are asked for

Before a column is looked at the engine is asked how many columns there are.  An index that is
negative, or too large by the latest answer, is refused right then; nothing else that is asked of
the engine is about the number of columns, and no other state error can come of it.
-/

set_option autoImplicit false

namespace EngineBridge

open Native

variable {E : Engine} {H : Host} {α β : Type}

/-- What the engine has answered when it was asked for a number of columns. -/
def Entry.columns? : Entry → Option Int32
  | .called (.columnCount _) count => some count
  | _ => none

/-- The engine is asked for no number of columns. -/
theorem AskedBy.not_columns {w w' : World E H}
    (h : AskedBy (fun c => c.symbol ≠ .columnCount) w w') :
    ∃ more, w'.transcript = more ++ w.transcript ∧ ∀ entry ∈ more, entry.columns? = none := by
  induction h with
  | refl => exact ⟨[], rfl, by simp⟩
  | tail _ step ih =>
    obtain ⟨more, grown, none⟩ := ih
    rcases step with ⟨entry, aside, rfl⟩ | ⟨c, other, rfl⟩
    · refine ⟨entry :: more, congrArg (entry :: ·) grown, List.forall_mem_cons.mpr ⟨?_, none⟩⟩
      cases entry with
      | called c answer => exact aside.elim
      | _ => rfl
    · refine ⟨_ :: more, congrArg (_ :: ·) grown, List.forall_mem_cons.mpr ⟨?_, none⟩⟩
      cases c with
      | columnCount p => exact absurd rfl other
      | _ => rfl

/-- A computation that asks for no number of columns and ends with no state error. -/
structure Reads (m : Fallible E H α) : Prop where
  asks : Asks (fun c => c.symbol ≠ .columnCount) m.run
  raises : Raises (fun _ => False) m

namespace Reads

/-- A value that is just given is a reading. -/
theorem pure (a : α) : Reads (Pure.pure a : Fallible E H α) := ⟨.run_pure a, .pure a⟩

/-- A sequence of readings is a reading. -/
theorem bind {m : Fallible E H α} {f : α → Fallible E H β} (h : Reads m)
    (next : ∀ a, Reads (f a)) : Reads (m >>= f) :=
  ⟨.run_bind h.asks fun a => (next a).asks, .bind h.raises fun a => (next a).raises⟩

/-- A call that asks for no number of columns is a reading. -/
theorem call {c : Call} (other : c.symbol ≠ .columnCount) :
    Reads (Fallible.lift (Bridge.call c) : Fallible E H c.Answer) :=
  ⟨.run_lift (.call other), .lift _⟩

/-- What becomes of octets from the engine is a reading: it is no state error if they are no
text. -/
theorem ofCodec (r : Except CodecError α) :
    Reads (Fallible.ofExcept .ofCodec r : Fallible E H α) :=
  ⟨.run_ofExcept r, .ofCodec r⟩

/-- Asking that a string is there is a reading: it is no state error if it is not. -/
theorem requiredString (symbol : Symbol) (text : Option CString) :
    Reads (Fallible.requiredString symbol text : Fallible E H String) :=
  ⟨.run_requiredString text, .requiredString symbol text⟩

/-- Asking how a column is stored is a reading. -/
theorem storedType (p : Program) (index : Int32) :
    Reads (Statement.storedType p index : Fallible E H ColumnType) :=
  (call (c := .columnType p index) nofun).bind fun _ => pure _

end Reads

/-- An index is no index of a column, by a number of columns. -/
def OutOfRange (index count : Int32) : Prop := index < 0 ∨ count ≤ index

/-- A column has been asked for from a world on.  The engine has been asked for the number of
columns at least once, and the latest answer decides: an index that is out of range by it ends the
computation there, and no other state error does. -/
def Examines (p : Program) (index : Int32) (w : World E H)
    (ran : Except BindError α × World E H) : Prop :=
  ∃ count more, ran.2.transcript = more ++ w.transcript ∧
    more.findSome? Entry.columns? = some count ∧
    (∀ s, ran.1 = .error (.state s) ↔ OutOfRange index count ∧ s = .columnOutOfRange index count) ∧
    (OutOfRange index count → more.head? = some (.called (.columnCount p) count))

variable {p : Program} {index : Int32} {w : World E H}

/-- What follows on an index that is in range asks for no number of columns, or it asks for the
column once more. -/
theorem Examines.bind {m : Fallible E H α} {f : α → Fallible E H β}
    (h : Examines p index w (m.run.run w))
    (next : ∀ a (v : World E H), Reads (f a) ∨ Examines p index v ((f a).run.run v)) :
    Examines p index w ((m >>= f).run.run w) := by
  obtain ⟨count, more, grown, latest, raised, last⟩ := h
  rcases Fallible.run_bind_cases m f w with ⟨e, v, run, whole⟩ | ⟨a, v, run, whole⟩
  · rw [run] at grown raised
    rw [whole]
    refine ⟨count, more, grown, latest, fun s => ?_, last⟩
    rw [← raised s]
    exact ⟨fun heq => congrArg Except.error (Except.error.inj heq),
      fun heq => congrArg Except.error (Except.error.inj heq)⟩
  · rw [run] at grown raised
    rw [whole]
    -- the computation goes on, so the index is in range by what is known so far
    have inside : ¬ OutOfRange index count := fun out => by
      cases (raised (.columnOutOfRange index count)).mpr ⟨out, rfl⟩
    rcases next a v with reads | ⟨count', more', grown', latest', raised', last'⟩
    · obtain ⟨later, grown', none⟩ := (reads.asks v).not_columns
      refine ⟨count, later ++ more, ?_, ?_, fun s => ?_, fun out => absurd out inside⟩
      · exact grown'.trans (by rw [grown, List.append_assoc])
      · rw [List.findSome?_append, List.findSome?_eq_none_iff.mpr none, Option.none_or, latest]
      · exact ⟨fun heq => (reads.raises v s heq).elim, fun out => absurd out.1 inside⟩
    · refine ⟨count', more' ++ more, ?_, ?_, raised', fun out => ?_⟩
      · exact grown'.trans (by rw [grown, List.append_assoc])
      · rw [List.findSome?_append, latest', Option.some_or]
      · rw [List.head?_append, last' out, Option.some_or]

/-- A computation fails at once. -/
def Refuses (e : BindError) (m : Fallible E H α) : Prop :=
  ∀ w, m.run.run w = (.error e, w)

/-- What fails at once fails whatever was to come. -/
theorem Refuses.bind {e : BindError} {m : Fallible E H α} {f : α → Fallible E H β}
    (h : Refuses e m) : Refuses e (m >>= f) := by
  intro w
  rw [ExceptT.run_bind, Bridge.run_bind_of_run (h w)]
  rfl

namespace Statement

variable {stmt : Statement}

/-- With an object, the check for one passes. -/
theorem live_bind_of_handle {f : Program → Fallible E H α} (handle : stmt.handle = some p) :
    (stmt.live >>= f) = f p := by
  unfold live
  rw [handle]
  exact pure_bind p f

/-- Without an object, what needs one fails at once. -/
theorem refuses_live {f : Program → Fallible E H α} (gone : stmt.handle = none) :
    Refuses (.state .finalized) (stmt.live >>= f) := by
  intro w
  unfold live
  rw [gone]
  rfl

/-- Without an object, a call to it fails at once. -/
theorem refuses_succeed {c : Program → Call} {code : (p : Program) → (c p).Answer → Int32}
    (gone : stmt.handle = none) :
    Refuses (.state .finalized) (stmt.succeed c code : Fallible E H Unit) :=
  refuses_live gone

/-- Without an object, the check for a row fails at once. -/
theorem refuses_rowColumn {f : Program → Fallible E H α} (gone : stmt.handle = none) :
    Refuses (.state .finalized) (stmt.rowColumn index >>= f) := by
  unfold rowColumn
  rw [if_neg (by simp [gone])]
  exact .bind (refuses_live gone)

/-- Without a current row there are no columns to look at. -/
theorem refuses_rowColumn_of_no_row {f : Program → Fallible E H α} (handle : stmt.handle = some p)
    (row : stmt.state ≠ .stepping) :
    Refuses (.state .noCurrentRow) (stmt.rowColumn index >>= f) := by
  intro w
  have live : stmt.handle.isSome ∧ stmt.state ≠ .stepping := ⟨by rw [handle]; rfl, row⟩
  unfold rowColumn
  rw [if_pos live]
  rfl

/-- A column is asked for by the number of columns. -/
theorem column_run (handle : stmt.handle = some p) :
    (stmt.column index : Fallible E H Program).run.run w =
      (if index < 0 ∨ w.answer (.columnCount p) ≤ index then
        .error (.state (.columnOutOfRange index (w.answer (.columnCount p))))
      else .ok p, w.called (.columnCount p)) := by
  have asked : (Fallible.lift (Bridge.call (.columnCount p)) : Fallible E H Int32).run.run w =
      (.ok (w.answer (.columnCount p)), w.called (.columnCount p)) := Fallible.lift_run_of_run rfl
  unfold column
  rw [live_bind_of_handle handle, Fallible.run_bind_of_run asked]
  dsimp only
  split <;> rfl

/-- Where an index is checked by the number of columns, it is examined. -/
theorem examines_column (handle : stmt.handle = some p) {f : Program → Fallible E H α}
    (reads : ∀ p, Reads (f p)) : Examines p index w ((stmt.column index >>= f).run.run w) := by
  refine Examines.bind ?_ fun a _ => .inl (reads a)
  rw [column_run handle]
  refine ⟨w.answer (.columnCount p), [_, _], rfl, rfl, fun s => ?_, fun _ => rfl⟩
  by_cases out : index < 0 ∨ w.answer (.columnCount p) ≤ index
  · rw [if_pos out]
    constructor
    · intro raised
      exact ⟨out, (BindError.state.inj (Except.error.inj raised)).symm⟩
    · rintro ⟨-, rfl⟩
      rfl
  · rw [if_neg out]
    constructor
    · rintro ⟨⟩
    · intro raised
      exact absurd raised.1 out

/-- Where a row is needed and there is one, the index is examined. -/
theorem examines_rowColumn (handle : stmt.handle = some p) (row : stmt.state = .stepping)
    {f : Program → Fallible E H α} (reads : ∀ p, Reads (f p)) :
    Examines p index w ((stmt.rowColumn index >>= f).run.run w) := by
  unfold rowColumn
  rw [if_neg fun h => h.2 row]
  exact examines_column handle reads

section

variable (handle : stmt.handle = some p) (row : stmt.state = .stepping)

include handle

/-- The index is examined before a name is asked for. -/
theorem examines_columnName :
    Examines p index w ((stmt.columnName index : Fallible E H String).run.run w) :=
  examines_column handle fun _ => .bind (.call nofun) fun _ => .requiredString _ _

/-- The index is examined before a table is asked for. -/
theorem examines_columnTableName :
    Examines p index w ((stmt.columnTableName index : Fallible E H (Option String)).run.run w) :=
  examines_column handle fun _ => .bind (.call nofun) fun _ => .ofCodec _

/-- The index is examined before a declared type is asked for. -/
theorem examines_columnDecltype :
    Examines p index w ((stmt.columnDecltype index : Fallible E H (Option String)).run.run w) :=
  examines_column handle fun _ => .bind (.call nofun) fun _ => .ofCodec _

include row

/-- The index is examined before a type is asked for. -/
theorem examines_columnType :
    Examines p index w ((stmt.columnType index : Fallible E H ColumnType).run.run w) :=
  examines_rowColumn handle row fun _ => .storedType _ _

/-- The index is examined before a text is read. -/
theorem examines_columnText :
    Examines p index w ((stmt.columnText index : Fallible E H (Option String)).run.run w) := by
  refine examines_rowColumn handle row fun p => (Reads.storedType p index).bind fun type => ?_
  split
  · exact .pure _
  · exact .bind (.call nofun) fun _ => .bind (.call nofun) fun _ => .ofCodec _

/-- The index is examined before a blob is read. -/
theorem examines_columnBlob :
    Examines p index w ((stmt.columnBlob index : Fallible E H (Option Bytes)).run.run w) := by
  refine examines_rowColumn handle row fun p => (Reads.storedType p index).bind fun type => ?_
  split
  · exact .pure _
  · exact .bind (.call nofun) fun _ => .bind (.call nofun) fun _ => .pure _

/-- The index is examined before a real is read. -/
theorem examines_columnDouble :
    Examines p index w ((stmt.columnDouble index : Fallible E H Binary64).run.run w) :=
  examines_rowColumn handle row fun _ => .call nofun

/-- The index is examined before an integer is read. -/
theorem examines_columnInt :
    Examines p index w ((stmt.columnInt index : Fallible E H Int32).run.run w) :=
  examines_rowColumn handle row fun _ => .call nofun

/-- The index is examined before a wide integer is read. -/
theorem examines_columnInt64 :
    Examines p index w ((stmt.columnInt64 index : Fallible E H Int64).run.run w) :=
  examines_rowColumn handle row fun _ => .call nofun

/-- The index is examined before a length is read. -/
theorem examines_columnBytes :
    Examines p index w ((stmt.columnBytes index : Fallible E H Int32).run.run w) :=
  examines_rowColumn handle row fun _ => .call nofun

/-- The column is asked for once more when its storage class is known. -/
theorem examines_columnValue :
    Examines p index w ((stmt.columnValue index : Fallible E H Value).run.run w) := by
  refine (examines_columnType handle row).bind fun type v => ?_
  cases type with
  | null => exact .inl (.pure _)
  | integer =>
    exact .inr ((examines_columnInt64 handle row).bind fun _ _ => .inl (.pure _))
  | float => exact .inr ((examines_columnDouble handle row).bind fun _ _ => .inl (.pure _))
  | text => exact .inr ((examines_columnText handle row).bind fun _ _ => .inl (.pure _))
  | blob => exact .inr ((examines_columnBlob handle row).bind fun _ _ => .inl (.pure _))

end

end Statement

end EngineBridge
