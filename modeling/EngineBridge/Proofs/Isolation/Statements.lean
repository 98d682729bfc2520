import EngineBridge.Proofs.Isolation.Agreeing

/-!
# Operations on statements agree

A statement is asked about the engine's object behind it, and what comes of that does not
depend on the identity of its connection.
-/

set_option autoImplicit false

namespace EngineBridge

open Native Session

variable {E : Engine} {S : Setting E} {θ : Ties} {α : Type}

/-- Results of operations that give back what they were about. -/
abbrev GivesBack {β : Type} (R : Ties → α → α → Prop) : Ties → β × α → β × α → Prop :=
  fun θ r r' => r.1 = r'.1 ∧ R θ r.2 r'.2

namespace Statement

variable {stmt stmt' : Statement}

/-- A question to the object of a statement does the same in both worlds. -/
theorem repeats_live {f : Program → Fallible E (host E) α} (h : ∀ p, Repeats S (f p).run) :
    Repeats S (stmt.live >>= f).run := by
  unfold live
  cases stmt.handle with
  | none => exact .run_throw _
  | some p => exact h p

/-- A call of which nothing but success is taken. -/
theorem repeats_succeed {c : Program → Call} {code : (p : Program) → (c p).Answer → Int32}
    (contextless : ∀ p, (c p).Contextless) :
    Repeats S (stmt.succeed c code : Fallible E (host E) Unit).run :=
  repeats_live fun p => .run_succeed (contextless p)

/-- Binding a text does the same in both worlds. -/
theorem repeats_bindText (index : Int32) (value : String) :
    Repeats S (stmt.bindText index value : Fallible E (host E) Unit).run :=
  repeats_live fun _ => .run_bind (.run_ofExcept _) fun _ => .run_succeed trivial

/-- Binding a blob does the same in both worlds. -/
theorem repeats_bindBlob (index : Int32) (value : Bytes) :
    Repeats S (stmt.bindBlob index value : Fallible E (host E) Unit).run :=
  repeats_live fun _ => .run_bind (.run_ofExcept _) fun _ => .run_succeed trivial

/-- Binding a value of any kind does the same in both worlds. -/
theorem repeats_bindValue (index : Int32) (value : Value) :
    Repeats S (stmt.bindValue index value : Fallible E (host E) Unit).run := by
  cases value with
  | null => exact repeats_succeed fun _ => trivial
  | integer v => exact repeats_succeed fun _ => trivial
  | real v => exact repeats_succeed fun _ => trivial
  | text s => exact repeats_bindText index s
  | blob bs => exact repeats_bindBlob index bs

/-- Asking about a column comes after asking for the number of columns. -/
theorem repeats_column {index : Int32} {f : Program → Fallible E (host E) α}
    (h : ∀ p, Repeats S (f p).run) : Repeats S (stmt.column index >>= f).run := by
  unfold column
  rw [bind_assoc]
  refine repeats_live fun p => ?_
  rw [bind_assoc]
  refine .run_bind (.run_lift (.call trivial)) fun count => ?_
  split
  · exact .run_throw _
  · exact h p

/-- A question about the current row does the same in both worlds. -/
theorem repeats_rowColumn {index : Int32} {f : Program → Fallible E (host E) α}
    (h : ∀ p, Repeats S (f p).run) : Repeats S (stmt.rowColumn index >>= f).run := by
  unfold rowColumn
  split
  · exact .run_throw _
  · exact repeats_column h

/-- The name of a column is the same in both worlds. -/
theorem repeats_columnName (index : Int32) :
    Repeats S (stmt.columnName index : Fallible E (host E) String).run :=
  repeats_column fun _ => .run_bind (.run_lift (.call trivial)) fun _ => .run_requiredString _

/-- The table of a column is the same in both worlds. -/
theorem repeats_columnTableName (index : Int32) :
    Repeats S (stmt.columnTableName index : Fallible E (host E) (Option String)).run :=
  repeats_column fun _ => .run_bind (.run_lift (.call trivial)) fun _ => .run_ofExcept _

/-- The declared type of a column is the same in both worlds. -/
theorem repeats_columnDecltype (index : Int32) :
    Repeats S (stmt.columnDecltype index : Fallible E (host E) (Option String)).run :=
  repeats_column fun _ => .run_bind (.run_lift (.call trivial)) fun _ => .run_ofExcept _

/-- How a column is stored is the same in both worlds. -/
theorem repeats_storedType (p : Program) (index : Int32) :
    Repeats S (storedType p index : Fallible E (host E) ColumnType).run :=
  .run_bind (.run_lift (.call trivial)) fun _ => .run_pure _

/-- The type of a column is the same in both worlds. -/
theorem repeats_columnType (index : Int32) :
    Repeats S (stmt.columnType index : Fallible E (host E) ColumnType).run :=
  repeats_rowColumn fun p => repeats_storedType p index

/-- A text is read alike in both worlds. -/
theorem repeats_columnText (index : Int32) :
    Repeats S (stmt.columnText index : Fallible E (host E) (Option String)).run := by
  refine repeats_rowColumn fun p => .run_bind (repeats_storedType p index) fun type => ?_
  split
  · exact .run_pure _
  · exact .run_bind (.run_lift (.call trivial)) fun _ =>
      .run_bind (.run_lift (.call trivial)) fun _ => .run_ofExcept _

/-- A blob is read alike in both worlds. -/
theorem repeats_columnBlob (index : Int32) :
    Repeats S (stmt.columnBlob index : Fallible E (host E) (Option Bytes)).run := by
  refine repeats_rowColumn fun p => .run_bind (repeats_storedType p index) fun type => ?_
  split
  · exact .run_pure _
  · exact .run_bind (.run_lift (.call trivial)) fun _ =>
      .run_bind (.run_lift (.call trivial)) fun _ => .run_pure _

/-- A wide integer is read alike in both worlds. -/
theorem repeats_columnInt64 (index : Int32) :
    Repeats S (stmt.columnInt64 index : Fallible E (host E) Int64).run :=
  repeats_rowColumn fun _ => .run_lift (.call trivial)

/-- A real is read alike in both worlds. -/
theorem repeats_columnDouble (index : Int32) :
    Repeats S (stmt.columnDouble index : Fallible E (host E) Binary64).run :=
  repeats_rowColumn fun _ => .run_lift (.call trivial)

/-- A value of any kind is read alike in both worlds. -/
theorem repeats_columnValue (index : Int32) :
    Repeats S (stmt.columnValue index : Fallible E (host E) Value).run := by
  refine .run_bind (repeats_columnType index) fun type => ?_
  cases type with
  | null => exact .run_pure _
  | integer => exact .run_bind (repeats_columnInt64 index) fun _ => .run_pure _
  | float => exact .run_bind (repeats_columnDouble index) fun _ => .run_pure _
  | text => exact .run_bind (repeats_columnText index) fun _ => .run_pure _
  | blob => exact .run_bind (repeats_columnBlob index) fun _ => .run_pure _

/-- Every question to a statement is answered alike. -/
theorem agrees_query (query : Query) :
    Agrees S θ (query.ask stmt : Fallible E (host E) (Payload E.Response)).run
      (query.ask stmt).run (Results PayloadTied) := by
  cases query with
  | bindNull i => exact Repeats.gives (repeats_succeed fun _ => trivial) fun _ _ => .nothing
  | bindInt i v => exact Repeats.gives (repeats_succeed fun _ => trivial) fun _ _ => .nothing
  | bindInt64 i v => exact Repeats.gives (repeats_succeed fun _ => trivial) fun _ _ => .nothing
  | bindDouble i v => exact Repeats.gives (repeats_succeed fun _ => trivial) fun _ _ => .nothing
  | bindText i v => exact Repeats.gives (repeats_bindText i v) fun _ _ => .nothing
  | bindBlob i v => exact Repeats.gives (repeats_bindBlob i v) fun _ _ => .nothing
  | bindValue i v => exact Repeats.gives (repeats_bindValue i v) fun _ _ => .nothing
  | clearBindings => exact Repeats.gives (repeats_succeed fun _ => trivial) fun _ _ => .nothing
  | bindParameterCount =>
    exact Repeats.gives (repeats_live fun _ => .run_lift (.call trivial)) fun _ _ => .integer _
  | columnCount =>
    exact Repeats.gives (repeats_live fun _ => .run_lift (.call trivial)) fun _ _ => .integer _
  | columnName i => exact Repeats.gives (repeats_columnName i) fun _ _ => .text _
  | columnTableName i => exact Repeats.gives (repeats_columnTableName i) fun _ _ => .text _
  | columnDecltype i => exact Repeats.gives (repeats_columnDecltype i) fun _ _ => .text _
  | columnType i => exact Repeats.gives (repeats_columnType i) fun _ _ => .text _
  | columnText i => exact Repeats.gives (repeats_columnText i) fun _ _ => .text _
  | columnBlob i => exact Repeats.gives (repeats_columnBlob i) fun _ _ => .octets _
  | columnDouble i => exact Repeats.gives (repeats_columnDouble i) fun _ _ => .real _
  | columnInt i =>
    exact Repeats.gives (repeats_rowColumn fun _ => .run_lift (.call trivial)) fun _ _ => .integer _
  | columnInt64 i => exact Repeats.gives (repeats_columnInt64 i) fun _ _ => .integer _
  | columnBytes i =>
    exact Repeats.gives (repeats_rowColumn fun _ => .run_lift (.call trivial)) fun _ _ => .integer _
  | columnValue i => exact Repeats.gives (repeats_columnValue i) fun _ _ => .value _

/-! ## Statements that move -/

/-- Resetting statements that are tied agrees, and they stay tied. -/
theorem agrees_reset (tied : stmt.Tied θ stmt') :
    Agrees S θ stmt.reset stmt'.reset (GivesBack Statement.Tied) := by
  obtain ⟨id', hid, rfl⟩ := tied.exists_eq
  obtain ⟨id, database, handle, state, sql⟩ := stmt
  unfold reset
  dsimp only at hid ⊢
  cases handle with
  | none => exact .pure ⟨rfl, hid, rfl⟩
  | some p =>
    have rewound : Repeats S
        (Fallible.succeed (some database) (.reset p) (·) : Fallible E (host E) Unit).run :=
      .run_succeed trivial
    exact (rewound θ).bind fun θ₁ _ _ le heq => .pure ⟨heq, le.1 hid, rfl⟩

/-- Finalizing statements that are tied agrees, and they stay tied. -/
theorem agrees_finalize (tied : stmt.Tied θ stmt') :
    Agrees S θ stmt.finalize stmt'.finalize (GivesBack Statement.Tied) := by
  obtain ⟨id', hid, rfl⟩ := tied.exists_eq
  obtain ⟨id, database, handle, state, sql⟩ := stmt
  unfold finalize
  dsimp only at hid ⊢
  cases handle with
  | none => exact .pure ⟨rfl, hid, rfl⟩
  | some p =>
    have finalized : Repeats S
        (Fallible.succeed (some database) (.finalize p) (·) : Fallible E (host E) Unit).run :=
      .run_succeed trivial
    refine .bind (.report (.nameless trivial)) fun θ₁ _ _ le _ => ?_
    exact (finalized θ₁).bind fun θ₂ _ _ le₂ heq => .pure ⟨heq, le₂.1 (le.1 hid), rfl⟩

/-- Statements that are tied go out of use alike. -/
theorem agrees_drop (tied : stmt.Tied θ stmt') : Agrees S θ stmt.drop stmt'.drop Anything := by
  have finalized : Agrees S θ stmt.finalize stmt'.finalize (GivesBack Statement.Tied) :=
    agrees_finalize tied
  obtain ⟨id', -, rfl⟩ := tied.exists_eq
  unfold drop
  dsimp only
  split
  · refine finalized.bind fun θ₁ r r' _ hr => ?_
    rw [← hr.1]
    split
    · exact .pure trivial
    · exact .report (.nameless trivial)
  · exact .pure trivial

end Statement

end EngineBridge
