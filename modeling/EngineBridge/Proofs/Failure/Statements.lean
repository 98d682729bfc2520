import EngineBridge.Proofs.Failure.Course

/-!
# Operations on statements answer for their failures

A failure of a call on a statement is diagnosed by the connection that the statement is of.
-/

set_option autoImplicit false

namespace EngineBridge

open Native

variable {E : Engine} {H : Host} {cb : Callbacks E H} {roll : Roster}
  {w : World E H}

/-- A step succeeds if it comes to a row or to the end. -/
theorem Native.Execution.succeeds_step_iff (p : Program) (code : Int32) :
    (Execution.step p).Succeeds code ↔
      ResultClass.ofCode code = .row ∨ ResultClass.ofCode code = .done := by
  constructor
  · rintro (rfl | rfl)
    · exact .inl rfl
    · exact .inr rfl
  · unfold ResultClass.ofCode
    intro h
    by_cases row : code = NamedCode.row.value
    · exact .inl row
    by_cases done : code = NamedCode.done.value
    · exact .inr done
    rw [if_neg row, if_neg done] at h
    split at h
    · simp at h
    · split at h <;> simp at h

namespace Statement

variable (stmt : Statement)

/-- The statement is of its connection. -/
abbrev Housed (roll : Roster) (stmt : Statement) : Prop :=
  ∀ p, stmt.handle = some p → roll.home p stmt.database

variable {stmt} (housed : stmt.Housed roll)

include housed

/-- What is asked of a statement is asked if it is not finalized. -/
theorem accounts_live {α : Type} {f : Program → Fallible E H α}
    (h : ∀ p, roll.home p stmt.database →
      Accounts cb roll (f p).run w (failures BindError.asEngine)) :
    Accounts cb roll (stmt.live >>= f).run w (failures BindError.asEngine) := by
  unfold live
  cases handle : stmt.handle with
  | none => exact .run_throw rfl
  | some p => exact h p (housed p handle)

/-- A call of which nothing but success is taken. -/
theorem accounts_succeed {c : Program → Call} {code : (p : Program) → (c p).Answer → Int32}
    (answered : ∀ p answer, (c p).resultCode answer = some (code p answer))
    (informed : ∀ p answer, roll.home p stmt.database →
      (c p).Informed roll.home answer (some stmt.database)) :
    Accounts cb roll (stmt.succeed c code : Fallible E H Unit).run w
      (failures BindError.asEngine) :=
  accounts_live housed fun p hp => .run_succeed (answered p) fun answer => informed p answer hp

/-- Clearing the bindings fails by the engine just when its call does. -/
theorem accounts_clearBindings : Accounts cb roll (stmt.clearBindings : Fallible E H Unit).run w
    (failures BindError.asEngine) :=
  accounts_succeed housed (fun _ _ => rfl) fun _ _ hp => ⟨_, rfl, hp⟩

/-- Binding a null fails by the engine just when its call does. -/
theorem accounts_bindNull (index : Int32) :
    Accounts cb roll (stmt.bindNull index : Fallible E H Unit).run w
      (failures BindError.asEngine) :=
  accounts_succeed housed (fun _ _ => rfl) fun _ _ hp => ⟨_, rfl, hp⟩

/-- Binding an integer fails by the engine just when its call does. -/
theorem accounts_bindInt (index value : Int32) :
    Accounts cb roll (stmt.bindInt index value : Fallible E H Unit).run w
      (failures BindError.asEngine) :=
  accounts_succeed housed (fun _ _ => rfl) fun _ _ hp => ⟨_, rfl, hp⟩

/-- Binding a wide integer fails by the engine just when its call does. -/
theorem accounts_bindInt64 (index : Int32) (value : Int64) :
    Accounts cb roll (stmt.bindInt64 index value : Fallible E H Unit).run w
      (failures BindError.asEngine) :=
  accounts_succeed housed (fun _ _ => rfl) fun _ _ hp => ⟨_, rfl, hp⟩

/-- Binding a real fails by the engine just when its call does. -/
theorem accounts_bindDouble (index : Int32) (value : Binary64) :
    Accounts cb roll (stmt.bindDouble index value : Fallible E H Unit).run w
      (failures BindError.asEngine) :=
  accounts_succeed housed (fun _ _ => rfl) fun _ _ hp => ⟨_, rfl, hp⟩

/-- Binding a text fails by the engine just when its call does; a text that is too long is never
handed over. -/
theorem accounts_bindText (index : Int32) (value : String) :
    Accounts cb roll (stmt.bindText index value : Fallible E H Unit).run w
      (failures BindError.asEngine) := by
  refine accounts_live housed fun p hp => ?_
  refine .run_ofExcept_bind (fun _ => rfl) fun buffer _ => ?_
  exact .run_succeed (fun _ => rfl) fun _ => ⟨_, rfl, hp⟩

/-- Binding a blob fails by the engine just when its call does; a blob that is too long is never
handed over. -/
theorem accounts_bindBlob (index : Int32) (value : Bytes) :
    Accounts cb roll (stmt.bindBlob index value : Fallible E H Unit).run w
      (failures BindError.asEngine) := by
  refine accounts_live housed fun p hp => ?_
  refine .run_ofExcept_bind (fun _ => rfl) fun buffer _ => ?_
  exact .run_succeed (fun _ => rfl) fun _ => ⟨_, rfl, hp⟩

/-- Binding a value fails by the engine just when the call for its kind does. -/
theorem accounts_bindValue (index : Int32) (value : Value) :
    Accounts cb roll (stmt.bindValue index value : Fallible E H Unit).run w
      (failures BindError.asEngine) := by
  cases value with
  | null => exact accounts_bindNull housed index
  | integer v => exact accounts_bindInt64 housed index v
  | real v => exact accounts_bindDouble housed index v
  | text s => exact accounts_bindText housed index s
  | blob bs => exact accounts_bindBlob housed index bs

/-- Asking about a column comes after asking for the number of columns. -/
theorem accounts_column {α : Type} {index : Int32} {f : Program → Fallible E H α}
    (h : ∀ p w, Accounts cb roll (f p).run w (failures BindError.asEngine)) :
    Accounts cb roll (stmt.column index >>= f).run w (failures BindError.asEngine) := by
  unfold column
  rw [bind_assoc]
  refine accounts_live housed fun p _ => ?_
  rw [bind_assoc]
  refine .run_lift_bind (.call fun _ => rfl) fun count w' => ?_
  split
  · exact .run_throw rfl
  · exact h p w'

/-- Asking about a column of the current row. -/
theorem accounts_rowColumn {α : Type} {index : Int32} {f : Program → Fallible E H α}
    (h : ∀ p w, Accounts cb roll (f p).run w (failures BindError.asEngine)) :
    Accounts cb roll (stmt.rowColumn index >>= f).run w (failures BindError.asEngine) := by
  unfold rowColumn
  split
  · exact .run_throw rfl
  · exact accounts_column housed h

/-- Asking for the name of a column is no failure of the engine. -/
theorem accounts_columnName (index : Int32) :
    Accounts cb roll (stmt.columnName index : Fallible E H String).run w
      (failures BindError.asEngine) :=
  accounts_column housed fun _ _ => .run_lift_bind (.call fun _ => rfl) fun _ _ =>
    .run_requiredString

/-- Asking for the table of a column is no failure of the engine. -/
theorem accounts_columnTableName (index : Int32) :
    Accounts cb roll (stmt.columnTableName index : Fallible E H (Option String)).run w
      (failures BindError.asEngine) :=
  accounts_column housed fun _ _ => .run_lift_bind (.call fun _ => rfl) fun _ _ =>
    .run_ofExcept fun _ => rfl

/-- Asking for the declared type of a column is no failure of the engine. -/
theorem accounts_columnDecltype (index : Int32) :
    Accounts cb roll (stmt.columnDecltype index : Fallible E H (Option String)).run w
      (failures BindError.asEngine) :=
  accounts_column housed fun _ _ => .run_lift_bind (.call fun _ => rfl) fun _ _ =>
    .run_ofExcept fun _ => rfl

omit housed in
/-- Asking how a column is stored is no failure of the engine. -/
theorem accounts_storedType (p : Program) (index : Int32) (w : World E H) :
    Accounts cb roll (storedType p index : Fallible E H ColumnType).run w
      (failures BindError.asEngine) :=
  .run_lift_bind (.call fun _ => rfl) fun _ _ => .run_pure _

/-- Asking for the type of a column is no failure of the engine. -/
theorem accounts_columnType (index : Int32) :
    Accounts cb roll (stmt.columnType index : Fallible E H ColumnType).run w
      (failures BindError.asEngine) :=
  accounts_rowColumn housed fun p _ => accounts_storedType p index _

/-- Reading a text is no failure of the engine. -/
theorem accounts_columnText (index : Int32) :
    Accounts cb roll (stmt.columnText index : Fallible E H (Option String)).run w
      (failures BindError.asEngine) := by
  refine accounts_rowColumn housed fun p _ => ?_
  refine .run_bind (accounts_storedType p index _) fun type _ _ => ?_
  split
  · exact .run_pure _
  · exact .run_lift_bind (.call fun _ => rfl) fun pointer _ =>
      .run_lift_bind (.call fun _ => rfl) fun length _ => .run_ofExcept fun _ => rfl

/-- Reading a blob is no failure of the engine. -/
theorem accounts_columnBlob (index : Int32) :
    Accounts cb roll (stmt.columnBlob index : Fallible E H (Option Bytes)).run w
      (failures BindError.asEngine) := by
  refine accounts_rowColumn housed fun p _ => ?_
  refine .run_bind (accounts_storedType p index _) fun type _ _ => ?_
  split
  · exact .run_pure _
  · exact .run_lift_bind (.call fun _ => rfl) fun pointer _ =>
      .run_lift_bind (.call fun _ => rfl) fun length _ => .run_pure _

/-- Reading a wide integer is no failure of the engine. -/
theorem accounts_columnInt64 (index : Int32) :
    Accounts cb roll (stmt.columnInt64 index : Fallible E H Int64).run w
      (failures BindError.asEngine) :=
  accounts_rowColumn housed fun _ _ => .run_lift (.call fun _ => rfl)

/-- Reading a real is no failure of the engine. -/
theorem accounts_columnDouble (index : Int32) :
    Accounts cb roll (stmt.columnDouble index : Fallible E H Binary64).run w
      (failures BindError.asEngine) :=
  accounts_rowColumn housed fun _ _ => .run_lift (.call fun _ => rfl)

/-- Reading an integer is no failure of the engine. -/
theorem accounts_columnInt (index : Int32) :
    Accounts cb roll (stmt.columnInt index : Fallible E H Int32).run w
      (failures BindError.asEngine) :=
  accounts_rowColumn housed fun _ _ => .run_lift (.call fun _ => rfl)

/-- Reading a length is no failure of the engine. -/
theorem accounts_columnBytes (index : Int32) :
    Accounts cb roll (stmt.columnBytes index : Fallible E H Int32).run w
      (failures BindError.asEngine) :=
  accounts_rowColumn housed fun _ _ => .run_lift (.call fun _ => rfl)

/-- Reading a value of any kind is no failure of the engine. -/
theorem accounts_columnValue (index : Int32) :
    Accounts cb roll (stmt.columnValue index : Fallible E H Value).run w
      (failures BindError.asEngine) := by
  refine .run_bind (accounts_columnType housed index) fun type _ _ => ?_
  cases type with
  | null => exact .run_pure _
  | integer => exact .run_bind (accounts_columnInt64 housed index) fun _ _ _ => .run_pure _
  | float => exact .run_bind (accounts_columnDouble housed index) fun _ _ _ => .run_pure _
  | text => exact .run_bind (accounts_columnText housed index) fun _ _ _ => .run_pure _
  | blob => exact .run_bind (accounts_columnBlob housed index) fun _ _ _ => .run_pure _

/-- Counting the parameters is no failure of the engine. -/
theorem accounts_bindParameterCount :
    Accounts cb roll (stmt.bindParameterCount : Fallible E H Int32).run w
      (failures BindError.asEngine) :=
  accounts_live housed fun _ _ => .run_lift (.call fun _ => rfl)

/-- Counting the columns is no failure of the engine. -/
theorem accounts_columnCount : Accounts cb roll (stmt.columnCount : Fallible E H Int32).run w
    (failures BindError.asEngine) :=
  accounts_live housed fun _ _ => .run_lift (.call fun _ => rfl)

/-! ## Statements that move -/

/-- A reset fails by the engine just when its call does. -/
theorem accounts_reset :
    Accounts cb roll stmt.reset w fun r => failures BindError.asEngine r.1 := by
  unfold reset
  cases handle : stmt.handle with
  | none => exact .pure rfl
  | some p =>
    have done : Accounts cb roll (Fallible.succeed (some stmt.database) (.reset p) (·)).run w
        (failures BindError.asEngine) :=
      .run_succeed (fun _ => rfl) fun _ => ⟨_, rfl, housed p handle⟩
    exact done.bind_pure fun _ _ => ⟨.pure rfl, rfl⟩

/-- Finalizing fails by the engine just when its call does. -/
theorem accounts_finalize :
    Accounts cb roll stmt.finalize w fun r => failures BindError.asEngine r.1 := by
  unfold finalize
  cases handle : stmt.handle with
  | none => exact .pure rfl
  | some p =>
    refine .bind (.record trivial) fun _ w' => ?_
    have done : Accounts cb roll (Fallible.succeed (some stmt.database) (.finalize p) (·)).run w'
        (failures BindError.asEngine) :=
      .run_succeed (fun _ => rfl) fun _ => ⟨_, rfl, housed p handle⟩
    exact done.bind_pure fun _ _ => ⟨.pure rfl, rfl⟩

/-- Nobody waits for a statement to be finalized that goes out of use. -/
theorem accounts_drop (retiring : roll.retiring stmt) :
    Accounts cb roll stmt.drop w fun _ => [] := by
  unfold drop
  split
  · next isSome =>
    obtain ⟨p, handle⟩ := Option.isSome_iff_exists.mp isSome
    let v := w.record (.reported (.finalizing stmt.sql))
    have noted : Course cb roll [] w v := .remark trivial
    have run := stmt.finalize_run handle w
    unfold Accounts
    by_cases done : (v.announced (.finalize p)).answer (.finalize p) = (0 : Int32)
    · rw [if_pos done] at run
      rw [show (stmt.finalize >>= _) w = _ from Bridge.run_bind_of_run run]
      refine noted.andThen (.called fun code answered => ?_)
      exact (Option.some.inj answered).symm.trans done
    · rw [if_neg done] at run
      rw [show (stmt.finalize >>= _) w = _ from Bridge.run_bind_of_run run]
      have announced : Course cb roll [] v (v.announced (.finalize p)) := .remark trivial
      refine noted.andThen (announced.andThen ?_)
      exact .unfinalized retiring handle (housed p handle) rfl done
  · exact .pure rfl

/-- A step that comes neither to a row nor to the end is diagnosed. -/
theorem accounts_step :
    Accounts cb roll (stmt.step cb) w fun r => failures BindError.asEngine r.1 := by
  unfold step
  cases handle : stmt.handle with
  | none => exact .pure rfl
  | some p =>
    cases run : Upcall.execute cb (.step p) w with
    | mk code w₁ =>
      dsimp only
      unfold Accounts
      rw [show (Upcall.execute cb (.step p) >>= _) w = _ from Bridge.run_bind_of_run run]
      have succeeds := Execution.succeeds_step_iff p code
      split
      · next hrow => exact .executed run (succeeds.mpr (.inl hrow))
      · next hdone => exact .executed run (succeeds.mpr (.inr hdone))
      · next hrow hdone =>
        have fails : ¬ (Execution.step p).Succeeds code := fun h =>
          (succeeds.mp h).elim hrow hdone
        have informed :
            Operand.Informed roll.home (Execution.step p).operands (some stmt.database) :=
          ⟨_, rfl, housed p handle⟩
        rw [Bridge.run_bind_of_run (Bridge.diagnose_run _ _ _ _)]
        exact .unexecuted run fails informed

end Statement

end EngineBridge
