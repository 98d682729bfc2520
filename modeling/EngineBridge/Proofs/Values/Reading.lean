import EngineBridge.Proofs.Custody.Diagnosing
import EngineBridge.Proofs.Values.ScriptedCells

/-!
# Reading cells

A column of the current row and an argument of an invocation are read by different routines.
The one for columns makes sure of the row, the column and the storage class, and does so
again for texts and octets; the one for arguments does nothing of the kind.  Here both are
shown to read a cell as `readCell` says, and to ask the same questions about its content in
the same order.
-/

set_option autoImplicit false

namespace EngineBridge

open Native

variable {E F : Engine} {H G : Host}

namespace World

/-- The world after several calls have been announced, made and answered. -/
def calledAll (w : World E H) (calls : List Call) : World E H :=
  calls.foldl called w

/-- The world after several calls have been answered. -/
def askedAll (w : World E H) (calls : List Call) : World E H :=
  calls.foldl asked w

end World

/-- A call is announced and answered. -/
theorem Fallible.lift_call_run (c : Call) (w : World E H) :
    (Fallible.lift (Bridge.call c) : Fallible E H c.Answer).run.run w =
      (.ok (w.answer c), w.called c) :=
  rfl

/-- The outcome of a conversion leaves the world as it is. -/
theorem Fallible.ofExcept_run_eq {ε α : Type} (convert : ε → BindError) (r : Except ε α)
    (w : World E H) :
    (Fallible.ofExcept convert r : Fallible E H α).run.run w = (r.mapError convert, w) := by
  cases r <;> rfl

/-- A value is made from the result of a computation that can fail. -/
theorem Fallible.run_map_of_run {α β : Type} {m : Fallible E H α} {f : α → β}
    {w w' : World E H} {r : Except BindError α} (h : m.run.run w = (r, w')) :
    (do return f (← m) : Fallible E H β).run.run w = (r.map f, w') := by
  rw [ExceptT.run_bind]
  refine (Bridge.run_bind_of_run h).trans ?_
  cases r <;> rfl

/-! ## Columns -/

namespace Statement

/-- A row of a statement is current, and the engine shows a cell in one of its columns. -/
structure Displays (stmt : Statement) (w : World E H) (program : Program) (index : Int32)
    (cell : List Form → Cell) : Prop where
  handle : stmt.handle = some program
  row : stmt.state = .stepping
  column : E.HasColumn w.engine program index
  cell : E.Shows w.engine (.column program index) cell

variable {stmt : Statement} {w : World E H} {p : Program} {index : Int32}
  {cell : List Form → Cell}

namespace Displays

/-- A question that is no conversion leaves everything as it is. -/
theorem called {c : Call} (h : stmt.Displays w p index cell) (ask : c.Inquires)
    (plain : (Place.column p index).conversion c = none) :
    stmt.Displays (w.called c) p index cell :=
  { h with column := h.column.ask ask, cell := h.cell.ask ask plain }

/-- A cell is still displayed when the columns have been counted. -/
theorem columnCount (h : stmt.Displays w p index cell) :
    stmt.Displays (w.called (.columnCount p)) p index cell :=
  h.called trivial (by simp [Place.conversion, Place.text, Place.blob])

/-- A cell is still displayed when its type has been asked for. -/
theorem columnType (h : stmt.Displays w p index cell) :
    stmt.Displays (w.called (.columnType p index)) p index cell :=
  h.called trivial (by simp [Place.conversion, Place.text, Place.blob])

/-- The type code is that of the cell. -/
theorem type_eq (h : stmt.Displays w p index cell) :
    w.answer (.columnType p index) = (cell []).type :=
  congrArg Cell.type h.cell.cell_eq

/-- The number of octets is the one after the conversion to a text. -/
theorem bytes_text (h : stmt.Displays w p index cell) :
    (w.called (.columnText p index)).answer (.columnBytes p index) = (cell [.text]).bytes := by
  have converts : (Place.column p index).conversion (.columnText p index) = some .text := by
    simp [Place.conversion, Place.text]
  exact congrArg Cell.bytes (h.cell.convert converts).cell_eq

/-- The number of octets is the one after the conversion to octets. -/
theorem bytes_blob (h : stmt.Displays w p index cell) :
    (w.called (.columnBlob p index)).answer (.columnBytes p index) = (cell [.blob]).bytes := by
  have converts : (Place.column p index).conversion (.columnBlob p index) = some .blob := by
    simp [Place.conversion, Place.text, Place.blob]
  exact congrArg Cell.bytes (h.cell.convert converts).cell_eq

end Displays

/-- The column is there. -/
theorem rowColumn_run (h : stmt.Displays w p index cell) :
    (stmt.rowColumn index : Fallible E H Program).run.run w =
      (.ok p, w.called (.columnCount p)) := by
  have inside : ¬ (index < 0 ∨ w.answer (.columnCount p) ≤ index) := by
    rintro (below | above)
    · exact absurd h.column.1 (Int32.not_le.mpr below)
    · exact absurd (h.column.2 [] (by simp)) (Int32.not_lt.mpr above)
  have live : (stmt.live : Fallible E H Program).run.run w = (.ok p, w) := by
    unfold Statement.live
    rw [h.handle]
    rfl
  have found : (stmt.column index : Fallible E H Program).run.run w =
      (.ok p, w.called (.columnCount p)) := by
    unfold Statement.column
    rw [Fallible.run_bind_of_run live, Fallible.run_bind_of_run (Fallible.lift_call_run _ w),
      if_neg inside]
    rfl
  unfold Statement.rowColumn
  rw [if_neg (by simp [h.row])]
  exact found

/-- The storage class is asked for once the column is there. -/
theorem columnType_run (h : stmt.Displays w p index cell) :
    (stmt.columnType index : Fallible E H ColumnType).run.run w =
      (.ok (.ofCode (cell []).type), w.calledAll [.columnCount p, .columnType p index]) := by
  have asked := Fallible.lift_call_run (.columnType p index) (w.called (.columnCount p))
  rw [h.columnCount.type_eq] at asked
  unfold Statement.columnType storedType
  rw [Fallible.run_bind_of_run (rowColumn_run h), Fallible.run_bind_of_run asked]
  rfl

/-- What is asked before a text or octets are asked for. -/
theorem storedType_run (h : stmt.Displays w p index cell) :
    (storedType p index : Fallible E H ColumnType).run.run w =
      (.ok (.ofCode (cell []).type), w.called (.columnType p index)) := by
  have asked := Fallible.lift_call_run (.columnType p index) w
  rw [h.type_eq] at asked
  unfold storedType
  rw [Fallible.run_bind_of_run asked]
  rfl

/-- A column that is not null is read as a text by its pointer and its number of octets. -/
theorem columnText_run (h : stmt.Displays w p index cell)
    (stored : ColumnType.ofCode (cell []).type ≠ .null) :
    (stmt.columnText index : Fallible E H (Option String)).run.run w =
      ((decodeText (cell []).text (cell [.text]).bytes).mapError .ofCodec,
        w.calledAll [.columnCount p, .columnType p index, .columnText p index,
          .columnBytes p index]) := by
  have h₂ := h.columnCount.columnType
  have pointer := Fallible.lift_call_run (.columnText p index)
    ((w.called (.columnCount p)).called (.columnType p index))
  have length := Fallible.lift_call_run (.columnBytes p index)
    (((w.called (.columnCount p)).called (.columnType p index)).called (.columnText p index))
  rw [show World.answer _ (.columnText p index) = _ from congrArg Cell.text h₂.cell.cell_eq]
    at pointer
  rw [h₂.bytes_text] at length
  unfold Statement.columnText
  rw [Fallible.run_bind_of_run (rowColumn_run h),
    Fallible.run_bind_of_run (storedType_run h.columnCount), if_neg stored,
    Fallible.run_bind_of_run pointer, Fallible.run_bind_of_run length]
  exact Fallible.ofExcept_run_eq _ _ _

/-- A column that is not null is read as octets by its pointer and its number of octets. -/
theorem columnBlob_run (h : stmt.Displays w p index cell)
    (stored : ColumnType.ofCode (cell []).type ≠ .null) :
    (stmt.columnBlob index : Fallible E H (Option Bytes)).run.run w =
      (.ok (decodeBlob (cell []).blob (cell [.blob]).bytes),
        w.calledAll [.columnCount p, .columnType p index, .columnBlob p index,
          .columnBytes p index]) := by
  have h₂ := h.columnCount.columnType
  have pointer := Fallible.lift_call_run (.columnBlob p index)
    ((w.called (.columnCount p)).called (.columnType p index))
  have length := Fallible.lift_call_run (.columnBytes p index)
    (((w.called (.columnCount p)).called (.columnType p index)).called (.columnBlob p index))
  rw [show World.answer _ (.columnBlob p index) = _ from congrArg Cell.blob h₂.cell.cell_eq]
    at pointer
  rw [h₂.bytes_blob] at length
  unfold Statement.columnBlob
  rw [Fallible.run_bind_of_run (rowColumn_run h),
    Fallible.run_bind_of_run (storedType_run h.columnCount), if_neg stored,
    Fallible.run_bind_of_run pointer, Fallible.run_bind_of_run length]
  rfl

/-- An integer is asked for once the column is there. -/
theorem columnInt64_run (h : stmt.Displays w p index cell) :
    (stmt.columnInt64 index : Fallible E H Int64).run.run w =
      (.ok (cell []).int64, w.calledAll [.columnCount p, .columnInt64 p index]) := by
  have asked := Fallible.lift_call_run (.columnInt64 p index) (w.called (.columnCount p))
  rw [show World.answer _ (.columnInt64 p index) = _ from
    congrArg Cell.int64 h.columnCount.cell.cell_eq] at asked
  unfold Statement.columnInt64
  rw [Fallible.run_bind_of_run (rowColumn_run h)]
  exact asked

/-- A number is asked for once the column is there. -/
theorem columnDouble_run (h : stmt.Displays w p index cell) :
    (stmt.columnDouble index : Fallible E H Binary64).run.run w =
      (.ok (cell []).double, w.calledAll [.columnCount p, .columnDouble p index]) := by
  have asked := Fallible.lift_call_run (.columnDouble p index) (w.called (.columnCount p))
  rw [show World.answer _ (.columnDouble p index) = _ from
    congrArg Cell.double h.columnCount.cell.cell_eq] at asked
  unfold Statement.columnDouble
  rw [Fallible.run_bind_of_run (rowColumn_run h)]
  exact asked

/-- A column is read as its cell is, after nothing but questions for the number of columns and
for the storage class. -/
theorem columnValue_run (h : stmt.Displays w p index cell) :
    ∃ before : List Call, (∀ c ∈ before, c = .columnCount p ∨ c = .columnType p index) ∧
      (stmt.columnValue index : Fallible E H Value).run.run w =
        ((readCell cell).mapError .ofCodec,
          w.calledAll (before ++
            (Place.column p index).questions (.ofCode (cell []).type))) := by
  have h₂ := h.columnCount.columnType
  unfold Statement.columnValue readCell
  rw [Fallible.run_bind_of_run (columnType_run h)]
  cases stored : ColumnType.ofCode (cell []).type with
  | null => exact ⟨[.columnCount p, .columnType p index], by simp, rfl⟩
  | integer =>
    refine ⟨[.columnCount p, .columnType p index, .columnCount p], by simp, ?_⟩
    exact Fallible.run_map_of_run (columnInt64_run h₂)
  | float =>
    refine ⟨[.columnCount p, .columnType p index, .columnCount p], by simp, ?_⟩
    exact Fallible.run_map_of_run (columnDouble_run h₂)
  | text =>
    refine ⟨[.columnCount p, .columnType p index, .columnCount p, .columnType p index],
      by simp, ?_⟩
    refine (Fallible.run_map_of_run (columnText_run h₂ (by simp [stored]))).trans ?_
    rw [← map_ofOption_text]
    cases decodeText (cell []).text (cell [.text]).bytes <;> rfl
  | blob =>
    refine ⟨[.columnCount p, .columnType p index, .columnCount p, .columnType p index],
      by simp, ?_⟩
    rw [← ok_ofOption_blob]
    exact Fallible.run_map_of_run (columnBlob_run h₂ (by simp [stored]))

end Statement

/-! ## Arguments -/

/-- An argument is read as its cell is. -/
theorem Upcall.readArgument_run {a : Argument} {cell : List Form → Cell} {w : World E H}
    (h : E.Shows w.engine (.argument a) cell) :
    (Upcall.readArgument a).run w =
      (readCell cell, w.askedAll (.valueType a ::
        (Place.argument a).questions (.ofCode (cell []).type))) := by
  have plain : (Place.argument a).conversion (.valueType a) = none := by
    simp [Place.conversion, Place.text, Place.blob]
  have h₁ : E.Shows (w.asked (.valueType a)).engine (.argument a) cell :=
    h.ask (c := .valueType a) trivial plain
  have type : w.answer (.valueType a) = (cell []).type := congrArg Cell.type h.cell_eq
  have asked : (Bridge.ask (.valueType a) : Bridge E H Int32).run w =
      ((cell []).type, w.asked (.valueType a)) := Prod.ext type rfl
  unfold Upcall.readArgument readCell
  rw [Bridge.run_bind_of_run asked]
  cases ColumnType.ofCode (cell []).type with
  | null => rfl
  | integer =>
    have int64 : World.answer _ (.valueInt64 a) = _ := congrArg Cell.int64 h₁.cell_eq
    rw [← int64]
    rfl
  | float =>
    have double : World.answer _ (.valueDouble a) = _ := congrArg Cell.double h₁.cell_eq
    rw [← double]
    rfl
  | text =>
    have converts : (Place.argument a).conversion (.valueText a) = some .text := by
      simp [Place.conversion, Place.text]
    have h₂ := h₁.convert converts
    have pointer : World.answer _ (.valueText a) = _ := congrArg Cell.text h₁.cell_eq
    have length : ((w.asked (.valueType a)).asked (.valueText a)).answer (.valueBytes a) = _ :=
      congrArg Cell.bytes h₂.cell_eq
    rw [← pointer, ← length]
    exact Prod.ext (map_ofOption_text _) rfl
  | blob =>
    have converts : (Place.argument a).conversion (.valueBlob a) = some .blob := by
      simp [Place.conversion, Place.text, Place.blob]
    have h₂ := h₁.convert converts
    have pointer : World.answer _ (.valueBlob a) = _ := congrArg Cell.blob h₁.cell_eq
    have length : ((w.asked (.valueType a)).asked (.valueBlob a)).answer (.valueBytes a) = _ :=
      congrArg Cell.bytes h₂.cell_eq
    rw [← pointer, ← length]
    exact Prod.ext (ok_ofOption_blob _) rfl

/-! ## Columns and arguments -/

/-- A column and an argument that the engine shows the same cell at are read alike, be it in
different worlds: both give the value that the cell is read as, or both fail because of the
same octet of a text.  About its content the same questions are asked, each with its answer
taken as it is at that moment: what is behind a pointer before the number of octets, and
nothing at all if the type code is that of null or unknown. -/
theorem columns_and_arguments_read_alike {stmt : Statement} {p : Program} {index : Int32}
    {a : Argument} {cell : List Form → Cell} {w : World E H} {v : World F G}
    (column : stmt.Displays w p index cell) (argument : F.Shows v.engine (.argument a) cell) :
    ∃ before : List Call, (∀ c ∈ before, c = .columnCount p ∨ c = .columnType p index) ∧
      (stmt.columnValue index : Fallible E H Value).run.run w =
        ((readCell cell).mapError .ofCodec,
          w.calledAll (before ++ (Place.column p index).questions (.ofCode (cell []).type))) ∧
      (Upcall.readArgument a).run v =
        (readCell cell, v.askedAll (.valueType a ::
          (Place.argument a).questions (.ofCode (cell []).type))) ∧
      ∀ e, readCell cell = .error e → ∃ validUpTo, e = .invalidUtf8 validUpTo := by
  obtain ⟨before, preliminary, read⟩ := Statement.columnValue_run column
  exact ⟨before, preliminary, read, Upcall.readArgument_run argument, fun _ => readCell_error⟩

/-- Two texts take up four octets each until they are asked for, and two octets then.  The first is
read as it is, in a column and as an argument; the second is no text and stops both readings after
its first octet. -/
theorem converted_texts_are_read_alike :
    let first : Scripted.Cell := { type := 3, text := some [0x61, 0x62], bytes := 2 }
    let second : Scripted.Cell := { type := 3, text := some [0x61, 0xe2], bytes := 2 }
    let engine : Scripted.State :=
      { programs := [{ database := ⟨1⟩, columns := [{}, {}], parameters := 0, rows := [],
                       coming := [], current := some [first, second] }]
        invocations := [{ key := none, arguments := [first, second] }] }
    let w : World Scripted.wideEngine ⟨Unit, Unit, Unit⟩ := { engine := (engine, []), host := () }
    let stmt : Statement :=
      { connection := ⟨1⟩, database := ⟨1⟩, handle := some ⟨1⟩, state := .stepping, sql := "" }
    let column (index : Int32) : Except BindError Value :=
      ((stmt.columnValue index : Fallible Scripted.wideEngine ⟨Unit, Unit, Unit⟩ Value).run.run w).1
    let argument (index : Nat) : Except CodecError Value :=
      ((Upcall.readArgument ⟨⟨1⟩, index⟩).run w).1
    w.answer (.columnBytes ⟨1⟩ 0) = (4 : Int32) ∧ column 0 = .ok (.text "ab") ∧
      argument 0 = .ok (.text "ab") ∧ column 1 = .error (.ofCodec (.invalidUtf8 1)) ∧
      argument 1 = .error (.invalidUtf8 1) := by
  intro first second engine w stmt column argument
  have idle : engine.script.items = [] := rfl
  have displays (index : Int32) (nonneg : 0 ≤ index) (inside : index < 2) :
      stmt.Displays w ⟨1⟩ index (engine.cell ⟨1⟩ index).shownWide :=
    { handle := rfl
      row := rfl
      column := Scripted.wide_hasColumn_of_idle idle ⟨1⟩ nonneg inside
      cell := Scripted.wide_shows_column idle ⟨1⟩ index }
  have read : readCell first.shownWide = .ok (.text "ab") := by decide +kernel
  have refused : readCell second.shownWide = .error (.invalidUtf8 1) := by decide +kernel
  obtain ⟨_, -, column₀, argument₀, -⟩ := columns_and_arguments_read_alike (v := w)
    (displays 0 (by decide) (by decide)) (Scripted.wide_shows_argument idle ⟨⟨1⟩, 0⟩)
  obtain ⟨_, -, column₁, argument₁, -⟩ := columns_and_arguments_read_alike (v := w)
    (displays 1 (by decide) (by decide)) (Scripted.wide_shows_argument idle ⟨⟨1⟩, 1⟩)
  have cell₀ : engine.cell ⟨1⟩ 0 = first := rfl
  have cell₁ : engine.cell ⟨1⟩ 1 = second := rfl
  rw [cell₀, read] at column₀ argument₀
  rw [cell₁, refused] at column₁ argument₁
  refine ⟨by decide +kernel, ?_, ?_, ?_, ?_⟩
  · exact congrArg Prod.fst column₀
  · exact congrArg Prod.fst argument₀
  · exact congrArg Prod.fst column₁
  · exact congrArg Prod.fst argument₁

end EngineBridge
