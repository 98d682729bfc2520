import EngineBridge.Proofs.Values.Cells
import EngineBridge.Scripted.Engine

/-!
# Cells of the scripted engine

With nothing left in its script the scripted engine does not change when it is asked about
values, so it shows the cells that are in its tables.

The other engine here keeps texts in an encoding that takes up twice as many octets, until a text is
asked for: the cells that it shows change.
-/

set_option autoImplicit false

namespace EngineBridge.Scripted

open Native

/-- The answers about a cell. -/
def Cell.shown (cell : Cell) : Native.Cell :=
  { type := cell.type, int64 := cell.int64, double := cell.double, text := cell.text,
    blob := cell.blob, bytes := cell.bytes }

variable {s : State}

/-- Nothing is taken from an empty script. -/
theorem State.take_of_idle (idle : s.script.items = []) (symbol : Symbol) :
    s.take symbol = (none, s) := by
  obtain ⟨⟨items⟩, databases, programs, invocations⟩ := s
  cases idle
  rfl

/-- A number that no script changes is the one by default. -/
theorem State.number_of_idle (idle : s.script.items = []) (symbol : Symbol) (default : Int32) :
    s.number symbol default = (default, s) := by
  unfold State.number
  rw [take_of_idle idle]
  rfl

/-- To be asked about values leaves the engine as it is. -/
theorem answer_of_idle (idle : s.script.items = []) {c : Call} (ask : c.Inquires) :
    (answer s c).2 = s := by
  cases c with
  | columnCount | columnType | valueType => exact congrArg Prod.snd (State.number_of_idle idle _ _)
  | userData c =>
    unfold answer
    dsimp only
    rw [State.take_of_idle idle]
  | columnText | columnBlob | columnDouble | columnInt | columnInt64 | columnBytes => rfl
  | valueInt64 | valueDouble | valueText | valueBlob | valueBytes => rfl
  | _ => exact ask.elim

/-- To be asked about values again and again leaves the engine as it is. -/
theorem after_of_idle (idle : s.script.items = []) (calls : List Call)
    (ask : ∀ c ∈ calls, c.Inquires) : Engine.after engine s calls = s := by
  induction calls with
  | nil => rfl
  | cons c calls ih =>
    rw [List.forall_mem_cons] at ask
    change Engine.after engine (answer s c).2 calls = s
    rw [answer_of_idle idle ask.1]
    exact ih ask.2

/-- A column shows the cell of the current row. -/
theorem shows_column (idle : s.script.items = []) (p : Program) (index : Int32) :
    Engine.Shows engine s (.column p index) fun _ => (s.cell p index).shown := by
  intro calls ask
  have type : (answer s (.columnType p index)).1 = (s.cell p index).type :=
    congrArg Prod.fst (State.number_of_idle idle _ _)
  rw [after_of_idle idle calls ask]
  unfold Engine.cell Cell.shown
  rw [← type]
  rfl

/-- A statement has the columns that it was made with. -/
theorem hasColumn_of_idle (idle : s.script.items = []) (p : Program) {index : Int32}
    (nonneg : 0 ≤ index)
    (inside : index < Int32.ofNat (((s.program? p).map (·.columns)).getD []).length) :
    Engine.HasColumn engine s p index := by
  refine ⟨nonneg, fun calls ask => ?_⟩
  have count : (answer s (.columnCount p)).1 = _ :=
    congrArg Prod.fst (State.number_of_idle idle _ _)
  rw [after_of_idle idle calls ask]
  exact count ▸ inside

/-! ## Cells that change -/

/-- The place that a call asks for a text at. -/
def narrowing : Call → Option Place
  | .columnText p i => some (.column p i)
  | .valueText a => some (.argument a)
  | _ => none

/-- How many octets there are at a place: twice as many before a text is asked for there. -/
def Cell.bytesAt (cell : Cell) (place : Place) (narrowed : List Place) : Int32 :=
  if place ∈ narrowed then cell.bytes else 2 * cell.bytes

/-- The scripted engine with texts that take up twice as many octets until they are asked for.
Its state tells where that has been done. -/
def wideEngine : Native.Engine where
  State := State × List Place
  Stimulus := Unit
  Response := Unit
  answer s c :=
    let next := ((answer s.1 c).2, (narrowing c).toList ++ s.2)
    match c with
    | .columnBytes p i => ((s.1.cell p i).bytesAt (.column p i) s.2, next)
    | .valueBytes a => ((s.1.argument a).bytesAt (.argument a) s.2, next)
    | c => ((answer s.1 c).1, next)
  execute s _ := .done 0 s
  stimulate s _ := .done () s

/-- The answers about a cell of this engine after some conversions. -/
def Cell.shownWide (cell : Cell) (forms : List Form) : Native.Cell :=
  { cell.shown with bytes := if .text ∈ forms then cell.bytes else 2 * cell.bytes }

/-- To ask for a text at a place is to ask for this conversion there. -/
theorem narrowing_eq_some_iff {place : Place} {c : Call} :
    narrowing c = some place ↔ place.conversion c = some .text := by
  have conversion : place.conversion c = some .text ↔ c = place.text := by
    unfold Place.conversion
    split
    · next text => simp [text]
    · next other => split <;> simp [other]
  rw [conversion]
  cases place <;> cases c <;> simp [narrowing, Place.text]

/-- To be asked about values again and again leaves this engine as it is, but for the places where
texts have been asked for. -/
theorem wide_after_of_idle (idle : s.script.items = []) (calls : List Call)
    (ask : ∀ c ∈ calls, c.Inquires) (narrowed : List Place) :
    wideEngine.after (s, narrowed) calls =
      (s, (calls.filterMap narrowing).reverse ++ narrowed) := by
  induction calls generalizing narrowed with
  | nil => rfl
  | cons c calls ih =>
    rw [List.forall_mem_cons] at ask
    have next : (wideEngine.answer (s, narrowed) c).2 = (s, (narrowing c).toList ++ narrowed) := by
      have kept : (wideEngine.answer (s, narrowed) c).2 =
          ((answer s c).2, (narrowing c).toList ++ narrowed) := by
        cases c <;> rfl
      rw [kept, answer_of_idle idle ask.1]
    change wideEngine.after (wideEngine.answer (s, narrowed) c).2 calls = _
    rw [next, ih ask.2]
    cases narrows : narrowing c with
    | none =>
      rw [List.filterMap_cons_none narrows]
      rfl
    | some place =>
      rw [List.filterMap_cons_some narrows, List.reverse_cons, List.append_assoc]
      rfl

/-- Texts have been asked for at a place if they are among the conversions there. -/
theorem mem_narrowed_iff {place : Place} {calls : List Call} :
    place ∈ (calls.filterMap narrowing).reverse ++ [] ↔
      .text ∈ calls.filterMap place.conversion := by
  simp [narrowing_eq_some_iff]

/-- A column shows the cell of the current row, with more octets before a text is asked for. -/
theorem wide_shows_column (idle : s.script.items = []) (p : Program) (index : Int32) :
    wideEngine.Shows (s, []) (.column p index) (s.cell p index).shownWide := by
  intro calls ask
  have type : (answer s (.columnType p index)).1 = (s.cell p index).type :=
    congrArg Prod.fst (State.number_of_idle idle _ _)
  rw [wide_after_of_idle idle calls ask]
  unfold Engine.cell Cell.shownWide Cell.shown
  simp only [← mem_narrowed_iff, ← type]
  rfl

/-- An argument shows the cell that came with the invocation, with more octets before a text is
asked for. -/
theorem wide_shows_argument (idle : s.script.items = []) (a : Argument) :
    wideEngine.Shows (s, []) (.argument a) (s.argument a).shownWide := by
  intro calls ask
  have type : (answer s (.valueType a)).1 = (s.argument a).type :=
    congrArg Prod.fst (State.number_of_idle idle _ _)
  rw [wide_after_of_idle idle calls ask]
  unfold Engine.cell Cell.shownWide Cell.shown
  simp only [← mem_narrowed_iff, ← type]
  rfl

/-- A statement has the columns that it was made with. -/
theorem wide_hasColumn_of_idle (idle : s.script.items = []) (p : Program) {index : Int32}
    (nonneg : 0 ≤ index)
    (inside : index < Int32.ofNat (((s.program? p).map (·.columns)).getD []).length) :
    wideEngine.HasColumn (s, []) p index := by
  refine ⟨nonneg, fun calls ask => ?_⟩
  have count : (answer s (.columnCount p)).1 = _ :=
    congrArg Prod.fst (State.number_of_idle idle _ _)
  rw [wide_after_of_idle idle calls ask]
  exact count ▸ inside

end EngineBridge.Scripted
