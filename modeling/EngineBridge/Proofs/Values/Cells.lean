import EngineBridge.Proofs.Upcall.Invocation

/-!
# Cells

What the engine says of a value that it holds.  A value stands in a column of the current
row or comes as an argument of an invocation, and at either place six things can be asked
about it.  To be asked for a text or for octets may have the engine convert the value, after
which the answers are others; so a cell at a place is a family of answers, one for every
list of conversions that have been asked for there.  Other questions, and questions about
other places, leave the cell as it is.
-/

set_option autoImplicit false

namespace EngineBridge

namespace Native

/-- The answers that the engine gives about a value. -/
structure Cell where
  type : Int32
  int64 : Int64
  double : Binary64
  text : Option Bytes
  blob : Option Bytes
  bytes : Int32
deriving DecidableEq

/-- What a value can be converted to. -/
inductive Form where
  | text
  | blob
deriving DecidableEq

/-- Where the engine shows a value. -/
inductive Place where
  /-- A column of the current row of a statement. -/
  | column (program : Program) (index : Int32)
  /-- An argument of an invocation. -/
  | argument (argument : Argument)
deriving DecidableEq

namespace Place

/-- The question for the type code at a place. -/
def type : Place → Call
  | .column p i => .columnType p i
  | .argument a => .valueType a

/-- The question for the integer at a place. -/
def int64 : Place → Call
  | .column p i => .columnInt64 p i
  | .argument a => .valueInt64 a

/-- The question for the number at a place. -/
def double : Place → Call
  | .column p i => .columnDouble p i
  | .argument a => .valueDouble a

/-- The question for the text at a place. -/
def text : Place → Call
  | .column p i => .columnText p i
  | .argument a => .valueText a

/-- The question for the octets at a place. -/
def blob : Place → Call
  | .column p i => .columnBlob p i
  | .argument a => .valueBlob a

/-- The question for the number of octets at a place. -/
def bytes : Place → Call
  | .column p i => .columnBytes p i
  | .argument a => .valueBytes a

/-- The conversion at a place that a call asks for. -/
def conversion (place : Place) (c : Call) : Option Form :=
  if c = place.text then some .text
  else if c = place.blob then some .blob
  else none

/-- The questions for the content of a value, in order: what is behind a pointer is asked for
before the number of octets, and of a null nothing is asked. -/
def questions (place : Place) : ColumnType → List Call
  | .null => []
  | .integer => [place.int64]
  | .float => [place.double]
  | .text => [place.text, place.bytes]
  | .blob => [place.blob, place.bytes]

end Place

/-- A question about the current row, an invocation or an argument. -/
def Call.Inquires : Call → Prop
  | .columnCount _ | .columnType .. | .columnText .. | .columnBlob .. | .columnDouble .. => True
  | .columnInt .. | .columnInt64 .. | .columnBytes .. => True
  | c => c.Inspects

/-- To ask for a conversion is to ask a question. -/
theorem Place.inquires_of_conversion {place : Place} {c : Call} {form : Form}
    (h : place.conversion c = some form) : c.Inquires := by
  unfold Place.conversion at h
  split at h
  · next text =>
    subst text
    cases place <;> trivial
  · split at h
    · next blob =>
      subst blob
      cases place <;> trivial
    · cases h

namespace Engine

variable {E : Engine}

/-- The state of an engine after several calls. -/
def after (E : Engine) (s : E.State) (calls : List Call) : E.State :=
  calls.foldl (fun s c => (E.answer s c).2) s

/-- The engine after some calls and then others has answered all of them in order. -/
theorem after_append (s : E.State) (first second : List Call) :
    E.after s (first ++ second) = E.after (E.after s first) second :=
  List.foldl_append

/-- The answers that an engine gives at a place. -/
def cell (E : Engine) (s : E.State) : Place → Cell
  | .column p i =>
    { type := (E.answer s (.columnType p i)).1
      int64 := (E.answer s (.columnInt64 p i)).1
      double := (E.answer s (.columnDouble p i)).1
      text := (E.answer s (.columnText p i)).1
      blob := (E.answer s (.columnBlob p i)).1
      bytes := (E.answer s (.columnBytes p i)).1 }
  | .argument a =>
    { type := (E.answer s (.valueType a)).1
      int64 := (E.answer s (.valueInt64 a)).1
      double := (E.answer s (.valueDouble a)).1
      text := (E.answer s (.valueText a)).1
      blob := (E.answer s (.valueBlob a)).1
      bytes := (E.answer s (.valueBytes a)).1 }

/-- An engine shows a cell at a place: whatever is asked, the answers there depend on the
conversions that have been asked for there, and on nothing else. -/
def Shows (E : Engine) (s : E.State) (place : Place) (cell : List Form → Cell) : Prop :=
  ∀ calls, (∀ c ∈ calls, c.Inquires) →
    E.cell (E.after s calls) place = cell (calls.filterMap place.conversion)

/-- A statement has a column with this index, whatever is asked. -/
def HasColumn (E : Engine) (s : E.State) (program : Program) (index : Int32) : Prop :=
  0 ≤ index ∧ ∀ calls, (∀ c ∈ calls, c.Inquires) →
    index < (E.answer (E.after s calls) (.columnCount program)).1

namespace Shows

variable {s : E.State} {place : Place} {cell : List Form → Cell}

/-- The answers before anything has been converted. -/
theorem cell_eq (h : E.Shows s place cell) : E.cell s place = cell [] :=
  h [] (by simp)

/-- After questions the cell is as it is after the conversions among them. -/
theorem after {calls : List Call} (h : E.Shows s place cell) (ask : ∀ c ∈ calls, c.Inquires) :
    E.Shows (E.after s calls) place fun forms =>
      cell (calls.filterMap place.conversion ++ forms) := by
  intro more asked
  rw [← after_append, h _ (List.forall_mem_append.mpr ⟨ask, asked⟩), List.filterMap_append]

/-- A question that is no conversion leaves the cell as it is. -/
theorem ask {c : Call} (h : E.Shows s place cell) (ask : c.Inquires)
    (plain : place.conversion c = none) : E.Shows (E.answer s c).2 place cell := by
  have next := h.after (List.forall_mem_singleton.mpr ask)
  rw [List.filterMap_cons_none plain] at next
  exact next

/-- A conversion leads to the answers after it. -/
theorem convert {c : Call} {form : Form} (h : E.Shows s place cell)
    (converts : place.conversion c = some form) :
    E.Shows (E.answer s c).2 place fun forms => cell (form :: forms) := by
  have next := h.after (List.forall_mem_singleton.mpr (Place.inquires_of_conversion converts))
  rw [List.filterMap_cons_some converts] at next
  exact next

end Shows

/-- Questions leave a statement with its columns. -/
theorem HasColumn.ask {s : E.State} {program : Program} {index : Int32} {c : Call}
    (h : E.HasColumn s program index) (ask : c.Inquires) :
    E.HasColumn (E.answer s c).2 program index :=
  ⟨h.1, fun calls asked => h.2 (c :: calls) (List.forall_mem_cons.mpr ⟨ask, asked⟩)⟩

end Engine

end Native

open Native

/-- How a cell is read: by its type code, a text or octets at the pointer that is there first
and with the number of octets that there is afterwards.  Where nothing is at the pointer the value
is null. -/
def readCell (cell : List Form → Cell) : Except CodecError Value :=
  match ColumnType.ofCode (cell []).type with
  | .null => .ok .null
  | .integer => .ok (.integer (cell []).int64)
  | .float => .ok (.real (cell []).double)
  | .text =>
    match decodeText (cell []).text (cell [.text]).bytes with
    | .ok none => .ok .null
    | .ok (some s) => .ok (.text s)
    | .error e => .error e
  | .blob =>
    match decodeBlob (cell []).blob (cell [.blob]).bytes with
    | none => .ok .null
    | some bs => .ok (.blob bs)

/-- A text that was decoded makes a value as in `readCell`. -/
theorem map_ofOption_text (decoded : Except CodecError (Option String)) :
    decoded.map (Value.ofOption .text) =
      match decoded with
      | .ok none => .ok Value.null
      | .ok (some s) => .ok (.text s)
      | .error e => .error e := by
  rcases decoded with e | (_ | s) <;> rfl

/-- Octets that were decoded make a value as in `readCell`. -/
theorem ok_ofOption_blob (decoded : Option Bytes) :
    (.ok (.ofOption .blob decoded) : Except CodecError Value) =
      match decoded with
      | none => .ok .null
      | some bs => .ok (.blob bs) := by
  cases decoded <;> rfl

/-- A text cannot be decoded for one reason only. -/
theorem decodeText_error {pointer : Option Bytes} {length : Int32} {e : CodecError}
    (h : decodeText pointer length = .error e) : ∃ validUpTo, e = .invalidUtf8 validUpTo := by
  unfold decodeText at h
  split at h
  · cases h
  · split at h
    · cases h
    · cases h
      exact ⟨_, rfl⟩

/-- A cell cannot be read for one reason only. -/
theorem readCell_error {cell : List Form → Cell} {e : CodecError}
    (h : readCell cell = .error e) : ∃ validUpTo, e = .invalidUtf8 validUpTo := by
  unfold readCell at h
  split at h
  · cases h
  · cases h
  · cases h
  · split at h
    · cases h
    · cases h
    · next decoded =>
      cases h
      exact decodeText_error decoded
  · split at h <;> cases h

end EngineBridge
