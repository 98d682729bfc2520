import EngineBridge.Proofs.Failure.Course
import EngineBridge.Proofs.Values.Reading

/-!
# Values survive the boundary

The engine is handed values in two ways, as parameters of statements and as results of
invocations, and shows values at two places, in columns and as arguments.  An engine that
keeps what it is handed says of it, at any of these places, the type code that belongs to the
call, the same number, or as many octets as it was told, behind a pointer that may be null if
there are none.  Then every value comes back as it was, whichever way it went.

The transcript says what was handed over last (`World.handedTo`), and `GivesBack` says of a
moment that a value is read for as long as nothing else has been handed over.
-/

set_option autoImplicit false

namespace EngineBridge

open Native

variable {E : Engine} {H : Host}

namespace Native

/-- What the engine is handed. -/
inductive Handed where
  | null
  | integer (v : Int64)
  | real (x : Binary64)
  | text (value : Buffer)
  | blob (value : Buffer)
  | error (message : Buffer)
deriving DecidableEq

/-- Where the engine keeps what it is handed. -/
inductive Holder where
  | parameter (program : Program) (index : Int32)
  | result (context : Context)
deriving DecidableEq

/-- What a call hands to the engine, and where it is kept. -/
def Call.hands : Call → Option (Holder × Handed)
  | .bindNull p i => some (.parameter p i, .null)
  | .bindInt p i v => some (.parameter p i, .integer v.toInt64)
  | .bindInt64 p i v => some (.parameter p i, .integer v)
  | .bindDouble p i x => some (.parameter p i, .real x)
  | .bindText p i value _ => some (.parameter p i, .text value)
  | .bindBlob p i value _ => some (.parameter p i, .blob value)
  | .resultNull c => some (.result c, .null)
  | .resultInt c v => some (.result c, .integer v.toInt64)
  | .resultInt64 c v => some (.result c, .integer v)
  | .resultDouble c x => some (.result c, .real x)
  | .resultText c value _ => some (.result c, .text value)
  | .resultBlob c value _ => some (.result c, .blob value)
  | .resultError c message => some (.result c, .error message)
  | _ => none

/-- What a holder has after a call, if the call concerns it.  All parameters of a statement can
be made null at once. -/
def Call.handsTo (holder : Holder) : Call → Option Handed
  | .clearBindings p =>
    match holder with
    | .parameter q _ => if p = q then some .null else none
    | .result _ => none
  | c => (c.hands.filter (·.1 = holder)).map (·.2)

/-- The engine has taken a call. -/
def Call.accepted (c : Call) (answer : c.Answer) : Bool :=
  (c.resultCode answer).all (· == NamedCode.ok.value)

/-- As many octets as were handed over are at a pointer; it may be null if there are none. -/
def PointsTo (value : Buffer) : Option Bytes → Prop
  | none => value.length = 0
  | some memory => readMemory memory value.length.toInt.toNat = content value

/-- A cell says of a value what was handed over. -/
def Cell.Holds (cell : Cell) : Handed → Prop
  | .null => cell.type = 5
  | .integer v => cell.type = 1 ∧ cell.int64 = v
  | .real x => cell.type = 2 ∧ cell.double = x
  | .text value => cell.type = 3 ∧ cell.bytes = value.length ∧ PointsTo value cell.text
  | .blob value => cell.type = 4 ∧ cell.bytes = value.length ∧ PointsTo value cell.blob
  | .error _ => False

/-- An engine shows at a place what it was handed, whatever it is asked. -/
def Engine.Keeps (E : Engine) (s : E.State) (place : Place) (handed : Handed) : Prop :=
  ∃ cell, E.Shows s place cell ∧ ∀ forms, (cell forms).Holds handed

/-- Questions leave an engine with what it keeps. -/
theorem Engine.Keeps.after {s : E.State} {place : Place} {handed : Handed} {calls : List Call}
    (h : E.Keeps s place handed) (ask : ∀ c ∈ calls, c.Inquires) :
    E.Keeps (E.after s calls) place handed := by
  obtain ⟨cell, shows, holds⟩ := h
  exact ⟨_, shows.after ask, fun forms => holds _⟩

/-- A value goes to the engine as something that stands for it. -/
def Handed.Means : Handed → Value → Prop
  | .null, .null => True
  | .integer n, .integer v => n = v
  | .real x, .real y => x = y
  | .text value, .text s => content value = Utf8.encode s
  | .blob value, .blob bs => content value = bs
  | _, _ => False

end Native

/-- The octets at a pointer are those that were handed over. -/
theorem decodeBlob_of_pointsTo {value : Buffer} {pointer : Option Bytes}
    (h : PointsTo value pointer) : decodeBlob pointer value.length = some (content value) := by
  unfold decodeBlob
  split
  · next nonpos =>
    have empty : value.length.toInt.toNat = 0 := by
      have bound := Int32.le_iff_toInt_le.mp nonpos
      rw [Int32.toInt_zero] at bound
      omega
    simp [content, readMemory, empty]
  · next pos =>
    cases pointer with
    | none =>
      have zero : value.length = 0 := h
      simp [zero] at pos
    | some memory =>
      have same : readMemory memory value.length.toInt.toNat = content value := h
      rw [Option.map_some, same]

/-- What stands for a value is read as that value. -/
theorem readCell_of_holds {cell : List Form → Cell} {handed : Handed} {v : Value}
    (means : handed.Means v) (holds : ∀ forms, (cell forms).Holds handed) :
    readCell cell = .ok v := by
  have start := holds []
  unfold readCell
  cases handed with
  | error => exact start.elim
  | null =>
    have type : (cell []).type = 5 := start
    cases v with
    | null => rw [type]; rfl
    | _ => exact means.elim
  | integer n =>
    obtain ⟨type, number⟩ := start
    cases v with
    | integer m =>
      obtain rfl : n = m := means
      rw [type, number]
      rfl
    | _ => exact means.elim
  | real x =>
    obtain ⟨type, number⟩ := start
    cases v with
    | real y =>
      obtain rfl : x = y := means
      rw [type, number]
      rfl
    | _ => exact means.elim
  | text value =>
    obtain ⟨type, -, pointer⟩ := start
    obtain ⟨-, length, -⟩ := holds [.text]
    cases v with
    | text s =>
      have octets : content value = Utf8.encode s := means
      have decoded : decodeText (cell []).text value.length = .ok (some s) := by
        simp only [decodeText, decodeBlob_of_pointsTo pointer, octets, Utf8.decode_encode]
      rw [type, length, decoded]
      rfl
    | _ => exact means.elim
  | blob value =>
    obtain ⟨type, -, pointer⟩ := start
    obtain ⟨-, length, -⟩ := holds [.blob]
    cases v with
    | blob bs =>
      have octets : content value = bs := means
      rw [type, length, decodeBlob_of_pointsTo pointer, octets]
      rfl
    | _ => exact means.elim

/-- Octets that fit are handed over as they are. -/
theorem Buffer.ofBytes_of_fits {bs : Bytes} (h : bs.length ≤ maxLength) :
    ∃ value, Buffer.ofBytes bs = .ok value ∧ content value = bs := by
  obtain ⟨value, made⟩ := EngineBridge.ofBytes_of_fits h
  exact ⟨value, made, content_ofBytes made⟩

/-! ## Handing values over -/

namespace World

/-- What was handed over to a holder last. -/
def handedTo (w : World E H) (holder : Holder) : Option Handed :=
  w.transcript.findSome? fun
    | .called c answer => if c.accepted answer then c.handsTo holder else none
    | _ => none

/-- The engine takes whatever is handed over to a holder. -/
def Takes (w : World E H) (holder : Holder) : Prop :=
  ∀ c : Call, (c.handsTo holder).isSome → c.accepted (w.answer c)

/-- At a place the engine shows what was handed over to a holder. -/
def HandsBack (w : World E H) (holder : Holder) (place : Place) : Prop :=
  ∃ handed, w.handedTo holder = some handed ∧ E.Keeps w.engine place handed

/-- A value is read wherever the engine shows what a holder was handed, for as long as nothing
else is handed over: in a column of a current row, as an argument, and among the arguments that
a user function is run on. -/
def GivesBack (w : World E H) (holder : Holder) (v : Value) : Prop :=
  ∀ w' : World E H, w'.handedTo holder = w.handedTo holder →
    (∀ (stmt : Statement) (p : Program) (index : Int32), stmt.handle = some p →
      stmt.state = .stepping → E.HasColumn w'.engine p index →
      w'.HandsBack holder (.column p index) →
      ((stmt.columnValue index : Fallible E H Value).run.run w').1 = .ok v) ∧
    (∀ a : Argument, w'.HandsBack holder (.argument a) →
      ((Upcall.readArgument a).run w').1 = .ok v) ∧
    ∀ (context : Context) (count : Int32) (arguments : Option (List Argument))
      (f : Closure H.Function) (values : List Value) (w'' : World E H) (k : Nat) (a : Argument),
      Upcall.Accepted context count arguments w' f values w'' →
      (Upcall.given count arguments)[k]? = some a → w'.HandsBack holder (.argument a) →
      values[k]? = some v

/-- A call that the engine takes hands over what it has. -/
theorem handedTo_asked {w : World E H} {c : Call} {holder : Holder} {handed : Handed}
    (taken : c.accepted (w.answer c)) (hands : c.handsTo holder = some handed) :
    (w.asked c).handedTo holder = some handed := by
  simp [handedTo, asked, record, taken, hands]

/-- To announce a call is not to hand anything over. -/
theorem handedTo_called {w : World E H} {c : Call} {holder : Holder} {handed : Handed}
    (taken : c.accepted (w.answer c)) (hands : c.handsTo holder = some handed) :
    (w.called c).handedTo holder = some handed :=
  handedTo_asked taken hands

end World

/-- A call whose answer is its result code succeeds if the engine takes whatever is handed over,
and then it has been handed over. -/
theorem Fallible.succeed_hands {w : World E H} {holder : Holder} (takes : w.Takes holder)
    (database : Option Database) (c : Call) (code : c.Answer → Int32) (handed : Handed)
    (coded : ∀ answer, c.resultCode answer = some (code answer))
    (hands : c.handsTo holder = some handed) :
    (Fallible.succeed database c code : Fallible E H Unit).run.run w = (.ok (), w.called c) ∧
      (w.called c).handedTo holder = some handed := by
  have taken := takes c (by simp [hands])
  have done : code (w.answer c) = NamedCode.ok.value := by
    simpa [Call.accepted, coded] using taken
  exact ⟨Fallible.succeed_run _ _ _ done, World.handedTo_called taken hands⟩

/-- A value that is bound has been handed over as something that stands for it. -/
theorem Statement.bindValue_run {stmt : Statement} {p : Program} {index : Int32} {v : Value}
    {w : World E H} (fits : v.Fits) (live : stmt.handle = some p)
    (takes : w.Takes (.parameter p index)) :
    ∃ handed w₁, handed.Means v ∧ w₁.handedTo (.parameter p index) = some handed ∧
      (stmt.bindValue index v : Fallible E H Unit).run.run w = (.ok (), w₁) := by
  have alive : (stmt.live : Fallible E H Program).run.run w = (.ok p, w) := by
    unfold Statement.live
    rw [live]
    rfl
  cases v with
  | null =>
    obtain ⟨run, handed⟩ := Fallible.succeed_hands takes (some stmt.database)
      (.bindNull p index) (·) .null (fun _ => rfl) (by simp [Call.handsTo, Call.hands])
    exact ⟨.null, _, trivial, handed, (Fallible.run_bind_of_run alive).trans run⟩
  | integer v =>
    obtain ⟨run, handed⟩ := Fallible.succeed_hands takes (some stmt.database)
      (.bindInt64 p index v) (·) (.integer v) (fun _ => rfl)
      (by simp [Call.handsTo, Call.hands])
    exact ⟨.integer v, _, rfl, handed, (Fallible.run_bind_of_run alive).trans run⟩
  | real x =>
    obtain ⟨run, handed⟩ := Fallible.succeed_hands takes (some stmt.database)
      (.bindDouble p index x) (·) (.real x) (fun _ => rfl)
      (by simp [Call.handsTo, Call.hands])
    exact ⟨.real x, _, rfl, handed, (Fallible.run_bind_of_run alive).trans run⟩
  | text s =>
    obtain ⟨value, encoded, octets⟩ := Buffer.ofBytes_of_fits fits
    obtain ⟨run, handed⟩ := Fallible.succeed_hands takes (some stmt.database)
      (.bindText p index value transient) (·) (.text value) (fun _ => rfl)
      (by simp [Call.handsTo, Call.hands])
    refine ⟨.text value, _, octets, handed, ?_⟩
    unfold Statement.bindValue Statement.bindText Buffer.ofText
    rw [Fallible.run_bind_of_run alive, encoded]
    exact run
  | blob bs =>
    obtain ⟨value, encoded, octets⟩ := Buffer.ofBytes_of_fits fits
    obtain ⟨run, handed⟩ := Fallible.succeed_hands takes (some stmt.database)
      (.bindBlob p index value transient) (·) (.blob value) (fun _ => rfl)
      (by simp [Call.handsTo, Call.hands])
    refine ⟨.blob value, _, octets, handed, ?_⟩
    unfold Statement.bindValue Statement.bindBlob
    rw [Fallible.run_bind_of_run alive, encoded]
    exact run

/-- A value that is a result is handed over as something that stands for it, a small integer
in either width. -/
theorem Upcall.Carries.handedTo {context : Context} {c : Call} {v : Value}
    (h : Upcall.Carries context c v) (w : World E H) :
    ∃ handed, handed.Means v ∧ (w.asked c).handedTo (.result context) = some handed := by
  cases v with
  | null =>
    obtain rfl : c = .resultNull context := h
    exact ⟨.null, trivial, World.handedTo_asked rfl (by simp [Call.handsTo, Call.hands])⟩
  | integer v =>
    rcases h with ⟨n, same, rfl⟩ | rfl
    · have widened : n.toInt64 = v := Int64.toInt_inj.mp (by rw [Int32.toInt_toInt64, same])
      refine ⟨.integer v, rfl, World.handedTo_asked rfl ?_⟩
      simp [Call.handsTo, Call.hands, widened]
    · exact ⟨.integer v, rfl, World.handedTo_asked rfl (by simp [Call.handsTo, Call.hands])⟩
  | real x =>
    obtain rfl : c = .resultDouble context x := h
    exact ⟨.real x, rfl, World.handedTo_asked rfl (by simp [Call.handsTo, Call.hands])⟩
  | text s =>
    obtain ⟨value, octets, rfl⟩ := h
    exact ⟨.text value, octets, World.handedTo_asked rfl (by simp [Call.handsTo, Call.hands])⟩
  | blob bs =>
    obtain ⟨value, octets, rfl⟩ := h
    exact ⟨.blob value, octets, World.handedTo_asked rfl (by simp [Call.handsTo, Call.hands])⟩

/-! ## Reading them back -/

namespace Upcall

/-- Reading an argument is asking questions. -/
theorem readArgument_asks (a : Argument) (w : World E H) :
    ∃ calls : List Call, (∀ c ∈ calls, c.Inquires) ∧
      ((readArgument a).run w).2.engine = E.after w.engine calls := by
  have asked : (Bridge.ask (.valueType a) : Bridge E H Int32).run w =
      (w.answer (.valueType a), w.asked (.valueType a)) := rfl
  unfold readArgument
  rw [Bridge.run_bind_of_run asked]
  cases ColumnType.ofCode (w.answer (.valueType a)) with
  | null => exact ⟨[.valueType a], by simp [Call.Inquires, Call.Inspects], rfl⟩
  | integer =>
    exact ⟨[.valueType a, .valueInt64 a], by simp [Call.Inquires, Call.Inspects], rfl⟩
  | float =>
    exact ⟨[.valueType a, .valueDouble a], by simp [Call.Inquires, Call.Inspects], rfl⟩
  | text =>
    exact ⟨[.valueType a, .valueText a, .valueBytes a],
      by simp [Call.Inquires, Call.Inspects], rfl⟩
  | blob =>
    exact ⟨[.valueType a, .valueBlob a, .valueBytes a],
      by simp [Call.Inquires, Call.Inspects], rfl⟩

/-- An argument that shows what stands for a value is read as that value. -/
theorem readArgument_of_keeps {a : Argument} {handed : Handed} {v : Value} {w : World E H}
    (means : handed.Means v) (keeps : E.Keeps w.engine (.argument a) handed) :
    ((readArgument a).run w).1 = .ok v := by
  obtain ⟨cell, shows, holds⟩ := keeps
  rw [readArgument_run shows, readCell_of_holds means holds]

/-- Among the values that arguments are read as, there is that of each argument that shows what
stands for a value. -/
theorem Reads.getElem?_of_keeps {w w' : World E H} {arguments : List Argument}
    {values : List Value} (reads : Reads w arguments values w') {handed : Handed} {v : Value}
    (means : handed.Means v) {k : Nat} {a : Argument} (position : arguments[k]? = some a)
    (keeps : E.Keeps w.engine (.argument a) handed) : values[k]? = some v := by
  induction reads generalizing k with
  | nil => simp at position
  | @cons w w₁ w₂ first value rest values decodes _ ih =>
    have read := decodes.run
    cases k with
    | zero =>
      obtain rfl : first = a := by simpa using position
      have decoded := readArgument_of_keeps means keeps
      rw [read] at decoded
      cases decoded
      rfl
    | succ k =>
      obtain ⟨calls, ask, after⟩ := readArgument_asks first w
      rw [read] at after
      rw [List.getElem?_cons_succ] at position ⊢
      apply ih position
      rw [show w₁.engine = _ from after]
      exact keeps.after ask

end Upcall

/-- What was handed over and stands for a value is read as that value. -/
theorem World.givesBack_of_means {w : World E H} {holder : Holder} {handed : Handed} {v : Value}
    (means : handed.Means v) (last : w.handedTo holder = some handed) : w.GivesBack holder v := by
  intro w' same
  have kept {place : Place} (back : w'.HandsBack holder place) :
      E.Keeps w'.engine place handed := by
    obtain ⟨handed', last', keeps⟩ := back
    rw [same, last] at last'
    cases last'
    exact keeps
  refine ⟨?_, ?_, ?_⟩
  · intro stmt p index live row column back
    obtain ⟨cell, shows, holds⟩ := kept back
    have displayed : stmt.Displays w' p index cell := ⟨live, row, column, shows⟩
    obtain ⟨before, -, run⟩ := Statement.columnValue_run displayed
    rw [run, readCell_of_holds means holds]
    rfl
  · intro a back
    exact Upcall.readArgument_of_keeps means (kept back)
  · intro context count arguments f values w'' k a accepted position back
    obtain ⟨present, registered, readable⟩ := accepted
    apply readable.getElem?_of_keeps means position
    have ask : ∀ c ∈ [Call.userData context], c.Inquires := by
      simp [Call.Inquires, Call.Inspects]
    exact (kept back).after ask

/-- Values survive the boundary.  A value whose length can be told is bound to a parameter of a
statement that the engine takes things for, and is given back from then on: every column,
every argument and every function that the engine shows it to reads it as it was.  The result
of a user function is given back in the same way. -/
theorem values_survive_the_boundary (v : Value) (fits : v.Fits) :
    (∀ (stmt : Statement) (p : Program) (index : Int32) (w : World E H),
      stmt.handle = some p → w.Takes (.parameter p index) →
      ∃ w₁, (stmt.bindValue index v : Fallible E H Unit).run.run w = (.ok (), w₁) ∧
        w₁.GivesBack (.parameter p index) v) ∧
    ∀ (callbacks : Callbacks E H) (context : Context) (count : Int32)
      (arguments : Option (List Argument)) (f : Closure H.Function) (values : List Value)
      (w u u' : World E H), Upcall.Accepted context count arguments w f values u →
      (callbacks.invoke f values).run u = (.returned (.ok v), u') →
      ∃ w₁, (Upcall.function callbacks context count arguments).run w = ((), w₁) ∧
        w₁.GivesBack (.result context) v := by
  refine ⟨?_, ?_⟩
  · intro stmt p index w live takes
    obtain ⟨handed, w₁, means, last, run⟩ := Statement.bindValue_run fits live takes
    exact ⟨w₁, run, World.givesBack_of_means means last⟩
  · intro callbacks context count arguments f values w u u' accepted invoked
    obtain ⟨c, -, carries, result⟩ := Upcall.setResult_run context v u'
    obtain ⟨handed, means, last⟩ := (carries fits).handedTo u'
    refine ⟨u'.asked c, ?_, World.givesBack_of_means means last⟩
    have closure : (Upcall.run callbacks context count arguments).run w =
        (.returned (.ok v), u') :=
      (Bridge.run_bind_of_run accepted.accept_run).trans invoked
    exact (Bridge.run_bind_of_run closure).trans result

/-- A text with a zero octet and a character of two octets is bound, the next row has it in a
column, and it is read there as it was. -/
theorem text_with_zero_octet_survives :
    let program : Scripted.ProgramState :=
      { database := ⟨1⟩, columns := [{}], parameters := 1, rows := [[.parameter 1]],
        coming := [[.parameter 1]] }
    let w : World Scripted.engine ⟨Unit, Unit, Unit⟩ :=
      { engine := { databases := [.fresh], programs := [program] }, host := () }
    let stmt : Statement :=
      { connection := ⟨1⟩, database := ⟨1⟩, handle := some ⟨1⟩, state := .prepared, sql := "" }
    let callbacks : Callbacks Scripted.engine ⟨Unit, Unit, Unit⟩ :=
      ⟨fun _ _ => pure (.returned false), fun _ _ => pure (.returned (.ok .null))⟩
    ∃ w₁ stepped w₂, (stmt.bindValue 1 (.text "a\x00ß")).run.run w = (.ok (), w₁) ∧
      (stmt.step callbacks).run w₁ = ((.ok .row, stepped), w₂) ∧
      ((stepped.columnValue 0).run.run w₂).1 = .ok (.text "a\x00ß") := by
  intro program w stmt callbacks
  have fits : Value.Fits (.text "a\x00ß") := by
    unfold Value.Fits
    decide +kernel
  have takes : w.Takes (.parameter ⟨1⟩ 1) := by
    intro c concerns
    cases c with
    | clearBindings p =>
      have here : p = ⟨1⟩ := by
        simpa [Call.handsTo, Option.isSome_iff_exists] using concerns
      subst here
      rfl
    | bindNull p i | bindInt p i | bindInt64 p i | bindDouble p i | bindText p i
    | bindBlob p i =>
      have here : p = ⟨1⟩ ∧ i = 1 := by
        simpa [Call.handsTo, Call.hands, Option.filter] using concerns
      obtain ⟨rfl, rfl⟩ := here
      rfl
    | resultNull | resultInt | resultInt64 | resultDouble | resultText | resultBlob
    | resultError => simp [Call.handsTo, Call.hands, Option.filter] at concerns
    | _ => cases concerns
  obtain ⟨w₁, bound, back⟩ :=
    (values_survive_the_boundary (.text "a\x00ß") fits).1 stmt ⟨1⟩ 1 w rfl takes
  have made : w₁ = ((stmt.bindValue 1 (.text "a\x00ß")).run.run w).2 := by rw [bound]
  -- The octets that stand for the text, and the cell that the row has for them.
  have handed : w₁.handedTo (.parameter ⟨1⟩ 1) = some (.text ⟨[0x61, 0, 0xc3, 0x9f], 4⟩) := by
    subst made
    decide +kernel
  have later : ((stmt.step callbacks).run w₁).2.handedTo (.parameter ⟨1⟩ 1) =
      some (.text ⟨[0x61, 0, 0xc3, 0x9f], 4⟩) := by
    subst made
    decide +kernel
  have cell : ((stmt.step callbacks).run w₁).2.engine.cell ⟨1⟩ 0 =
      .ofText [0x61, 0, 0xc3, 0x9f] := by
    subst made
    decide +kernel
  have idle : ((stmt.step callbacks).run w₁).2.engine.script.items = [] := by
    subst made
    rfl
  have column : Engine.HasColumn Scripted.engine ((stmt.step callbacks).run w₁).2.engine ⟨1⟩ 0 := by
    apply Scripted.hasColumn_of_idle idle
    · decide
    · subst made
      decide +kernel
  have shown := Scripted.shows_column idle ⟨1⟩ 0
  rw [cell] at shown
  refine ⟨w₁, { stmt with state := .stepping }, ((stmt.step callbacks).run w₁).2, bound, ?_, ?_⟩
  · subst made
    rfl
  · apply (back _ (later.trans handed.symm)).1 _ ⟨1⟩ 0 rfl rfl column
    exact ⟨_, later, _, shown, fun _ => ⟨rfl, rfl, rfl⟩⟩

end EngineBridge
