import EngineBridge.Proofs.Operations.Additions
import EngineBridge.Proofs.Operations.Basic
import EngineBridge.Transcript

/-!
# Native calls that are announced

What happens around native calls happens in passages.  A call is announced and then made, and so is
an execution; but a failure is diagnosed by a call that nobody has announced, and so are the calls
by which a function learns its arguments and gives its result.  Since all operations are made of
such passages, the announcements tell exactly of the calls of the first kind, in their order, and
for each failure and for each call of a function there is one call of which they do not tell.
-/

set_option autoImplicit false

namespace EngineBridge

open Native Relation

variable {E : Engine} {H : Host} {α : Type} {entries : List Entry}

/-- A call by which the engine is asked for the text about a failure. -/
def Native.Call.asksMessage : Call → Bool
  | .errmsg _ | .errstr _ => true
  | _ => false

/-- A question for a message serves no function. -/
theorem Native.Call.serves_of_asksMessage {c : Call} (h : c.asksMessage = true) :
    c.servesFunction = false := by
  cases c with
  | errmsg | errstr => rfl
  | _ => cases h

/-- The export of which an event says that it is about to be called. -/
def Event.announces? : Event → Option Symbol
  | .nativeCall symbol => some symbol
  | _ => none

/-- The export of which an entry says that it is about to be called. -/
def Entry.announces? : Entry → Option Symbol
  | .reported event => event.announces?
  | _ => none

/-- The export that an entry calls. -/
def Entry.calls? (entry : Entry) : Option Symbol :=
  (Transcript.call? entry).map Prod.fst

/-- The export that an entry calls, unless a function is served by the call. -/
def Entry.manages? : Entry → Option Symbol
  | .called c _ => if c.servesFunction then none else some c.symbol
  | entry => entry.calls?

/-- The engine has been asked for the text about a failure. -/
def Entry.asksMessage : Entry → Bool
  | .called c _ => c.asksMessage
  | _ => false

/-- An entry tells of the failure of a call. -/
def Entry.tellsFailure : Entry → Bool
  | .reported (.callFailed ..) => true
  | _ => false

/-- An entry for which there is a call that nobody has announced: a failure, which has been
diagnosed, or the call of a function. -/
def Entry.bypasses : Entry → Bool
  | .called c _ => c.servesFunction
  | .reported (.callFailed ..) => true
  | _ => false

/-- A comment is about none of this. -/
theorem Entry.IsComment.silent {entry : Entry} (h : entry.IsComment) :
    entry.announces? = none ∧ entry.calls? = none ∧ entry.manages? = none ∧
      entry.bypasses = false ∧ entry.tellsFailure = false := by
  cases entry with
  | called | began => exact h.elim
  | reported event =>
    cases event with
    | nativeCall | callFailed => exact h.elim
    | _ => exact ⟨rfl, rfl, rfl, rfl, rfl⟩
  | _ => exact ⟨rfl, rfl, rfl, rfl, rfl⟩

namespace Transcript

/-- The exports that were called, in order. -/
def called (entries : List Entry) : List Symbol :=
  (calls entries).map Prod.fst

/-- The exports of which a listener at trace level heard that they were about to be called, in
order. -/
def announced (entries : List Entry) : List Symbol :=
  (events .trace entries).filterMap Event.announces?

/-- The exports that were called neither for a function nor to diagnose a failure, in order.  To
diagnose a failure the engine is asked for the text about it right before the report. -/
def routed : List Entry → List Symbol
  | [] => []
  | entry :: rest =>
    if entry.asksMessage && rest.head?.any Entry.tellsFailure then routed rest
    else entry.manages?.toList ++ routed rest

/-- The calls of a list are those of its first entry and of the rest. -/
theorem called_cons (entry : Entry) (rest : List Entry) :
    called (entry :: rest) = entry.calls?.toList ++ called rest := by
  cases entry <;> rfl

/-- The announcements of a list are those of its first entry and of the rest. -/
theorem announced_cons (entry : Entry) (rest : List Entry) :
    announced (entry :: rest) = entry.announces?.toList ++ announced rest := by
  cases entry with
  | reported event => cases event <;> rfl
  | _ => rfl

/-- What is called otherwise than for a function or a failure is called. -/
theorem routed_sublist_called (entries : List Entry) :
    (routed entries).Sublist (called entries) := by
  induction entries with
  | nil => exact .slnil
  | cons entry rest ih =>
    have managed : entry.manages?.toList.Sublist entry.calls?.toList := by
      cases entry with
      | called c =>
        cases serves : c.servesFunction <;> simp [Entry.manages?, Entry.calls?, call?, serves]
      | _ => exact .refl _
    rw [called_cons]
    unfold routed
    split
    · exact ih.trans (List.sublist_append_right _ _)
    · exact managed.append ih

end Transcript

open Transcript

/-! ## Passages -/

/-- What happens in one go around a native call, or aside from all of them. -/
inductive Passage : List Entry → Prop
  | comment {entry : Entry} (aside : entry.IsComment) : Passage [entry]
  /-- A call is announced and made. -/
  | call {c : Call} (answer : c.Answer) (manages : c.servesFunction = false) :
      Passage [.reported (.nativeCall c.symbol), .called c answer]
  /-- An execution is announced and begins. -/
  | execution (x : Execution) : Passage [.reported (.nativeCall x.symbol), .began x]
  /-- A failure is diagnosed and reported. -/
  | diagnosis {c : Call} (answer : c.Answer) (asks : c.asksMessage = true) (symbol : Symbol)
      (code : Int32) (message : String) :
      Passage [.called c answer, .reported (.callFailed symbol code message)]
  /-- A function makes a call. -/
  | service {c : Call} (answer : c.Answer) (serves : c.servesFunction = true) :
      Passage [.called c answer]

/-- What happens is made of passages. -/
inductive Narrated : List Entry → Prop
  | nil : Narrated []
  | cons {passage entries : List Entry} (first : Passage passage) (rest : Narrated entries) :
      Narrated (passage ++ entries)

/-- Passages may follow passages. -/
theorem Narrated.append {more : List Entry} (h : Narrated entries) (later : Narrated more) :
    Narrated (entries ++ more) := by
  induction h with
  | nil => exact later
  | cons first _ ih =>
    rw [List.append_assoc]
    exact .cons first ih

/-- A failure is reported only after its diagnosis. -/
theorem Narrated.head (h : Narrated entries) : entries.head?.any Entry.tellsFailure = false := by
  cases h with
  | nil => rfl
  | cons first _ =>
    cases first with
    | comment aside => simp [aside.silent]
    | _ => rfl

/-- The announcements tell of the calls that are made neither for a function nor for a failure. -/
theorem Narrated.announced_eq (h : Narrated entries) : announced entries = routed entries := by
  induction h with
  | nil => rfl
  | cons first rest ih =>
    have calm := rest.head
    cases first with
    | comment aside => simp [announced_cons, routed, calm, aside.silent, ih]
    | call answer manages =>
      simp [announced_cons, routed, calm, manages, ih, Entry.announces?, Event.announces?,
        Entry.manages?, Entry.calls?, call?, Entry.tellsFailure]
    | execution x =>
      simp [announced_cons, routed, calm, ih, Entry.announces?, Event.announces?,
        Entry.manages?, Entry.calls?, call?, Entry.tellsFailure]
    | diagnosis answer asks symbol code message =>
      simp [announced_cons, routed, calm, asks, ih, Entry.announces?, Event.announces?,
        Entry.manages?, Entry.calls?, call?, Entry.asksMessage, Entry.tellsFailure]
    | service answer serves =>
      simp [announced_cons, routed, calm, serves, ih, Entry.announces?, Entry.manages?]

/-- For each failure and for each call of a function one call is left out. -/
theorem Narrated.length_called (h : Narrated entries) :
    (called entries).length = (announced entries).length + entries.countP Entry.bypasses := by
  induction h with
  | nil => rfl
  | cons first rest ih =>
    cases first with
    | comment aside => simp [called_cons, announced_cons, aside.silent, ih]
    | call answer manages =>
      simp +arith [called_cons, announced_cons, manages, ih, Entry.announces?, Event.announces?,
        Entry.calls?, call?, Entry.bypasses]
    | execution x =>
      simp +arith [called_cons, announced_cons, ih, Entry.announces?, Event.announces?,
        Entry.calls?, call?, Entry.bypasses]
    | diagnosis answer asks symbol code message =>
      have manages := Call.serves_of_asksMessage asks
      simp +arith [called_cons, announced_cons, List.countP_cons, manages, ih, Entry.announces?,
        Event.announces?, Entry.calls?, call?, Entry.bypasses]
    | service answer serves =>
      simp +arith [called_cons, announced_cons, serves, ih, Entry.announces?,
        Entry.calls?, call?, Entry.bypasses]

/-- What a listener at trace level hears of the native calls: of all that are made neither for a
function nor for a failure, in their order, and of no others.  So it is all of them exactly if no
failure has been diagnosed and no function has made a call. -/
structure Traced (entries : List Entry) : Prop where
  announced_eq : announced entries = routed entries
  missing : (called entries).length = (announced entries).length + entries.countP Entry.bypasses
  complete : announced entries = called entries ↔ ∀ entry ∈ entries, ¬ entry.bypasses

/-- What is made of passages is announced as it should be. -/
theorem Narrated.traced (h : Narrated entries) : Traced entries := by
  have missing := h.length_called
  refine ⟨h.announced_eq, missing, ?_⟩
  rw [← List.countP_eq_zero]
  constructor
  · intro same
    rw [same] at missing
    omega
  · intro none
    have part : (announced entries).Sublist (called entries) :=
      h.announced_eq ▸ routed_sublist_called entries
    exact part.eq_of_length (by omega)

/-! ## Operations -/

/-- A transcript goes on with a passage. -/
def Narrates (log log' : List Entry) : Prop :=
  ∃ passage, Passage passage ∧ log' = passage.reverse ++ log

/-- A transcript that goes on passage by passage goes on with a list made of passages. -/
theorem Narrates.narrated {log log' : List Entry} (h : ReflTransGen Narrates log log') :
    ∃ entries, Narrated entries ∧ log' = entries.reverse ++ log := by
  induction h with
  | refl => exact ⟨[], .nil, rfl⟩
  | tail _ step ih =>
    obtain ⟨entries, narrated, rfl⟩ := ih
    obtain ⟨passage, goes, rfl⟩ := step
    have last : Narrated passage := List.append_nil passage ▸ .cons goes .nil
    exact ⟨entries ++ passage, narrated.append last, by simp⟩

open Bridge (Prolongs Routes)

/-- What a computation adds to the transcript is traced, if it adds it in passages. -/
theorem Bridge.Prolongs.traced {m : Bridge E H α} (h : Prolongs Narrates m) (w : World E H) :
    Traced ((m.run w).2.since w.transcript.length) := by
  obtain ⟨entries, narrated, grown⟩ := Narrates.narrated (h w)
  have since : (m.run w).2.since w.transcript.length = entries.reverse.reverse :=
    World.since_of_append grown
  rw [since, List.reverse_reverse]
  exact narrated.traced

/-- A call that no function makes is announced. -/
theorem prolongs_call {c : Call} (manages : c.servesFunction = false) :
    Prolongs Narrates (Bridge.call c : Bridge E H c.Answer) :=
  .single fun w => ⟨_, .call ((w.announced c).answer c) manages, rfl⟩

/-- A call that a function makes is not. -/
theorem prolongs_ask {c : Call} (serves : c.servesFunction = true) :
    Prolongs Narrates (Bridge.ask c : Bridge E H c.Answer) :=
  .single fun w => ⟨_, .service (w.answer c) serves, rfl⟩

/-- Nor is the call that diagnoses a failure. -/
theorem prolongs_diagnose (database : Option Database) (symbol : Symbol) (code : Int32) :
    Prolongs Narrates (Bridge.diagnose database symbol code : Bridge E H EngineError) := by
  cases database with
  | none =>
    exact .single fun w =>
      ⟨_, .diagnosis (w.answer (.errstr code)) rfl symbol code _, rfl⟩
  | some d =>
    exact .single fun w => ⟨_, .diagnosis (w.answer (.errmsg d)) rfl symbol code _, rfl⟩

/-- So all operations go on with the transcript in passages. -/
theorem routes_narrated : Routes E H (·.servesFunction = false) Narrates where
  call := prolongs_call
  diagnose := prolongs_diagnose
  comment aside _ := ⟨_, .comment aside, rfl⟩

/-- All operations that manage connections and statements go on passage by passage. -/
theorem routes_managed : Routes E H Call.Manages Narrates :=
  routes_narrated.mono fun _ manages => manages.serves

/-! ## Questions to statements -/

namespace Statement

variable (stmt : Statement) (index : Int32)

/-- Asking for the object of a statement goes on passage by passage. -/
theorem prolongs_live : Prolongs Narrates (stmt.live : Fallible E H Program).run := by
  unfold live
  split
  · exact .run_pure _
  · exact .run_throw _

/-- A call on a statement, of which nothing but success is taken. -/
theorem prolongs_succeed {c : Program → Call} (code : (p : Program) → (c p).Answer → Int32)
    (manages : ∀ p, (c p).servesFunction = false) :
    Prolongs Narrates (stmt.succeed c code : Fallible E H Unit).run :=
  .run_bind stmt.prolongs_live fun p => routes_narrated.run_succeed (manages p) _ _

/-- Binding a text goes on passage by passage. -/
theorem prolongs_bindText (value : String) :
    Prolongs Narrates (stmt.bindText index value : Fallible E H Unit).run :=
  .run_bind stmt.prolongs_live fun _ => .run_bind (.run_ofExcept _) fun _ =>
    routes_narrated.run_succeed rfl _ _

/-- Binding a blob goes on passage by passage. -/
theorem prolongs_bindBlob (value : Bytes) :
    Prolongs Narrates (stmt.bindBlob index value : Fallible E H Unit).run :=
  .run_bind stmt.prolongs_live fun _ => .run_bind (.run_ofExcept _) fun _ =>
    routes_narrated.run_succeed rfl _ _

/-- Binding a value goes on passage by passage. -/
theorem prolongs_bindValue (value : Value) :
    Prolongs Narrates (stmt.bindValue index value : Fallible E H Unit).run := by
  cases value with
  | null => exact stmt.prolongs_succeed _ fun _ => rfl
  | integer v => exact stmt.prolongs_succeed _ fun _ => rfl
  | real v => exact stmt.prolongs_succeed _ fun _ => rfl
  | text s => exact stmt.prolongs_bindText index s
  | blob bs => exact stmt.prolongs_bindBlob index bs

/-- Checking the index of a column goes on passage by passage. -/
theorem prolongs_column : Prolongs Narrates (stmt.column index : Fallible E H Program).run := by
  refine .run_bind stmt.prolongs_live fun p => .run_bind (routes_narrated.run_call rfl) ?_
  intro count
  split
  · exact .run_throw _
  · exact .run_pure _

/-- Checking that there is a row goes on passage by passage. -/
theorem prolongs_rowColumn :
    Prolongs Narrates (stmt.rowColumn index : Fallible E H Program).run := by
  unfold rowColumn
  split
  · exact .run_throw _
  · exact stmt.prolongs_column index

/-- Asking how a column is stored goes on passage by passage. -/
theorem prolongs_storedType (p : Program) :
    Prolongs Narrates (storedType p index : Fallible E H ColumnType).run :=
  .run_bind (routes_narrated.run_call rfl) fun _ => .run_pure _

/-- Asking for the type of a column goes on passage by passage. -/
theorem prolongs_columnType :
    Prolongs Narrates (stmt.columnType index : Fallible E H ColumnType).run :=
  .run_bind (stmt.prolongs_rowColumn index) fun p => prolongs_storedType index p

/-- Reading a text goes on passage by passage. -/
theorem prolongs_columnText :
    Prolongs Narrates (stmt.columnText index : Fallible E H (Option String)).run := by
  refine .run_bind (stmt.prolongs_rowColumn index) fun p => ?_
  refine .run_bind (prolongs_storedType index p) fun type => ?_
  split
  · exact .run_pure _
  · exact .run_bind (routes_narrated.run_call rfl) fun _ =>
      .run_bind (routes_narrated.run_call rfl) fun _ => .run_ofExcept _

/-- Reading a blob goes on passage by passage. -/
theorem prolongs_columnBlob :
    Prolongs Narrates (stmt.columnBlob index : Fallible E H (Option Bytes)).run := by
  refine .run_bind (stmt.prolongs_rowColumn index) fun p => ?_
  refine .run_bind (prolongs_storedType index p) fun type => ?_
  split
  · exact .run_pure _
  · exact .run_bind (routes_narrated.run_call rfl) fun _ =>
      .run_bind (routes_narrated.run_call rfl) fun _ => .run_pure _

/-- Reading a real goes on passage by passage. -/
theorem prolongs_columnDouble :
    Prolongs Narrates (stmt.columnDouble index : Fallible E H Binary64).run :=
  .run_bind (stmt.prolongs_rowColumn index) fun _ => routes_narrated.run_call rfl

/-- Reading a wide integer goes on passage by passage. -/
theorem prolongs_columnInt64 :
    Prolongs Narrates (stmt.columnInt64 index : Fallible E H Int64).run :=
  .run_bind (stmt.prolongs_rowColumn index) fun _ => routes_narrated.run_call rfl

/-- Reading a value goes on passage by passage. -/
theorem prolongs_columnValue :
    Prolongs Narrates (stmt.columnValue index : Fallible E H Value).run := by
  refine .run_bind (stmt.prolongs_columnType index) fun type => ?_
  cases type with
  | null => exact .run_pure _
  | integer => exact .run_bind (stmt.prolongs_columnInt64 index) fun _ => .run_pure _
  | float => exact .run_bind (stmt.prolongs_columnDouble index) fun _ => .run_pure _
  | text => exact .run_bind (stmt.prolongs_columnText index) fun _ => .run_pure _
  | blob => exact .run_bind (stmt.prolongs_columnBlob index) fun _ => .run_pure _

end Statement

/-! ## Calls of functions -/

namespace Upcall

/-- An argument is read by calls that are not announced. -/
theorem prolongs_readArgument (argument : Argument) :
    Prolongs Narrates (readArgument argument : Bridge E H _) := by
  refine .bind (prolongs_ask rfl) fun code => ?_
  split
  · exact .pure _
  · exact .bind (prolongs_ask rfl) fun _ => .pure _
  · exact .bind (prolongs_ask rfl) fun _ => .pure _
  · exact .bind (prolongs_ask rfl) fun _ => .bind (prolongs_ask rfl) fun _ => .pure _
  · exact .bind (prolongs_ask rfl) fun _ => .bind (prolongs_ask rfl) fun _ => .pure _

/-- Arguments are read by calls that are not announced. -/
theorem prolongs_readArguments (position : Nat) (arguments : List Argument) :
    Prolongs Narrates (readArguments position arguments : Bridge E H _) := by
  induction arguments generalizing position with
  | nil => exact .pure _
  | cons argument rest ih =>
    refine .bind (prolongs_readArgument argument) fun r => ?_
    cases r with
    | error e => exact .pure _
    | ok value =>
      refine .bind (ih (position + 1)) fun r => ?_
      cases r <;> exact .pure _

/-- A function call is accepted or refused by calls that are not announced. -/
theorem prolongs_accept (context : Context) (count : Int32) (arguments : Option (List Argument)) :
    Prolongs Narrates (accept context count arguments : Bridge E H _) := by
  refine .bind (prolongs_ask rfl) fun key => ?_
  cases key with
  | none => exact .pure _
  | some key =>
    refine .get_bind fun w => ?_
    split
    · refine .bind (prolongs_readArguments _ _) fun r => ?_
      cases r with
      | error e => exact .pure _
      | ok values => exact .bind (routes_narrated.record trivial) fun _ => .pure _
    · exact .pure _

/-- An error is set by a call that is not announced. -/
theorem prolongs_setError (context : Context) (message : String) :
    Prolongs Narrates (setError context message : Bridge E H Unit) :=
  prolongs_ask rfl

/-- A result is set by a call that is not announced. -/
theorem prolongs_setResult (context : Context) (value : Value) :
    Prolongs Narrates (setResult context value : Bridge E H Unit) := by
  unfold setResult
  split
  · exact prolongs_ask rfl
  · split
    · exact prolongs_ask rfl
    · exact prolongs_ask rfl
  · exact prolongs_ask rfl
  · split
    · exact prolongs_ask rfl
    · exact prolongs_setError context _
  · split
    · exact prolongs_ask rfl
    · exact prolongs_setError context _

end Upcall

end EngineBridge
