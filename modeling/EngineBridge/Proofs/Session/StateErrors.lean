import EngineBridge.Proofs.Operations.Columns
import EngineBridge.Proofs.Session.Reentry

/-!
# State errors of a session

Every operation looks at the state of its handle before it looks at anything else, its arguments
included.  What the state rules out is refused with an error that says so, and nothing happens; a
closure that came along goes, though, and a connection that it owns is closed.  What the state
does not rule out is never refused with such an error.
-/

set_option autoImplicit false

namespace EngineBridge

open Native

variable {E : Engine} {H : Host}

/-- The state of a statement and its object fit. -/
def Statement.Sound (stmt : Statement) : Prop := stmt.state = .finalized ↔ stmt.handle = none

/-- A statement that has its object and is not finalized is sound. -/
theorem Statement.sound_of_handle {stmt : Statement} {p : Program} (handle : stmt.handle = some p)
    (state : stmt.state ≠ .finalized) : stmt.Sound :=
  ⟨fun h => absurd h state, fun h => by rw [handle] at h; cases h⟩

/-- A sound statement that is not finalized has its object. -/
theorem Statement.Sound.exists_handle {stmt : Statement} (sound : stmt.Sound)
    (state : stmt.state ≠ .finalized) : ∃ p, stmt.handle = some p :=
  Option.ne_none_iff_exists'.mp fun gone => state (sound.mpr gone)

/-- Moves keep statements sound. -/
theorem Move.sound {s s' : Stage E H} (move : Move s s')
    (h : ∀ t ∈ s.custody.statements, t.Sound) : ∀ t ∈ s'.custody.statements, t.Sound := by
  cases move with
  | prepare sql hand database done made =>
    exact Multiset.forall_mem_cons.mpr ⟨Statement.sound_of_handle rfl nofun, h⟩
  | reset hand handle =>
    rw [show _ = _ from hand, Multiset.forall_mem_cons] at h
    exact Multiset.forall_mem_cons.mpr ⟨Statement.sound_of_handle handle nofun, h.2⟩
  | @step κ w t rest p code hand handle =>
    rw [show _ = _ from hand, Multiset.forall_mem_cons] at h
    refine Multiset.forall_mem_cons.mpr ⟨Statement.sound_of_handle handle ?_, h.2⟩
    show StatementState.afterStep code ≠ .finalized
    unfold StatementState.afterStep
    split <;> exact nofun
  | finalize hand handle =>
    rw [show _ = _ from hand, Multiset.forall_mem_cons] at h
    exact Multiset.forall_mem_cons.mpr ⟨⟨fun _ => rfl, fun _ => rfl⟩, h.2⟩
  | forget hand handle =>
    rw [show _ = _ from hand, Multiset.forall_mem_cons] at h
    exact h.2
  | _ => exact h

namespace Session

variable {w : World E (host E)} {stmt : Statement} {p : Program}

/-- Between operations the statements of a session are sound. -/
theorem Reachable.sound (reachable : Reachable w) {slot : String}
    (found : w.host.statements.get? slot = some stmt) : stmt.Sound := by
  have keeps (s s' : Stage E (host E)) (turn : Turn s s') (_ : True)
      (h : ∀ t ∈ s.custody.statements, t.Sound) : ∀ t ∈ s'.custody.statements, t.Sound := by
    cases turn with
    | move move => exact move.sound h
    | host => exact h
  have all := reachable.preserves (fun _ => True) (fun _ _ _ => trivial) keeps
    (fun _ _ mem => absurd mem (Multiset.notMem_zero _)) trivial
  exact all stmt (Slots.mem_values_iff.mpr ⟨slot, found⟩)

/-! ## Questions to a statement -/

/-- The column that a question is about. -/
def Query.column? : Query → Option Int32
  | .columnName i | .columnTableName i | .columnDecltype i | .columnType i | .columnText i
  | .columnBlob i | .columnDouble i | .columnInt i | .columnInt64 i | .columnBytes i
  | .columnValue i => some i
  | _ => none

/-- Whether a question is about the current row. -/
def Query.readsRow : Query → Bool
  | .columnType _ | .columnText _ | .columnBlob _ | .columnDouble _ | .columnInt _
  | .columnInt64 _ | .columnBytes _ | .columnValue _ => true
  | _ => false

/-- A question to a finalized statement fails at once. -/
theorem Query.refuses_finalized (query : Query) (gone : stmt.handle = none) :
    Refuses (.state .finalized) (query.ask stmt : Fallible E (host E) (Payload E.Response)) := by
  cases query with
  | bindNull | bindInt | bindInt64 | bindDouble | clearBindings =>
    exact .bind (Statement.refuses_succeed gone)
  | bindText | bindBlob | bindParameterCount | columnCount =>
    exact .bind (Statement.refuses_live gone)
  | bindValue index value =>
    refine .bind ?_
    cases value with
    | null | integer | real => exact Statement.refuses_succeed gone
    | text | blob => exact Statement.refuses_live gone
  | columnName | columnTableName | columnDecltype =>
    exact .bind (.bind (Statement.refuses_live gone))
  | columnType | columnText | columnBlob | columnDouble | columnInt | columnInt64
  | columnBytes => exact .bind (Statement.refuses_rowColumn gone)
  | columnValue => exact .bind (.bind (Statement.refuses_rowColumn gone))

/-- A question about a row fails at once if there is none. -/
theorem Query.refuses_no_row (query : Query) (handle : stmt.handle = some p)
    (reads : query.readsRow) (row : stmt.state ≠ .stepping) :
    Refuses (.state .noCurrentRow) (query.ask stmt : Fallible E (host E) (Payload E.Response)) := by
  cases query with
  | columnType | columnText | columnBlob | columnDouble | columnInt | columnInt64
  | columnBytes => exact .bind (Statement.refuses_rowColumn_of_no_row handle row)
  | columnValue => exact .bind (.bind (Statement.refuses_rowColumn_of_no_row handle row))
  | _ => cases reads

/-- A question about a column examines its index before anything else. -/
theorem Query.examines (query : Query) {index : Int32} (about : query.column? = some index)
    (handle : stmt.handle = some p) (row : query.readsRow → stmt.state = .stepping) :
    Examines p index w ((query.ask stmt).run.run w) := by
  cases query with
  | columnName =>
    obtain rfl := Option.some.inj about
    exact (Statement.examines_columnName handle).bind fun _ _ => .inl (.pure _)
  | columnTableName =>
    obtain rfl := Option.some.inj about
    exact (Statement.examines_columnTableName handle).bind fun _ _ => .inl (.pure _)
  | columnDecltype =>
    obtain rfl := Option.some.inj about
    exact (Statement.examines_columnDecltype handle).bind fun _ _ => .inl (.pure _)
  | columnType =>
    obtain rfl := Option.some.inj about
    exact (Statement.examines_columnType handle (row rfl)).bind fun _ _ => .inl (.pure _)
  | columnText =>
    obtain rfl := Option.some.inj about
    exact (Statement.examines_columnText handle (row rfl)).bind fun _ _ => .inl (.pure _)
  | columnBlob =>
    obtain rfl := Option.some.inj about
    exact (Statement.examines_columnBlob handle (row rfl)).bind fun _ _ => .inl (.pure _)
  | columnDouble =>
    obtain rfl := Option.some.inj about
    exact (Statement.examines_columnDouble handle (row rfl)).bind fun _ _ => .inl (.pure _)
  | columnInt =>
    obtain rfl := Option.some.inj about
    exact (Statement.examines_columnInt handle (row rfl)).bind fun _ _ => .inl (.pure _)
  | columnInt64 =>
    obtain rfl := Option.some.inj about
    exact (Statement.examines_columnInt64 handle (row rfl)).bind fun _ _ => .inl (.pure _)
  | columnBytes =>
    obtain rfl := Option.some.inj about
    exact (Statement.examines_columnBytes handle (row rfl)).bind fun _ _ => .inl (.pure _)
  | columnValue =>
    obtain rfl := Option.some.inj about
    exact (Statement.examines_columnValue handle (row rfl)).bind fun _ _ => .inl (.pure _)
  | _ => cases about

/-- A question about no column ends with no state error. -/
theorem Query.raises (query : Query) (about : query.column? = none)
    (handle : stmt.handle = some p) {P : StateError → Prop} :
    Raises P (query.ask stmt : Fallible E (host E) (Payload E.Response)) := by
  have live {α : Type} {f : Program → Fallible E (host E) α} (h : Raises P (f p)) :
      Raises P (stmt.live >>= f) := by
    rw [Statement.live_bind_of_handle handle]
    exact h
  cases query with
  | bindNull | bindInt | bindInt64 | bindDouble | clearBindings =>
    exact .bind (live (.succeed _ _ _)) fun _ => .pure _
  | bindText | bindBlob =>
    exact .bind (live (.bind (.ofCodec _) fun _ => .succeed _ _ _)) fun _ => .pure _
  | bindValue index value =>
    refine .bind ?_ fun _ => .pure _
    cases value with
    | null | integer | real => exact live (.succeed _ _ _)
    | text | blob => exact live (.bind (.ofCodec _) fun _ => .succeed _ _ _)
  | bindParameterCount | columnCount => exact .bind (live (.lift _)) fun _ => .pure _
  | _ => cases about

/-- A question about the current row says that there is none exactly if there is none. -/
theorem Query.no_row_iff (query : Query) (handle : stmt.handle = some p) (reads : query.readsRow) :
    (((query.ask stmt).run.run w).1 = .error (.state .noCurrentRow) ↔ stmt.state ≠ .stepping) ∧
      (stmt.state ≠ .stepping → ((query.ask stmt).run.run w).2 = w) := by
  by_cases row : stmt.state = .stepping
  · have about : ∃ index, query.column? = some index := by
      cases query <;> first | exact ⟨_, rfl⟩ | cases reads
    obtain ⟨index, about⟩ := about
    obtain ⟨count, more, -, -, raised, -⟩ := query.examines (w := w) about handle fun _ => row
    refine ⟨⟨fun none => ?_, fun other => absurd row other⟩, fun other => absurd row other⟩
    cases ((raised _).mp none).2
  · rw [query.refuses_no_row handle reads row w]
    exact ⟨⟨fun _ => row, fun _ => rfl⟩, fun _ => rfl⟩

/-- The latest answer to a question for the number of columns. -/
def latestColumns (w w' : World E (host E)) : Option Int32 :=
  (w'.since w.transcript.length).reverse.findSome? Entry.columns?

/-- A question about a column is refused exactly if its index is out of range by the latest number
of columns, and then nothing has happened since. -/
theorem Query.out_of_range_iff (query : Query) {index : Int32} (about : query.column? = some index)
    (handle : stmt.handle = some p) (row : query.readsRow → stmt.state = .stepping) :
    let asked := (query.ask stmt).run.run w
    ∃ count, latestColumns w asked.2 = some count ∧
      (∀ i c, asked.1 = .error (.state (.columnOutOfRange i c)) ↔
        OutOfRange index count ∧ i = index ∧ c = count) ∧
      (OutOfRange index count → (asked.2.since w.transcript.length).getLast? =
        some (.called (.columnCount p) count)) := by
  intro asked
  obtain ⟨count, more, grown, latest, raised, last⟩ := query.examines (w := w) about handle row
  refine ⟨count, ?_, fun i c => ?_, fun out => ?_⟩
  · unfold latestColumns
    rw [World.since_of_append grown, List.reverse_reverse, latest]
  · rw [raised]
    simp
  · rw [World.since_of_append grown, List.getLast?_reverse, last out]

/-! ## What a statement is used for -/

/-- An operation of a statement. -/
inductive Use where
  | step
  | reset
  | finalize
  | query (query : Query)

/-- Carry out an operation of a statement.  What it gives besides success is forgotten. -/
def Use.perform (cb : Callbacks E (host E)) (stmt : Statement) :
    Use → SessionM E (Except BindError Unit × Statement)
  | .step => do
    let (result, stmt) ← stmt.step cb
    pure (result.map fun _ => (), stmt)
  | .reset => stmt.reset
  | .finalize => stmt.finalize
  | .query q => do
    let result ← (q.ask stmt).run
    pure (result.map fun _ => (), stmt)

namespace Use

variable {cb : Callbacks E (host E)}

/-- Nothing can be done with a finalized statement. -/
theorem perform_of_finalized (use : Use) (gone : stmt.handle = none) :
    (use.perform cb stmt).run w = ((.error (.state .finalized), stmt), w) := by
  cases use with
  | step =>
    have stepped : (stmt.step cb).run w = ((.error (.state .finalized), stmt), w) := by
      unfold Statement.step
      rw [gone]
      rfl
    exact Bridge.run_bind_of_run stepped
  | reset =>
    show (stmt.reset).run w = _
    unfold Statement.reset
    rw [gone]
    rfl
  | finalize =>
    show (stmt.finalize).run w = _
    unfold Statement.finalize
    rw [gone]
    rfl
  | query query => exact Bridge.run_bind_of_run (query.refuses_finalized gone w)

/-- Nothing that is done with another statement says that it is finalized. -/
theorem perform_of_handle (use : Use) (handle : stmt.handle = some p) :
    ((use.perform cb stmt).run w).1.1 ≠ .error (.state .finalized) := by
  have settled {c : Call} {code : c.Answer → Int32} (after : Statement) (v : World E (host E)) :
      ((do
        let result ← (Fallible.succeed (some stmt.database) c code).run
        pure (result, after) : SessionM E (Except BindError Unit × Statement)).run v).1.1 ≠
          .error (.state .finalized) := fun raised =>
    Raises.succeed (P := fun _ => False) (some stmt.database) c code v .finalized raised
  cases use with
  | step =>
    intro raised
    rcases run : (stmt.step cb).run w with ⟨⟨r, after⟩, v⟩
    have stepped : (perform cb stmt .step).run w = ((r.map fun _ => (), after), v) :=
      Bridge.run_bind_of_run run
    rw [stepped] at raised
    unfold Statement.step at run
    rw [handle] at run
    rcases ran : (Upcall.execute cb (.step p)).run w with ⟨code, u⟩
    rw [Bridge.run_bind_of_run ran] at run
    split at run
    · cases run
      cases raised
    · cases run
      cases raised
    · rw [Bridge.run_bind_of_run (Bridge.diagnose_run _ _ _ _)] at run
      cases run
      cases raised
  | reset =>
    show ((stmt.reset).run w).1.1 ≠ _
    unfold Statement.reset
    rw [handle]
    exact settled _ w
  | finalize =>
    have reported : (Bridge.report (.finalizing stmt.sql) : SessionM E Unit).run w =
        ((), w.record (.reported (.finalizing stmt.sql))) := rfl
    show ((stmt.finalize).run w).1.1 ≠ _
    unfold Statement.finalize
    rw [handle]
    dsimp only
    rw [Bridge.run_bind_of_run reported]
    exact settled _ _
  | query query =>
    intro raised
    rcases run : (query.ask stmt).run.run w with ⟨r, v⟩
    have asked : (perform cb stmt (.query query)).run w = ((r.map fun _ => (), stmt), v) :=
      Bridge.run_bind_of_run run
    rw [asked] at raised
    cases r with
    | ok a => cases raised
    | error e =>
      obtain rfl : e = .state .finalized := Except.error.inj raised
      -- no question about a column gets this far with that error, and the others never raise one
      cases about : query.column? with
      | none =>
        refine query.raises about handle (P := fun _ => False) w .finalized ?_
        rw [run]
      | some index =>
        by_cases row : query.readsRow → stmt.state = .stepping
        · obtain ⟨count, more, -, -, state, -⟩ := query.examines (w := w) about handle row
          rw [run] at state
          cases ((state .finalized).mp rfl).2
        · obtain ⟨reads, none⟩ := Classical.not_imp.mp row
          cases (query.refuses_no_row handle reads none w).symm.trans run

/-- An operation of a statement says that the statement is finalized exactly if it is, and then it
does nothing. -/
theorem finalized_iff (use : Use) (sound : stmt.Sound) :
    (((use.perform cb stmt).run w).1.1 = .error (.state .finalized) ↔ stmt.state = .finalized) ∧
      (stmt.state = .finalized →
        ((use.perform cb stmt).run w).1.2 = stmt ∧ ((use.perform cb stmt).run w).2 = w) := by
  by_cases state : stmt.state = .finalized
  · rw [use.perform_of_finalized (sound.mp state)]
    exact ⟨⟨fun _ => state, fun _ => rfl⟩, fun _ => ⟨rfl, rfl⟩⟩
  · obtain ⟨p, handle⟩ := sound.exists_handle state
    exact ⟨⟨fun raised => absurd raised (use.perform_of_handle handle),
      fun finalized => absurd finalized state⟩, fun finalized => absurd finalized state⟩

end Use

/-! ## Connections and statements of a session -/

/-- A connection that a session has is open if it has an object to work with. -/
theorem Reachable.database_of_opened (reachable : Reachable w) {x : Connection} (has : Has w x)
    (opened : x.state = .opened) : ∃ d, x.database = .ok d := by
  have handle := (reachable.poised.coherent.opened x has.held).mp opened
  obtain ⟨d, handle⟩ := Option.isSome_iff_exists.mp handle
  exact ⟨d, Connection.database_eq_ok_iff.mpr ⟨opened, handle⟩⟩

/-- State errors come first.  What the state of a connection or a statement rules out is refused
with the error that says so, and the error means just that; whatever the arguments are, nothing
happens then, but that a connection which a closure among them owns is let go.  When nothing is
ruled out, a column is refused exactly if its index is negative or too large by the latest answer
to the question for the number of columns, which is then the last thing that has happened. -/
theorem state_errors_come_first (reachable : Reachable w) (depth : Nat) :
    (∀ x (op : Connection.Operation (host E)), Has w x →
      (∀ path options, op ≠ .openWith path options) →
      let performed := (op.perform (callbacks (perform depth)) x).run w
      (performed.1.1 = .error (.state .notOpen) ↔ x.state = .unopened) ∧
      (performed.1.1 = .error (.state .closed) ↔ x.state = .closed) ∧
      (x.state ≠ .opened → performed.1.2 = x ∧ op.Declines w performed.2)) ∧
    (∀ (x : Connection) path options,
      let opened := (x.openWith path options).run w
      (∀ p, opened.1.1 = .error (.state (.alreadyOpen p)) ↔ x.state = .opened ∧ p = x.path) ∧
      (opened.1.1 = .error (.state .closed) ↔ x.state = .closed) ∧
      (x.state ≠ .unopened → opened.1.2 = x ∧ opened.2 = w)) ∧
    ∀ slot stmt, w.host.statements.get? slot = some stmt →
      (∀ use : Use,
        let used := (use.perform (callbacks (perform depth)) stmt).run w
        (used.1.1 = .error (.state .finalized) ↔ stmt.state = .finalized) ∧
        (stmt.state = .finalized → used.1.2 = stmt ∧ used.2 = w)) ∧
      ∀ query : Query, stmt.state ≠ .finalized →
        let asked := (query.ask stmt).run.run w
        (query.readsRow →
          (asked.1 = .error (.state .noCurrentRow) ↔ stmt.state ≠ .stepping) ∧
          (stmt.state ≠ .stepping → asked.2 = w)) ∧
        ∀ index, query.column? = some index → (query.readsRow → stmt.state = .stepping) →
          ∃ count p, latestColumns w asked.2 = some count ∧ stmt.handle = some p ∧
            (∀ i c, asked.1 = .error (.state (.columnOutOfRange i c)) ↔
              OutOfRange index count ∧ i = index ∧ c = count) ∧
            (OutOfRange index count → (asked.2.since w.transcript.length).getLast? =
              some (.called (.columnCount p) count)) := by
  refine ⟨fun x op has opens => ?_, fun x path options => x.open_state_errors_iff path options w,
    fun slot stmt found => ⟨fun use => ?_, fun query live => ⟨fun reads => ?_, ?_⟩⟩⟩
  · exact Connection.Operation.state_errors_iff _ (reachable.database_of_opened has) opens w
  · exact use.finalized_iff (reachable.sound found)
  · obtain ⟨p, handle⟩ := (reachable.sound found).exists_handle live
    exact query.no_row_iff handle reads
  · intro index about row
    obtain ⟨p, handle⟩ := (reachable.sound found).exists_handle live
    obtain ⟨count, latest, refused, last⟩ := query.out_of_range_iff about handle row
    exact ⟨count, p, latest, handle, refused, last⟩

/-- The world after a session that prepares a statement. -/
def preparedWorld : World Scripted.engine (host Scripted.engine) :=
  let steps : List (Step Scripted.engine.Stimulus) :=
    [({ connection := some "a" }, .connect ":memory:" {}),
     ({ connection := some "a", statement := some "s" }, .prepare "q")]
  ((steps.mapM (next 1)).run (begin Scripted.engine {})).2

/-- The statement has not been stepped, so it has no columns to read; that is found out before its
number of columns is. -/
theorem unstepped_statement_has_no_row :
    let stmt : Statement := ⟨⟨1⟩, ⟨1⟩, some ⟨1⟩, .prepared, "q"⟩
    let asked := ((Query.columnText 7).ask stmt).run.run preparedWorld
    asked.1 = .error (.state .noCurrentRow) ∧ asked.2 = preparedWorld := by
  intro stmt
  have reachable : Reachable preparedWorld := (Reachable.begin _).steps 1 _
  have found : preparedWorld.host.statements.get? "s" = some stmt := by decide +kernel
  obtain ⟨-, -, statements⟩ := state_errors_come_first reachable 1
  obtain ⟨refused, nothing⟩ := ((statements "s" stmt found).2 (.columnText 7) nofun).1 rfl
  exact ⟨refused.mpr nofun, nothing nofun⟩

/-- The world after a session that has one connection which is not open, and one which is. -/
def halfOpenWorld : World Scripted.engine (host Scripted.engine) :=
  let steps : List (Step Scripted.engine.Stimulus) :=
    [({ connection := some "a" }, .create),
     ({ connection := some "b" }, .connect ":memory:" {})]
  ((steps.mapM (next 1)).run (begin Scripted.engine {})).2

/-- The session goes on with a function for the connection that is not open; the function owns the
other one. -/
def refusedFunction : Record Scripted.engine.Response :=
  ((next 1 ({ connection := some "a" }, .registerFunction "f" 1 .empty (.own "b"))).run
    halfOpenWorld).1

/-- A function for a connection that is not open closes the connection that it owns. -/
theorem refused_function_closes_connection :
    Reachable halfOpenWorld ∧
      (refusedFunction.report.result matches .error (.operation (.state .notOpen))) ∧
      Transcript.calls refusedFunction.entries = [(.closeV2, [.database ⟨1⟩])] :=
  ⟨(Reachable.begin _).steps 1 _, by decide +kernel, by decide +kernel⟩

end Session

end EngineBridge
