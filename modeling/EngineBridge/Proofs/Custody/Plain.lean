import EngineBridge.Proofs.Custody.Leads

/-!
# Operations that leave the custody as it is

Questions to a connection or a statement, and the settings that the library keeps no
account of: such an operation makes calls on the handle that it is about, and on nothing
else.
-/

set_option autoImplicit false

namespace EngineBridge

open Native

variable {E : Engine} {H : Host}

/-- A call that changes nothing in the account of the moves, on no other object than
these. -/
def Native.Call.Within (database : Option Database) (program : Option Program) (c : Call) :
    Prop :=
  (∀ a, c.IsPlain a) ∧ ∀ o ∈ c.operands,
    match o with
    | .database d => database = some d
    | .program p => program = some p
    | _ => True

namespace Native

/-- The column that a call is about, with the object of its statement. -/
def Call.column? : Call → Option (Program × Int32)
  | .columnType p i | .columnName p i | .columnTableName p i | .columnDecltype p i
  | .columnText p i | .columnBlob p i | .columnDouble p i | .columnInt p i | .columnInt64 p i
  | .columnBytes p i => some (p, i)
  | _ => none

/-- A call that is about no column. -/
abbrev Call.Columnless (c : Call) : Prop := c.column? = none

/-- An operand is an object of the engine. -/
def Operand.isObject : Operand → Bool
  | .database _ | .program _ => true
  | _ => false

/-- There is but one object among the operands. -/
theorem eq_of_objects {operands : List Operand} {object o : Operand}
    (objects : operands.filter Operand.isObject = [object]) (ho : o ∈ operands)
    (h : o.isObject) : o = object :=
  List.mem_singleton.mp (objects ▸ List.mem_filter.mpr ⟨ho, h⟩)

namespace Call.Within

variable {c : Call} {database : Option Database} {program : Option Program}

/-- A call on no object at all is within any limits. -/
theorem of_nil (plain : ∀ a, c.IsPlain a) (objects : c.operands.filter Operand.isObject = []) :
    c.Within database program := by
  have none : ∀ o ∈ c.operands, ¬ o.isObject := List.filter_eq_nil_iff.mp objects
  refine ⟨plain, fun o ho => ?_⟩
  cases o with
  | database d => exact absurd rfl (none _ ho)
  | program p => exact absurd rfl (none _ ho)
  | _ => trivial

/-- A call on one connection is within the limits of that connection. -/
theorem of_database {d : Database} (plain : ∀ a, c.IsPlain a)
    (objects : c.operands.filter Operand.isObject = [.database d]) :
    c.Within (some d) program := by
  refine ⟨plain, fun o ho => ?_⟩
  cases o with
  | database other => exact congrArg some (Operand.database.inj (eq_of_objects objects ho rfl)).symm
  | program p => exact nomatch eq_of_objects objects ho rfl
  | _ => trivial

/-- A call on one statement is within the limits of that statement. -/
theorem of_program {p : Program} (plain : ∀ a, c.IsPlain a)
    (objects : c.operands.filter Operand.isObject = [.program p]) :
    c.Within database (some p) := by
  refine ⟨plain, fun o ho => ?_⟩
  cases o with
  | database d => exact nomatch eq_of_objects objects ho rfl
  | program other => exact congrArg some (Operand.program.inj (eq_of_objects objects ho rfl)).symm
  | _ => trivial

/-- A call on no statement is about no column. -/
theorem columnless (h : c.Within database none) : c.Columnless := by
  unfold Columnless
  cases about : c.column? with
  | none => rfl
  | some column =>
    obtain ⟨p, index⟩ := column
    have named : Operand.program p ∈ c.operands := by
      cases c with
      | columnType | columnName | columnTableName | columnDecltype | columnText | columnBlob
      | columnDouble | columnInt | columnInt64 | columnBytes =>
        obtain ⟨rfl, -⟩ := Prod.mk.inj (Option.some.inj about)
        exact List.mem_cons_self
      | _ => cases about
    exact nomatch h.2 _ named

end Call.Within

end Native

/-- Calls on objects that are within reach leave the custody as it is. -/
theorem Asks.leads_within {α : Type} {m : Bridge E H α} {database : Option Database}
    {program : Option Program} {κ : Custody} {w : World E H}
    (h : Asks (Call.Within database program) m)
    (hd : ∀ d, database = some d → Stage.Reaches ⟨κ, w⟩ (.database d))
    (hp : ∀ p, program = some p → Stage.Reaches ⟨κ, w⟩ (.program p)) :
    Leads Move m κ w fun _ κ' w' => κ' = κ ∧ AskedBy (Call.Within database program) w w' := by
  refine h.leads (fun c hc => hc.1) fun c hc o ho => ?_
  have hwithin := hc.2 o ho
  cases o with
  | database d => exact hd d hwithin
  | program p => exact hp p hwithin
  | _ => trivial

/-- Operands are within reach if there is no object among them. -/
theorem Stage.reaches_none {s : Stage E H} {operands : List Operand}
    (objects : operands.filter Operand.isObject = []) : ∀ o ∈ operands, s.Reaches o := by
  have none : ∀ o ∈ operands, ¬ o.isObject := List.filter_eq_nil_iff.mp objects
  intro o ho
  cases o with
  | database d => exact absurd rfl (none _ ho)
  | program p => exact absurd rfl (none _ ho)
  | _ => trivial

/-- Operands are within reach if the only object among them is. -/
theorem Stage.reaches_all {s : Stage E H} {operands : List Operand} {object : Operand}
    (reach : s.Reaches object) (objects : operands.filter Operand.isObject = [object]) :
    ∀ o ∈ operands, s.Reaches o := by
  intro o ho
  cases o with
  | database d => exact eq_of_objects objects ho rfl ▸ reach
  | program p => exact eq_of_objects objects ho rfl ▸ reach
  | _ => trivial

/-- The object of a connection that is shared is within reach. -/
theorem Custody.reaches_shared {κ : Custody} {w : World E H} {x : Connection} {d : Database}
    (hand : x ∈ κ.shared) (handle : x.handle = some d) : Stage.Reaches ⟨κ, w⟩ (.database d) :=
  .inl ⟨x, Stage.mem_held_of_shared (s := ⟨κ, w⟩) hand, handle⟩

/-- The object of a connection that is held exclusively is within reach. -/
theorem Custody.reaches_exclusive {κ : Custody} {w : World E H} {x : Connection} {d : Database}
    (hand : x ∈ κ.exclusive) (handle : x.handle = some d) : Stage.Reaches ⟨κ, w⟩ (.database d) :=
  .inl ⟨x, Stage.mem_held_of_exclusive (s := ⟨κ, w⟩) hand, handle⟩

namespace Connection

variable {conn : Connection}

/-- What an open connection is asked is asked of its object. -/
theorem asks_live {α : Type} {program : Option Program} {f : Database → Fallible E H α}
    (h : ∀ d, conn.handle = some d → Asks (Call.Within (some d) program) (f d).run) :
    Asks (Call.Within conn.handle program) (conn.live >>= f).run := by
  unfold live
  cases hd : conn.database with
  | error e => exact Asks.run_throw _
  | ok d =>
    have handle := handle_of_database hd
    rw [handle]
    exact h d handle

/-- A call on the object of a connection. -/
theorem asks_call {d : Database} {program : Option Program} {c : Call}
    (plain : ∀ a, c.IsPlain a) (objects : c.operands.filter Operand.isObject = [.database d]) :
    Asks (Call.Within (some d) program) (Fallible.lift (Bridge.call c) : Fallible E H _).run :=
  Asks.run_lift (Asks.call (.of_database plain objects))

/-- The number of changes is asked for with the connection's own object. -/
theorem asks_changes :
    Asks (Call.Within conn.handle none) (conn.changes : Fallible E H Int32).run :=
  asks_live fun _ _ => asks_call (fun _ => trivial) rfl

/-- The number of all changes is asked for with the connection's own object. -/
theorem asks_totalChanges :
    Asks (Call.Within conn.handle none) (conn.totalChanges : Fallible E H Int32).run :=
  asks_live fun _ _ => asks_call (fun _ => trivial) rfl

/-- Limits are asked for with the connection's own object. -/
theorem asks_limit (limit : Limit) (value : Int32) :
    Asks (Call.Within conn.handle none) (conn.limit limit value : Fallible E H Int32).run :=
  asks_live fun _ _ => asks_call (fun _ => trivial) rfl

/-- The latest message is asked for with the connection's own object. -/
theorem asks_errmsg :
    Asks (Call.Within conn.handle none) (conn.errmsg : Fallible E H String).run :=
  asks_live fun _ _ => Asks.run_bind (asks_call (fun _ => trivial) rfl) Asks.run_requiredString

/-- Extensions are switched on or off with the connection's own object. -/
theorem asks_enableLoadExtension (on : Bool) :
    Asks (Call.Within conn.handle none) (conn.enableLoadExtension on : Fallible E H Unit).run := by
  refine asks_live fun d _ => Asks.run_succeed (.of_database (fun _ => trivial) rfl) ?_ (by simp)
  intro other hother
  obtain rfl := Option.some.inj hother
  exact .of_database (fun _ => trivial) rfl

end Connection

namespace Library

/-- The version is asked for with no object at all. -/
theorem asks_version : Asks (Call.Within none none) (version : Fallible E H String).run :=
  Asks.run_bind (Asks.run_lift (Asks.call (.of_nil (fun _ => trivial) rfl)))
    Asks.run_requiredString

/-- The shared cache is switched on or off with no object at all. -/
theorem asks_enableSharedCache (on : Bool) :
    Asks (Call.Within none none) (enableSharedCache on : Fallible E H Unit).run :=
  Asks.run_succeed (.of_nil (fun _ => trivial) rfl) (by simp)
    fun _ _ => .of_nil (fun _ => trivial) rfl

end Library

namespace Statement

variable {stmt : Statement}

/-- The calls on a statement and the diagnoses of their failures. -/
abbrev Calls (stmt : Statement) : Call → Prop := Call.Within (some stmt.database) stmt.handle

/-- A call on the object of a statement. -/
theorem calls_program {p : Program} {c : Call} (hp : stmt.handle = some p)
    (plain : ∀ a, c.IsPlain a) (objects : c.operands.filter Operand.isObject = [.program p]) :
    stmt.Calls c := by
  unfold Calls
  rw [hp]
  exact .of_program plain objects

/-- The latest message of its database is among the calls of a statement. -/
theorem calls_errmsg : stmt.Calls (.errmsg stmt.database) :=
  .of_database (fun _ => trivial) rfl

/-- What a statement is asked is asked of its object. -/
theorem asks_live {α : Type} {f : Program → Fallible E H α}
    (h : ∀ p, stmt.handle = some p → Asks stmt.Calls (f p).run) :
    Asks stmt.Calls (stmt.live >>= f).run := by
  unfold live
  cases hp : stmt.handle with
  | none => exact Asks.run_throw _
  | some p => exact h p hp

/-- A call of which the answer is taken. -/
theorem asks_call {p : Program} {c : Call} (hp : stmt.handle = some p)
    (plain : ∀ a, c.IsPlain a) (objects : c.operands.filter Operand.isObject = [.program p]) :
    Asks stmt.Calls (Fallible.lift (Bridge.call c) : Fallible E H _).run :=
  Asks.run_lift (Asks.call (calls_program hp plain objects))

/-- A call of which nothing but success is taken. -/
theorem asks_succeed {c : Program → Call} {code : (p : Program) → (c p).Answer → Int32}
    (h : ∀ p, stmt.handle = some p → stmt.Calls (c p)) :
    Asks stmt.Calls (stmt.succeed c code : Fallible E H Unit).run :=
  asks_live fun p hp => Asks.run_succeed (h p hp)
    (fun d hd => Option.some.inj hd ▸ calls_errmsg) (by simp)

/-- Clearing the bindings makes calls of the statement only. -/
theorem asks_clearBindings : Asks stmt.Calls (stmt.clearBindings : Fallible E H Unit).run :=
  asks_succeed fun _ hp => calls_program hp (fun _ => trivial) rfl

/-- Binding a null makes calls of the statement only. -/
theorem asks_bindNull (index : Int32) :
    Asks stmt.Calls (stmt.bindNull index : Fallible E H Unit).run :=
  asks_succeed fun _ hp => calls_program hp (fun _ => trivial) rfl

/-- Binding an integer makes calls of the statement only. -/
theorem asks_bindInt (index value : Int32) :
    Asks stmt.Calls (stmt.bindInt index value : Fallible E H Unit).run :=
  asks_succeed fun _ hp => calls_program hp (fun _ => trivial) rfl

/-- Binding a wide integer makes calls of the statement only. -/
theorem asks_bindInt64 (index : Int32) (value : Int64) :
    Asks stmt.Calls (stmt.bindInt64 index value : Fallible E H Unit).run :=
  asks_succeed fun _ hp => calls_program hp (fun _ => trivial) rfl

/-- Binding a real makes calls of the statement only. -/
theorem asks_bindDouble (index : Int32) (value : Binary64) :
    Asks stmt.Calls (stmt.bindDouble index value : Fallible E H Unit).run :=
  asks_succeed fun _ hp => calls_program hp (fun _ => trivial) rfl

/-- Binding a text makes calls of the statement only. -/
theorem asks_bindText (index : Int32) (value : String) :
    Asks stmt.Calls (stmt.bindText index value : Fallible E H Unit).run :=
  asks_live fun p hp => Asks.run_bind (Asks.run_ofExcept _) fun buffer => Asks.run_succeed
    (calls_program hp (fun _ => trivial) rfl)
    (fun d hd => Option.some.inj hd ▸ calls_errmsg) (by simp)

/-- Binding a blob makes calls of the statement only. -/
theorem asks_bindBlob (index : Int32) (value : Bytes) :
    Asks stmt.Calls (stmt.bindBlob index value : Fallible E H Unit).run :=
  asks_live fun p hp => Asks.run_bind (Asks.run_ofExcept _) fun buffer => Asks.run_succeed
    (calls_program hp (fun _ => trivial) rfl)
    (fun d hd => Option.some.inj hd ▸ calls_errmsg) (by simp)

/-- Binding a value of any kind makes calls of the statement only. -/
theorem asks_bindValue (index : Int32) (value : Value) :
    Asks stmt.Calls (stmt.bindValue index value : Fallible E H Unit).run := by
  cases value with
  | null => exact asks_bindNull index
  | integer v => exact asks_bindInt64 index v
  | real v => exact asks_bindDouble index v
  | text s => exact asks_bindText index s
  | blob bs => exact asks_bindBlob index bs

/-- Counting the parameters makes calls of the statement only. -/
theorem asks_bindParameterCount :
    Asks stmt.Calls (stmt.bindParameterCount : Fallible E H Int32).run :=
  asks_live fun _ hp => asks_call hp (fun _ => trivial) rfl

/-- Counting the columns makes calls of the statement only. -/
theorem asks_columnCount : Asks stmt.Calls (stmt.columnCount : Fallible E H Int32).run :=
  asks_live fun _ hp => asks_call hp (fun _ => trivial) rfl

/-- What is asked about a column comes after the number of columns has been asked for. -/
theorem asks_column {α : Type} {index : Int32} {f : Program → Fallible E H α}
    (h : ∀ p, stmt.handle = some p → Asks stmt.Calls (f p).run) :
    Asks stmt.Calls (stmt.column index >>= f).run := by
  unfold column
  rw [bind_assoc]
  refine asks_live fun p hp => ?_
  rw [bind_assoc]
  refine Asks.run_bind (asks_call hp (fun _ => trivial) rfl) fun count => ?_
  split
  · exact Asks.run_throw _
  · exact h p hp

/-- What is asked about a column of the current row. -/
theorem asks_rowColumn {α : Type} {index : Int32} {f : Program → Fallible E H α}
    (h : ∀ p, stmt.handle = some p → Asks stmt.Calls (f p).run) :
    Asks stmt.Calls (stmt.rowColumn index >>= f).run := by
  unfold rowColumn
  split
  · exact Asks.run_throw _
  · exact asks_column h

/-- Asking how a column is stored makes calls of the statement only. -/
theorem asks_storedType {p : Program} {index : Int32} (hp : stmt.handle = some p) :
    Asks stmt.Calls (storedType p index : Fallible E H ColumnType).run :=
  Asks.run_bind
    (asks_call hp (fun _ => trivial) rfl) fun _ => Asks.run_pure _

/-- Asking for the name of a column makes calls of the statement only. -/
theorem asks_columnName (index : Int32) :
    Asks stmt.Calls (stmt.columnName index : Fallible E H String).run :=
  asks_column fun _ hp => Asks.run_bind
    (asks_call hp (fun _ => trivial) rfl) Asks.run_requiredString

/-- Asking for the table of a column makes calls of the statement only. -/
theorem asks_columnTableName (index : Int32) :
    Asks stmt.Calls (stmt.columnTableName index : Fallible E H (Option String)).run :=
  asks_column fun _ hp => Asks.run_bind
    (asks_call hp (fun _ => trivial) rfl) fun _ => Asks.run_ofExcept _

/-- Asking for the declared type of a column makes calls of the statement only. -/
theorem asks_columnDecltype (index : Int32) :
    Asks stmt.Calls (stmt.columnDecltype index : Fallible E H (Option String)).run :=
  asks_column fun _ hp => Asks.run_bind
    (asks_call hp (fun _ => trivial) rfl) fun _ => Asks.run_ofExcept _

/-- Asking for the type of a column makes calls of the statement only. -/
theorem asks_columnType (index : Int32) :
    Asks stmt.Calls (stmt.columnType index : Fallible E H ColumnType).run :=
  asks_rowColumn fun _ hp => asks_storedType hp

/-- Reading a text makes calls of the statement only. -/
theorem asks_columnText (index : Int32) :
    Asks stmt.Calls (stmt.columnText index : Fallible E H (Option String)).run := by
  refine asks_rowColumn fun p hp => Asks.run_bind (asks_storedType hp) fun type => ?_
  split
  · exact Asks.run_pure _
  · exact Asks.run_bind (asks_call hp (fun _ => trivial) rfl) fun pointer =>
      Asks.run_bind (asks_call hp (fun _ => trivial) rfl) fun length => Asks.run_ofExcept _

/-- Reading a blob makes calls of the statement only. -/
theorem asks_columnBlob (index : Int32) :
    Asks stmt.Calls (stmt.columnBlob index : Fallible E H (Option Bytes)).run := by
  refine asks_rowColumn fun p hp => Asks.run_bind (asks_storedType hp) fun type => ?_
  split
  · exact Asks.run_pure _
  · exact Asks.run_bind (asks_call hp (fun _ => trivial) rfl) fun pointer =>
      Asks.run_bind (asks_call hp (fun _ => trivial) rfl) fun length => Asks.run_pure _

/-- Reading a real makes calls of the statement only. -/
theorem asks_columnDouble (index : Int32) :
    Asks stmt.Calls (stmt.columnDouble index : Fallible E H Binary64).run :=
  asks_rowColumn fun _ hp => asks_call hp (fun _ => trivial) rfl

/-- Reading an integer makes calls of the statement only. -/
theorem asks_columnInt (index : Int32) :
    Asks stmt.Calls (stmt.columnInt index : Fallible E H Int32).run :=
  asks_rowColumn fun _ hp => asks_call hp (fun _ => trivial) rfl

/-- Reading a wide integer makes calls of the statement only. -/
theorem asks_columnInt64 (index : Int32) :
    Asks stmt.Calls (stmt.columnInt64 index : Fallible E H Int64).run :=
  asks_rowColumn fun _ hp => asks_call hp (fun _ => trivial) rfl

/-- Reading a length makes calls of the statement only. -/
theorem asks_columnBytes (index : Int32) :
    Asks stmt.Calls (stmt.columnBytes index : Fallible E H Int32).run :=
  asks_rowColumn fun _ hp => asks_call hp (fun _ => trivial) rfl

/-- Reading a value of any kind makes calls of the statement only. -/
theorem asks_columnValue (index : Int32) :
    Asks stmt.Calls (stmt.columnValue index : Fallible E H Value).run := by
  refine Asks.run_bind (asks_columnType index) fun type => ?_
  cases type with
  | null => exact Asks.run_pure _
  | integer => exact Asks.run_bind (asks_columnInt64 index) fun _ => Asks.run_pure _
  | float => exact Asks.run_bind (asks_columnDouble index) fun _ => Asks.run_pure _
  | text => exact Asks.run_bind (asks_columnText index) fun _ => Asks.run_pure _
  | blob => exact Asks.run_bind (asks_columnBlob index) fun _ => Asks.run_pure _

end Statement

end EngineBridge
