import EngineBridge.Proofs.Isolation.Changes
import EngineBridge.Scripted.Engine

/-!
# States of the scripted engine in two runs

The scripted engine keeps contexts in its tables of handlers, functions and invocations, and
hands them back from there.  In two runs its states differ in these contexts only, whatever it
is asked.
-/

set_option autoImplicit false

namespace EngineBridge.Scripted

open Native State

variable {ids ids₁ : IdTies}

/-! ## Numbered tables -/

section Tables

variable {α β : Type} {R : α → β → Prop} {xs : List α} {ys : List β}

/-- The same place of two tables holds things that are tied. -/
theorem getElem?_tied (h : List.Forall₂ R xs ys) (n : Nat) : Option.Rel R xs[n]? ys[n]? := by
  induction h generalizing n with
  | nil => exact .none
  | cons tied _ ih =>
    cases n with
    | zero => exact .some tied
    | succ n =>
      rw [List.getElem?_cons_succ, List.getElem?_cons_succ]
      exact ih n

/-- What a number stands for in two tables is tied, or stands for nothing in both. -/
theorem pick_tied (h : List.Forall₂ R xs ys) (number : Nat) :
    Option.Rel R (pick xs number) (pick ys number) := by
  unfold pick
  split
  · exact .none
  · exact getElem?_tied h _

/-- A change of one place keeps tables tied if it keeps what is there tied. -/
theorem adjust_tied {f : α → α} {g : β → β} (h : List.Forall₂ R xs ys) (number : Nat)
    (change : ∀ a b, R a b → R (f a) (g b)) :
    List.Forall₂ R (adjust xs number f) (adjust ys number g) := by
  unfold adjust
  split
  · exact h
  · generalize number - 1 = n
    induction h generalizing n with
    | nil => cases n <;> exact .nil
    | cons tied rest ih =>
      cases n with
      | zero => exact .cons (change _ _ tied) rest
      | succ n => exact .cons tied (ih n)

end Tables

/-! ## States -/

/-- Contexts of the busy handlers of connections that are tied. -/
def HandlerTied (ids : IdTies) (number number' : Nat) : Prop :=
  ((⟨number⟩, ⟨number'⟩) : ConnectionId × ConnectionId) ∈ ids

/-- Contexts of user functions, as far as they are given. -/
abbrev KeyTied (ids : IdTies) : Option FunctionKey → Option FunctionKey → Prop :=
  Option.Rel (FunctionKey.Tied ids)

/-- Databases that differ in contexts only. -/
structure DatabaseTied (ids : IdTies) (db db' : DatabaseState) : Prop where
  message : db.message = db'.message
  handler : Option.Rel (HandlerTied ids) db.handler db'.handler
  functions : List.Forall₂ (fun f f' => f.1 = f'.1 ∧ KeyTied ids f.2 f'.2)
    db.functions db'.functions
  limits : db.limits = db'.limits

/-- Invocations that differ in the context of the function only. -/
structure InvocationTied (ids : IdTies) (i i' : Invocation) : Prop where
  key : KeyTied ids i.key i'.key
  arguments : i.arguments = i'.arguments
  result : i.result = i'.result

/-- States that differ in contexts only. -/
structure StateTied (ids : IdTies) (s s' : State) : Prop where
  script : s.script = s'.script
  databases : List.Forall₂ (DatabaseTied ids) s.databases s'.databases
  programs : s.programs = s'.programs
  invocations : List.Forall₂ (InvocationTied ids) s.invocations s'.invocations

/-- Contexts of functions stay tied when more connections are. -/
theorem KeyTied.mono (le : ids ⊆ ids₁) {key key' : Option FunctionKey} (h : KeyTied ids key key') :
    KeyTied ids₁ key key' :=
  Option.Rel.mono (fun _ _ h => h.mono le) h

/-- Databases stay tied when more connections are. -/
theorem DatabaseTied.mono (le : ids ⊆ ids₁) {db db' : DatabaseState} (h : DatabaseTied ids db db') :
    DatabaseTied ids₁ db db' :=
  { h with
    handler := h.handler.mono fun _ _ h => le h
    functions := h.functions.imp fun _ _ h => ⟨h.1, h.2.mono le⟩ }

/-- States stay tied when more connections are. -/
theorem StateTied.mono (le : ids ⊆ ids₁) {s s' : State} (h : StateTied ids s s') :
    StateTied ids₁ s s' :=
  { h with
    databases := h.databases.imp fun _ _ h => h.mono le
    invocations := h.invocations.imp fun _ _ h => { h with key := h.key.mono le } }

/-- The same answer, and states that differ in contexts only. -/
def Gives (ids : IdTies) {α : Type} (x x' : α × State) : Prop :=
  x.1 = x'.1 ∧ StateTied ids x.2 x'.2

/-- A computation of the engine that gives the same answer, taken apart. -/
theorem Gives.exists_eq {α : Type} {x x' : α × State} (h : Gives ids x x') :
    ∃ a t t', x = (a, t) ∧ x' = (a, t') ∧ StateTied ids t t' := by
  obtain ⟨a, t⟩ := x
  obtain ⟨_, t'⟩ := x'
  obtain ⟨rfl, tied⟩ := h
  exact ⟨a, t, t', rfl, rfl, tied⟩

namespace StateTied

variable {s s' : State} (h : StateTied ids s s')

include h

/-! ### What is read -/

/-- Both states know the same of a program. -/
theorem program? (p : Program) : s.program? p = s'.program? p :=
  congrArg (pick · p.number) h.programs

/-- A program belongs to the same database in both states. -/
theorem databaseOf (p : Program) : s.databaseOf p = s'.databaseOf p :=
  congrArg (Option.map ProgramState.database) (h.program? p)

/-- A cell of the current row is the same in both states. -/
theorem cell (p : Program) (index : Int32) : s.cell p index = s'.cell p index := by
  simp only [State.cell, h.program?]

/-- A column is described alike in both states. -/
theorem column (p : Program) (index : Int32) : s.column p index = s'.column p index := by
  simp only [State.column, h.program?]

/-- A parameter is bound alike in both states. -/
theorem parameter (p : Program) (index : Int32) : s.parameter p index = s'.parameter p index := by
  simp only [State.parameter, h.program?]

/-- Both states know a database, or neither does, and what they know of it is tied. -/
theorem database? (d : Database) :
    Option.Rel (DatabaseTied ids) (s.database? d) (s'.database? d) :=
  pick_tied h.databases d.number

/-- Both states know an invocation, or neither does, and what they know of it is tied. -/
theorem invocation? (c : Context) :
    Option.Rel (InvocationTied ids) (s.invocation? c) (s'.invocation? c) :=
  pick_tied h.invocations c.number

/-- The latest message of a database is the same in both states. -/
theorem message (d : Database) :
    (s.database? d).bind (·.message) = (s'.database? d).bind (·.message) := by
  have both := h.database? d
  generalize s.database? d = db at both
  generalize s'.database? d = db' at both
  cases both with
  | none => rfl
  | some tied => exact tied.message

/-- The limits of a database are the same in both states. -/
theorem limits (d : Database) :
    (s.database? d).map (·.limits) = (s'.database? d).map (·.limits) := by
  have both := h.database? d
  generalize s.database? d = db at both
  generalize s'.database? d = db' at both
  cases both with
  | none => rfl
  | some tied => exact congrArg some tied.limits

/-- An argument of a function is the same in both states. -/
theorem argument (a : Argument) : s.argument a = s'.argument a := by
  have both := h.invocation? a.context
  unfold State.argument
  generalize s.invocation? a.context = i at both
  generalize s'.invocation? a.context = i' at both
  cases both with
  | none => rfl
  | some tied => simp only [Option.map_some, tied.arguments]

/-- The result that was set for an invocation is the same in both states. -/
theorem result (c : Context) :
    (s.invocation? c).bind (·.result) = (s'.invocation? c).bind (·.result) := by
  have both := h.invocation? c
  generalize s.invocation? c = i at both
  generalize s'.invocation? c = i' at both
  cases both with
  | none => rfl
  | some tied => exact tied.result

/-- The contexts of the function that was invoked are tied. -/
theorem key (c : Context) :
    KeyTied ids ((s.invocation? c).bind (·.key)) ((s'.invocation? c).bind (·.key)) := by
  have both := h.invocation? c
  generalize s.invocation? c = i at both
  generalize s'.invocation? c = i' at both
  cases both with
  | none => exact .none
  | some tied => exact tied.key

/-- The contexts of the busy handlers of a database are tied. -/
theorem handler (d : Database) :
    Option.Rel (HandlerTied ids) ((s.database? d).bind (·.handler))
      ((s'.database? d).bind (·.handler)) := by
  have both := h.database? d
  generalize s.database? d = db at both
  generalize s'.database? d = db' at both
  cases both with
  | none => exact .none
  | some tied => exact tied.handler

/-! ### What is changed -/

/-- Changing one database keeps states tied if it keeps databases tied. -/
theorem onDatabase (d : Database) {f g : DatabaseState → DatabaseState}
    (change : ∀ db db', DatabaseTied ids db db' → DatabaseTied ids (f db) (g db')) :
    StateTied ids (s.onDatabase d f) (s'.onDatabase d g) :=
  { h with databases := adjust_tied h.databases d.number change }

/-- Changing one program keeps states tied. -/
theorem onProgram (p : Program) (f : ProgramState → ProgramState) :
    StateTied ids (s.onProgram p f) (s'.onProgram p f) :=
  { h with programs := congrArg (adjust · p.number f) h.programs }

/-- Setting a result keeps states tied. -/
theorem setResult (c : Context) (result : FunctionResult) :
    StateTied ids (Scripted.setResult s c result) (Scripted.setResult s' c result) :=
  { h with
    invocations := adjust_tied h.invocations c.number fun _ _ tied => { tied with result := rfl } }

/-- Leaving a message for a database keeps states tied. -/
theorem say (d : Database) (message : Option Bytes) :
    StateTied ids (s.say d message) (s'.say d message) :=
  h.onDatabase d fun _ _ tied => { tied with message := rfl }

/-- The message of a reaction is left in both states. -/
theorem leaveMessage (d : Option Database) (r : Reaction) :
    StateTied ids (s.leaveMessage d r) (s'.leaveMessage d r) := by
  unfold State.leaveMessage
  split
  · exact h
  · exact h.say _ _
  · split
    · exact h
    · exact h.say _ _
  · exact h

/-- The next item of the script is the same in both states, and used up in both. -/
theorem take (symbol : Symbol) : Gives ids (s.take symbol) (s'.take symbol) := by
  unfold State.take
  rw [h.script]
  exact ⟨rfl, { h with script := rfl }⟩

/-- Both states react alike to a call on a database. -/
theorem react (symbol : Symbol) (d : Option Database) :
    Gives ids (s.react symbol d) (s'.react symbol d) := by
  obtain ⟨item, t, t', ht, ht', tied⟩ := (h.take symbol).exists_eq
  simp only [State.react, ht, ht']
  exact ⟨rfl, tied.leaveMessage _ _⟩

/-- Both states react alike to a call on a program. -/
theorem reactOn (symbol : Symbol) (p : Program) :
    Gives ids (s.reactOn symbol p) (s'.reactOn symbol p) := by
  unfold State.reactOn
  rw [h.databaseOf]
  exact h.react _ _

/-- A number from the script is the same in both states. -/
theorem number (symbol : Symbol) (default : Int32) :
    Gives ids (s.number symbol default) (s'.number symbol default) := by
  obtain ⟨item, t, t', ht, ht', tied⟩ := (h.take symbol).exists_eq
  simp only [State.number, ht, ht']
  exact ⟨rfl, tied⟩

/-- A text from the script is the same in both states. -/
theorem text (symbol : Symbol) (default : Option Bytes) :
    Gives ids (s.text symbol default) (s'.text symbol default) := by
  obtain ⟨item, t, t', ht, ht', tied⟩ := (h.take symbol).exists_eq
  simp only [State.text, ht, ht']
  exact ⟨rfl, tied⟩

end StateTied

/-! ## Answers -/

variable {s s' : State}

/-- Binding a parameter is answered alike. -/
theorem gives_bindCell (h : StateTied ids s s') (symbol : Symbol) (p : Program) (index : Int32)
    (cell : Cell) :
    Gives ids (bindCell s symbol p index cell) (bindCell s' symbol p index cell) := by
  obtain ⟨r, t, t', ht, ht', tied⟩ := (h.reactOn symbol p).exists_eq
  simp only [bindCell, ht, ht', tied.program?, tied.databaseOf]
  generalize decide (1 ≤ index ∧ index ≤ ((t'.program? p).map (·.parameters)).getD 0) = fits
  generalize t'.databaseOf p = owner
  cases r.code with
  | some code =>
    dsimp only
    split
    · exact ⟨rfl, tied.onProgram p _⟩
    · exact ⟨rfl, tied⟩
  | none =>
    cases fits with
    | true => exact ⟨rfl, tied.onProgram p _⟩
    | false =>
      cases owner with
      | some d => exact ⟨rfl, tied.say d _⟩
      | none => exact ⟨rfl, tied⟩

/-- Opening a database is answered alike. -/
theorem gives_openDatabase (h : StateTied ids s s') :
    Gives ids (openDatabase s) (openDatabase s') := by
  obtain ⟨item, t, t', ht, ht', tied⟩ := (h.take .openV2).exists_eq
  simp only [openDatabase, ht, ht', tied.databases.length_eq]
  split
  · refine ⟨rfl, StateTied.leaveMessage ?_ _ _⟩
    have fresh : DatabaseTied ids DatabaseState.fresh DatabaseState.fresh :=
      ⟨rfl, .none, .nil, rfl⟩
    exact { tied with databases := List.rel_append tied.databases (.cons fresh .nil) }
  · exact ⟨rfl, tied⟩

/-- Preparing a program is answered alike. -/
theorem gives_prepareProgram (h : StateTied ids s s') (d : Database) (sql : CString) :
    Gives ids (prepareProgram s d sql) (prepareProgram s' d sql) := by
  obtain ⟨r, t, t', ht, ht', tied⟩ := (h.react .prepareV2 (some d)).exists_eq
  simp only [prepareProgram, ht, ht', tied.programs]
  split
  · exact ⟨rfl, { tied with programs := rfl }⟩
  · exact ⟨rfl, tied⟩

/-- Installing a busy handler is answered alike if its contexts are tied. -/
theorem gives_busyHandler (h : StateTied ids s s') (d : Database) (installed : Bool)
    {number number' : Nat} (given : installed → HandlerTied ids number number') :
    Gives ids (answer s (.busyHandler d installed number))
      (answer s' (.busyHandler d installed number')) := by
  obtain ⟨r, t, t', ht, ht', tied⟩ := (h.react .busyHandler (some d)).exists_eq
  simp only [answer, ht, ht']
  split
  · refine ⟨rfl, tied.onDatabase d fun _ _ both => { both with handler := ?_ }⟩
    cases installed with
    | true => exact .some (given rfl)
    | false => exact .none
  · exact ⟨rfl, tied⟩

/-- Creating a function is answered alike if its contexts are tied. -/
theorem gives_createFunctionV2 (h : StateTied ids s s') (d : Database) (name : CString)
    (arity textRepresentation : Int32) {key key' : Option FunctionKey}
    (given : KeyTied ids key key') (scalar step final destroy : Bool) :
    Gives ids
      (answer s (.createFunctionV2 d name arity textRepresentation key scalar step final destroy))
      (answer s'
        (.createFunctionV2 d name arity textRepresentation key' scalar step final destroy)) := by
  obtain ⟨r, t, t', ht, ht', tied⟩ := (h.react .createFunctionV2 (some d)).exists_eq
  simp only [answer, ht, ht']
  split
  · refine ⟨rfl, tied.onDatabase d fun _ _ both => { both with functions := ?_ }⟩
    have others := filter_tied both.functions (fun _ _ h => h.1) (foldOctets name.content, arity)
    unfold changeFunctions
    cases scalar with
    | true => exact .cons ⟨rfl, given⟩ others
    | false => exact others
  · exact ⟨rfl, tied⟩

/-- The contexts that an invocation gives back are tied. -/
theorem answer_userData (h : StateTied ids s s') (c : Context) :
    KeyTied ids (answer s (.userData c)).1 (answer s' (.userData c)).1 ∧
      StateTied ids (answer s (.userData c)).2 (answer s' (.userData c)).2 := by
  obtain ⟨item, t, t', ht, ht', tied⟩ := (h.take .userData).exists_eq
  simp only [answer, ht, ht']
  cases item with
  | some item => exact ⟨.none, tied⟩
  | none => exact ⟨tied.key c, tied⟩

/-- Asking for a limit, or setting one, is answered alike. -/
theorem gives_limit (h : StateTied ids s s') (d : Database) (number value : Int32) :
    Gives ids (answer s (.limit d number value)) (answer s' (.limit d number value)) := by
  simp only [answer, h.limits]
  generalize ((((s'.database? d).map (·.limits)).getD []).lookup number).getD _ = old
  obtain ⟨old, t, t', ht, ht', tied⟩ := (h.number .limit old).exists_eq
  simp only [ht, ht']
  split
  · refine ⟨rfl, tied.onDatabase d fun _ _ both => { both with limits := ?_ }⟩
    exact congrArg ((number, value) :: ·) both.limits
  · exact ⟨rfl, tied⟩

/-- A call that has nothing to do with contexts has the same answer. -/
theorem gives_answer (h : StateTied ids s s') {c : Call} (contextless : c.Contextless) :
    Gives ids (answer s c) (answer s' c) := by
  cases c with
  | openV2 => exact gives_openDatabase h
  | prepareV2 d sql size => exact gives_prepareProgram h d sql
  | bindNull | bindInt | bindInt64 | bindDouble | bindText | bindBlob =>
    exact gives_bindCell h _ _ _ _
  | busyHandler d installed number =>
    obtain rfl : installed = false := contextless
    exact gives_busyHandler h d false fun given => absurd given Bool.false_ne_true
  | createFunctionV2 d name arity rep context =>
    obtain rfl : context = none := contextless
    exact gives_createFunctionV2 h d name arity rep .none _ _ _ _
  | userData => exact contextless.elim
  | resultNull | resultText | resultBlob | resultDouble | resultInt | resultInt64 | resultError =>
    exact ⟨rfl, h.setResult _ _⟩
  | errstr | libversion => exact h.text _ _
  | changes | totalChanges => exact h.number _ _
  | interrupt => exact ⟨rfl, h⟩
  | columnText p i => exact ⟨congrArg Cell.text (h.cell p i), h⟩
  | columnBlob p i => exact ⟨congrArg Cell.blob (h.cell p i), h⟩
  | columnDouble p i => exact ⟨congrArg Cell.double (h.cell p i), h⟩
  | columnInt p i => exact ⟨congrArg Cell.int (h.cell p i), h⟩
  | columnInt64 p i => exact ⟨congrArg Cell.int64 (h.cell p i), h⟩
  | columnBytes p i => exact ⟨congrArg Cell.bytes (h.cell p i), h⟩
  | valueInt64 a => exact ⟨congrArg Cell.int64 (h.argument a), h⟩
  | valueDouble a => exact ⟨congrArg Cell.double (h.argument a), h⟩
  | valueText a => exact ⟨congrArg Cell.text (h.argument a), h⟩
  | valueBlob a => exact ⟨congrArg Cell.blob (h.argument a), h⟩
  | valueBytes a => exact ⟨congrArg Cell.bytes (h.argument a), h⟩
  | errmsg d =>
    simp only [answer, h.message]
    exact h.text _ _
  | bindParameterCount p | columnCount p =>
    simp only [answer, h.program?]
    exact h.number _ _
  | columnType p i =>
    simp only [answer, h.cell]
    exact h.number _ _
  | columnName p i | columnTableName p i | columnDecltype p i =>
    simp only [answer, h.column]
    exact h.text _ _
  | valueType a =>
    simp only [answer, h.argument]
    exact h.number _ _
  | limit d number value => exact gives_limit h d number value
  | closeV2 d =>
    obtain ⟨r, t, t', ht, ht', tied⟩ := (h.react .closeV2 (some d)).exists_eq
    simp only [answer, ht, ht']
    split
    · exact ⟨rfl, tied.onDatabase d fun _ _ both => { both with functions := .nil }⟩
    · exact ⟨rfl, tied⟩
  | busyTimeout d ms =>
    obtain ⟨r, t, t', ht, ht', tied⟩ := (h.react .busyTimeout (some d)).exists_eq
    simp only [answer, ht, ht']
    split
    · exact ⟨rfl, tied.onDatabase d fun _ _ both => { both with handler := .none }⟩
    · exact ⟨rfl, tied⟩
  | reset p =>
    obtain ⟨r, t, t', ht, ht', tied⟩ := (h.reactOn .reset p).exists_eq
    simp only [answer, ht, ht', tied.program?]
    exact ⟨rfl, tied.onProgram p _⟩
  | finalize p =>
    obtain ⟨r, t, t', ht, ht', tied⟩ := (h.reactOn .finalize p).exists_eq
    simp only [answer, ht, ht', tied.program?]
    exact ⟨rfl, tied⟩
  | clearBindings p =>
    obtain ⟨r, t, t', ht, ht', tied⟩ := (h.reactOn .clearBindings p).exists_eq
    simp only [answer, ht, ht']
    split
    · exact ⟨rfl, tied.onProgram p _⟩
    · exact ⟨rfl, tied⟩
  | enableSharedCache on =>
    obtain ⟨r, t, t', ht, ht', tied⟩ := (h.react .enableSharedCache none).exists_eq
    simp only [answer, ht, ht']
    exact ⟨rfl, tied⟩
  | enableLoadExtension d on =>
    obtain ⟨r, t, t', ht, ht', tied⟩ := (h.react .enableLoadExtension (some d)).exists_eq
    simp only [answer, ht, ht']
    exact ⟨rfl, tied⟩

/-- The scripted engine answers a call by what it has been told, whatever the contexts are. -/
theorem answered_answer (h : StateTied ids s s') {c c' : Call} (calls : c.Tied ids c') :
    Answered ids c (answer s c).1 c' (answer s' c').1 ∧
      StateTied ids (answer s c).2 (answer s' c').2 := by
  cases calls with
  | contextless contextless =>
    obtain ⟨same, tied⟩ := gives_answer h contextless
    rw [← same]
    exact ⟨.contextless contextless _, tied⟩
  | busyHandler d given =>
    obtain ⟨same, tied⟩ := gives_busyHandler h d true fun _ => given
    refine ⟨?_, tied⟩
    rw [← same]
    exact .busyHandler d given _
  | createFunctionV2 d name arity rep scalar step final destroy given =>
    obtain ⟨same, tied⟩ :=
      gives_createFunctionV2 h d name arity rep (.some given) scalar step final destroy
    rw [← same]
    exact ⟨.createFunctionV2 d name arity rep scalar step final destroy given _, tied⟩
  | userData c =>
    obtain ⟨keys, tied⟩ := answer_userData h c
    exact ⟨.userData c keys, tied⟩

end EngineBridge.Scripted
