import EngineBridge.Proofs.Reentry.Operations

/-!
# What computations add to the transcript

A transcript only ever goes on, entry by entry.  `Extends` says that every entry that is added
fits what has happened before it, and `Bridge.Adds` says so of a computation, wherever it starts.
More generally a transcript goes on in steps of some kind, each of which may add more than one entry
(`Bridge.Prolongs`).

All operations are made of three things that they do to the transcript: a call is made, a failure is
diagnosed, or a comment is noted.  So if these go on with the transcript in steps of a kind, all
operations do (`Bridge.Routes`), those included that let closures go and close what the closures
own.  One such kind are the entries that are about no column of a statement.
-/

set_option autoImplicit false

namespace EngineBridge

open Native Relation

variable {E : Engine} {H : Host} {α β ε : Type}

/-- A transcript goes on with entries that fit what has happened before them. -/
def Extends (fits : Entry → List Entry → Prop) : List Entry → List Entry → Prop :=
  ReflTransGen fun log log' => ∃ entry, fits entry log ∧ log' = entry :: log

section

variable {fits fits' : Entry → List Entry → Prop} {entry : Entry} {log log' : List Entry}

/-- What fits more strictly fits less strictly, all along a transcript. -/
theorem Extends.mono (h : Extends fits log log')
    (imp : ∀ entry earlier, fits entry earlier → fits' entry earlier) : Extends fits' log log' := by
  refine ReflTransGen.mono ?_ _ _ h
  rintro before after ⟨entry, now, rfl⟩
  exact ⟨entry, imp entry before now, rfl⟩

/-- What was said of a transcript throughout can be said of it when it goes on. -/
theorem Throughout.extend (h : Throughout fits log) (more : Extends fits log log') :
    Throughout fits log' := by
  induction more with
  | refl => exact h
  | tail _ step ih =>
    obtain ⟨entry, now, rfl⟩ := step
    exact .cons now ih

/-- Before each entry that is added there is the transcript as it was, and what has been added
until then. -/
theorem Extends.since {kept : Entry → Prop} (h : Extends fits log log')
    (keeps : ∀ entry earlier, fits entry earlier → kept entry) :
    Extends (fun entry earlier => fits entry earlier ∧
      ∃ own, earlier = own ++ log ∧ ∀ other ∈ own, kept other) log log' ∧
    ∃ more, log' = more ++ log ∧ ∀ other ∈ more, kept other := by
  induction h with
  | refl => exact ⟨.refl, [], rfl, List.forall_mem_nil _⟩
  | tail _ step ih =>
    obtain ⟨entry, now, rfl⟩ := step
    obtain ⟨before, own, rfl, kept⟩ := ih
    refine ⟨before.tail ⟨entry, ⟨now, own, rfl, kept⟩, rfl⟩, entry :: own, rfl, ?_⟩
    exact List.forall_mem_cons.mpr ⟨keeps entry _ now, kept⟩

end

/-! ## Computations that go on with the transcript -/

/-- A computation goes on with the transcript in steps of a kind, wherever it starts. -/
def Bridge.Prolongs (step : List Entry → List Entry → Prop) (m : Bridge E H α) : Prop :=
  ∀ w : World E H, ReflTransGen step w.transcript (m w).2.transcript

namespace Bridge.Prolongs

variable {step : List Entry → List Entry → Prop}

/-- A value that is just given adds nothing. -/
theorem pure (a : α) : Prolongs step (Pure.pure a : Bridge E H α) := fun _ => .refl

/-- One computation after another goes on with the transcript if both do. -/
theorem bind {m : Bridge E H α} {f : α → Bridge E H β} (h : Prolongs step m)
    (next : ∀ a, Prolongs step (f a)) : Prolongs step (m >>= f) :=
  fun w => (h w).trans (next _ _)

/-- A computation that takes a single step goes on with the transcript. -/
theorem single {m : Bridge E H α} (h : ∀ w : World E H, step w.transcript (m w).2.transcript) :
    Prolongs step m :=
  fun w => .single (h w)

/-- Looking at the world adds nothing; what is done next may depend on it. -/
theorem get_bind {f : World E H → Bridge E H β} (next : ∀ w, Prolongs step (f w)) :
    Prolongs step (get >>= f) :=
  fun w => next w w

/-- A change of the world outside its transcript adds nothing. -/
theorem modifyGet {f : World E H → α × World E H}
    (transcript : ∀ w, (f w).2.transcript = w.transcript) :
    Prolongs step (modifyGet f : Bridge E H α) := by
  intro w
  show ReflTransGen step w.transcript (f w).2.transcript
  rw [transcript]

/-- Noting an entry is a step if the entry makes one wherever it comes. -/
theorem record {entry : Entry} (h : ∀ log, step log (entry :: log)) :
    Prolongs step (Bridge.record entry : Bridge E H Unit) :=
  single fun w => h w.transcript

/-- The same done for each of a list goes on with the transcript if each does. -/
theorem forM {f : α → Bridge E H Unit} (h : ∀ a, Prolongs step (f a)) (as : List α) :
    Prolongs step (as.forM f) := by
  induction as with
  | nil => exact pure ()
  | cons a as ih =>
    rw [List.forM_eq_forM, List.forM_cons]
    exact (h a).bind fun _ => ih

/-- A success that is just given adds nothing. -/
theorem run_pure (a : α) : Prolongs step (Pure.pure a : ExceptT ε (Bridge E H) α).run := pure _

/-- A failure that is just raised adds nothing. -/
theorem run_throw (e : ε) : Prolongs step (throw e : ExceptT ε (Bridge E H) α).run := pure _

/-- A sequence that may fail goes on with the transcript if both parts do; after a failure nothing
is added. -/
theorem run_bind {m : ExceptT ε (Bridge E H) α} {f : α → ExceptT ε (Bridge E H) β}
    (h : Prolongs step m.run) (next : ∀ a, Prolongs step (f a).run) :
    Prolongs step (m >>= f).run := by
  rw [ExceptT.run_bind]
  refine bind h ?_
  rintro (e | a)
  · exact pure _
  · exact next a

/-- What cannot fail goes on with the transcript in a place where failures are possible. -/
theorem run_lift {m : Bridge E H α} (h : Prolongs step m) :
    Prolongs step (ExceptT.lift m : ExceptT ε (Bridge E H) α).run :=
  bind h fun _ => pure _

/-- A result that is already there adds nothing, be it a failure or not. -/
theorem run_ofExcept {convert : ε → BindError} (r : Except ε α) :
    Prolongs step (Fallible.ofExcept convert r : Fallible E H α).run := by
  cases r with
  | ok a => exact run_pure a
  | error e => exact run_throw _

/-- Asking that a string is there and well formed adds nothing. -/
theorem run_requiredString {symbol : Symbol} (text : Option CString) :
    Prolongs step (Fallible.requiredString symbol text : Fallible E H String).run := by
  refine run_bind (run_ofExcept _) fun text => ?_
  cases text with
  | none => exact run_throw _
  | some s => exact run_pure s

/-- A failure that is raised again after cleaning up goes on with the transcript if the computation
and the cleaning up do. -/
theorem run_tryCatch_throw {m : Fallible E H α} {clean : BindError → Bridge E H Unit}
    (h : Prolongs step m.run) (cleaned : ∀ e, Prolongs step (clean e)) :
    Prolongs step (tryCatch m fun e => do
      Fallible.lift (clean e)
      throw e : Fallible E H α).run := by
  rw [ExceptT.run_tryCatch]
  refine bind h ?_
  rintro (e | a)
  · exact run_bind (run_lift (cleaned e)) fun _ => run_throw e
  · exact pure _

end Bridge.Prolongs

/-- What a computation adds to the transcript fits what has happened before. -/
def Bridge.Adds (fits : Entry → List Entry → Prop) (m : Bridge E H α) : Prop :=
  ∀ w : World E H, Extends fits w.transcript (m w).2.transcript

/-- A transcript goes on with one entry that fits. -/
abbrev Appends (fits : Entry → List Entry → Prop) (log log' : List Entry) : Prop :=
  ∃ entry, fits entry log ∧ log' = entry :: log

/-- What has been asked fits what has happened before if calls of the kind do, and notes do. -/
theorem AskedBy.adds {fits : Entry → List Entry → Prop} {P : Call → Prop} {w v : World E H}
    (h : AskedBy P w v) (aside : ∀ entry : Entry, entry.IsAside → ∀ log, fits entry log)
    (called : ∀ c, P c → ∀ a log, fits (.called c a) log) :
    Extends fits w.transcript v.transcript := by
  induction h with
  | refl => exact .refl
  | tail _ step ih =>
    obtain ⟨entry, note, rfl⟩ | ⟨c, hc, rfl⟩ := step
    · exact ih.tail ⟨entry, aside entry note _, rfl⟩
    · exact ih.tail ⟨_, called c hc _ _, rfl⟩

namespace Bridge.Adds

variable {fits : Entry → List Entry → Prop}

/-- A value that is just given adds no entries. -/
theorem pure (a : α) : Bridge.Adds fits (Pure.pure a : Bridge E H α) := Prolongs.pure a

/-- One computation after another adds only fitting entries if both do. -/
theorem bind {m : Bridge E H α} {f : α → Bridge E H β} (h : Bridge.Adds fits m)
    (next : ∀ a, Bridge.Adds fits (f a)) : Bridge.Adds fits (m >>= f) :=
  Prolongs.bind h next

/-- Looking at the world adds no entries. -/
theorem get_bind {f : World E H → Bridge E H β} (next : ∀ w, Bridge.Adds fits (f w)) :
    Bridge.Adds fits (get >>= f) :=
  Prolongs.get_bind next

/-- A change of the world outside its transcript adds no entries. -/
theorem modifyGet {f : World E H → α × World E H}
    (transcript : ∀ w, (f w).2.transcript = w.transcript) :
    Bridge.Adds fits (modifyGet f : Bridge E H α) :=
  Prolongs.modifyGet transcript

/-- Noting an entry adds a fitting one if it fits everywhere. -/
theorem record {entry : Entry} (h : ∀ log, fits entry log) :
    Bridge.Adds fits (Bridge.record entry : Bridge E H Unit) :=
  Prolongs.record fun log => ⟨entry, h log, rfl⟩

/-- A success that is just given adds no entries. -/
theorem run_pure (a : α) : Bridge.Adds fits (Pure.pure a : ExceptT ε (Bridge E H) α).run := pure _

/-- A failure that is just raised adds no entries. -/
theorem run_throw (e : ε) : Bridge.Adds fits (throw e : ExceptT ε (Bridge E H) α).run := pure _

/-- A sequence that may fail adds only fitting entries if both parts do. -/
theorem run_bind {m : ExceptT ε (Bridge E H) α} {f : α → ExceptT ε (Bridge E H) β}
    (h : Bridge.Adds fits m.run) (next : ∀ a, Bridge.Adds fits (f a).run) :
    Bridge.Adds fits (m >>= f).run :=
  Prolongs.run_bind h next

/-- What cannot fail adds the same entries in a place where failures are possible. -/
theorem run_lift {m : Bridge E H α} (h : Bridge.Adds fits m) :
    Bridge.Adds fits (ExceptT.lift m : ExceptT ε (Bridge E H) α).run :=
  Prolongs.run_lift h

end Bridge.Adds

/-! ## Operations by what they do to the transcript -/

/-- An entry that is about no native call, be it made, announced or diagnosed. -/
def Entry.IsComment : Entry → Prop
  | .called .. | .began .. | .reported (.nativeCall _) | .reported (.callFailed ..) => False
  | _ => True

/-- A call by which a function that the engine has called learns what it was called with, or gives
its result. -/
def Native.Call.servesFunction : Call → Bool
  | .userData .. | .valueType .. | .valueInt64 .. | .valueDouble .. | .valueText ..
  | .valueBlob .. | .valueBytes .. | .resultNull .. | .resultText .. | .resultBlob ..
  | .resultDouble .. | .resultInt .. | .resultInt64 .. | .resultError .. => true
  | _ => false

/-- A call that serves no function and is about no column. -/
structure Native.Call.Manages (c : Call) : Prop where
  columnless : c.Columnless
  serves : c.servesFunction = false

/-- The transcript goes on in steps of a kind where a call of some kind is made, where a failure is
diagnosed, and where a comment is noted. -/
structure Bridge.Routes (E : Engine) (H : Host) (P : Call → Prop)
    (step : List Entry → List Entry → Prop) : Prop where
  call {c : Call} (h : P c) : Bridge.Prolongs step (Bridge.call c : Bridge E H c.Answer)
  diagnose (database : Option Database) (symbol : Symbol) (code : Int32) :
    Bridge.Prolongs step (Bridge.diagnose database symbol code : Bridge E H EngineError)
  comment {entry : Entry} (h : entry.IsComment) (log : List Entry) : step log (entry :: log)

namespace Bridge.Routes

section

variable {P : Call → Prop} {step : List Entry → List Entry → Prop} (routes : Routes E H P step)

include routes

/-- What makes steps of all calls of a kind makes steps of fewer calls. -/
theorem mono {Q : Call → Prop} (narrow : ∀ c, Q c → P c) : Routes E H Q step where
  call h := routes.call (narrow _ h)
  diagnose := routes.diagnose
  comment := routes.comment

/-- A comment is a step of its own. -/
theorem record {entry : Entry} (h : entry.IsComment) :
    Prolongs step (Bridge.record entry : Bridge E H Unit) :=
  .record (routes.comment h)

/-- A call of which the answer is taken. -/
theorem run_call {c : Call} (h : P c) :
    Prolongs step (Fallible.lift (Bridge.call c) : Fallible E H c.Answer).run :=
  .run_lift (routes.call h)

/-- A call of which nothing but success is taken. -/
theorem run_checked {c : Call} (h : P c) (database : Option Database) (code : c.Answer → Int32) :
    Prolongs step (Fallible.checked database c code : Fallible E H c.Answer).run := by
  refine .run_bind (routes.run_call h) fun answer => ?_
  split
  · exact .run_pure _
  · exact .run_bind (.run_lift (routes.diagnose _ _ _)) fun _ => .run_throw _

/-- A call that answers with a result code, of which nothing but success is taken. -/
theorem run_succeed {c : Call} (h : P c) (database : Option Database) (code : c.Answer → Int32) :
    Prolongs step (Fallible.succeed database c code : Fallible E H Unit).run :=
  .run_bind (routes.run_checked h database code) fun _ => .run_pure _

/-- Noting what was requested and what came of it is two comments around an operation. -/
theorem run_noted {operation : Fallible E H Unit} (h : Prolongs step operation.run)
    (id : ConnectionId) (change : Change) :
    Prolongs step (Fallible.noted id change operation).run :=
  .run_bind (.run_lift (routes.record trivial)) fun _ => .run_bind (.run_lift h) fun result =>
    .run_bind (.run_lift (routes.record trivial)) fun _ => .run_ofExcept result

/-- The way to a busy handler. -/
theorem acceptBusy (userData : Nat) (attempts : Int32) :
    Prolongs step (Upcall.acceptBusy userData attempts : Bridge E H _) := by
  refine .get_bind fun w => ?_
  split
  · exact .bind (routes.record trivial) fun _ => .pure _
  · exact .pure _

end

variable {step : List Entry → List Entry → Prop} (routes : Routes E H Call.Manages step)

include routes

/-! ### Statements -/

/-- Resetting a statement is a call and what is diagnosed of it. -/
theorem reset (stmt : Statement) : Prolongs step (stmt.reset : Bridge E H _) := by
  unfold Statement.reset
  split
  · exact .pure _
  · exact .bind (routes.run_succeed ⟨rfl, rfl⟩ _ _) fun _ => .pure _

/-- Finalizing a statement is a remark, a call and what is diagnosed of it. -/
theorem finalize (stmt : Statement) : Prolongs step (stmt.finalize : Bridge E H _) := by
  unfold Statement.finalize
  split
  · exact .pure _
  · exact .bind (routes.record trivial) fun _ =>
      .bind (routes.run_succeed ⟨rfl, rfl⟩ _ _) fun _ => .pure _

/-- A statement that goes out of use is finalized, with a remark if that fails. -/
theorem dropStatement (stmt : Statement) : Prolongs step (stmt.drop : Bridge E H Unit) := by
  unfold Statement.drop
  split
  · refine .bind (routes.finalize stmt) fun r => ?_
    split
    · exact .pure _
    · exact routes.record trivial
  · exact .pure _

/-! ### Closing connections -/

section

variable {dispose : List (Registration H) → Bridge E H Unit}

/-- Closing is a call, then the disposal of what was registered, then a remark. -/
theorem closeWith (disposes : ∀ regs, Prolongs step (dispose regs)) (conn : Connection) :
    Prolongs step (conn.closeWith dispose) := by
  unfold Connection.closeWith
  cases conn.database with
  | error e => exact .pure _
  | ok d =>
    refine .bind (routes.call ⟨rfl, rfl⟩) fun code => ?_
    have disarmed : Prolongs step (Bridge.disarm conn.id : Bridge E H Unit) :=
      .modifyGet fun _ => rfl
    split
    · refine disarmed.bind fun _ => .bind (.modifyGet fun _ => rfl) fun released => ?_
      exact .bind (disposes released) fun _ => .bind (routes.record trivial) fun _ => .pure _
    · exact .bind (routes.diagnose _ _ _) fun _ => .pure _

/-- A connection that goes out of use is closed if it is open, with a remark if that fails. -/
theorem dropWith (disposes : ∀ regs, Prolongs step (dispose regs)) (conn : Connection) :
    Prolongs step (conn.dropWith dispose) := by
  unfold Connection.dropWith
  split
  · refine .bind (routes.closeWith disposes conn) fun r => ?_
    split
    · exact .pure _
    · exact routes.record trivial
  · exact .pure _

end

/-- Closures go, as deep as it goes. -/
theorem disposeTo (depth : Nat) (regs : List (Registration H)) :
    Prolongs step (Bridge.disposeTo depth regs : Bridge E H Unit) := by
  induction depth generalizing regs with
  | zero => exact .pure _
  | succ depth ih =>
    unfold Bridge.disposeTo
    refine .forM (fun r => ?_) regs
    cases r.owned with
    | none => exact .pure _
    | some conn => exact routes.dropWith ih conn

/-- Disposing of registrations goes on with the transcript: what they own is closed. -/
theorem dispose (regs : List (Registration H)) :
    Prolongs step (Bridge.dispose regs : Bridge E H Unit) :=
  .get_bind fun _ => routes.disposeTo _ regs

/-- Taking a registration out disposes of it. -/
theorem release (key : FunctionKey) : Prolongs step (Bridge.release key : Bridge E H Unit) :=
  .bind (.modifyGet fun _ => rfl) fun removed => routes.dispose removed.toList

/-- A new registration disposes of the one that it replaces, with a remark. -/
theorem register (key : FunctionKey) (r : Registration H) :
    Prolongs step (Bridge.register key r : Bridge E H Unit) := by
  refine .bind (.modifyGet fun _ => rfl) fun replaced => ?_
  cases replaced with
  | none => exact .pure _
  | some other => exact .bind (routes.record trivial) fun _ => routes.dispose [other]

/-- Closing a connection goes on with the transcript. -/
theorem close (conn : Connection) : Prolongs step (conn.close : Bridge E H _) :=
  routes.closeWith routes.dispose conn

/-- A connection that goes out of use goes on with the transcript. -/
theorem dropConnection (conn : Connection) : Prolongs step (conn.drop : Bridge E H Unit) :=
  routes.dropWith routes.dispose conn

/-! ### Opening connections -/

/-- Asking the engine for a database is one call, then perhaps a diagnosis. -/
theorem openDatabase (file : CString) (flags : OpenFlags) (vfs : Option CString) :
    Prolongs step (Connection.openDatabase file flags vfs : Fallible E H Database).run := by
  refine .run_bind (routes.run_call ⟨rfl, rfl⟩) fun answer => ?_
  split
  · split
    · exact .run_pure _
    · exact .run_throw _
  · refine .run_bind (.run_lift (routes.diagnose _ _ _)) fun e => ?_
    split
    · exact .run_throw _
    · exact .run_bind (routes.run_call ⟨rfl, rfl⟩) fun _ => .run_throw _

/-- Setting the timeout of options is one call, then perhaps a diagnosis. -/
theorem applyTimeout (database : Database) (ms : UInt32) :
    Prolongs step (Connection.applyTimeout database ms : Fallible E H Unit).run := by
  unfold Connection.applyTimeout
  rw [ExceptT.run_tryCatch]
  refine .bind (routes.run_succeed ⟨rfl, rfl⟩ _ _) fun r => ?_
  cases r with
  | ok => exact .pure _
  | error e => exact .run_bind (routes.run_call ⟨rfl, rfl⟩) fun _ => .run_throw _

/-- Opening a database with its options cleans up by one more call if it fails. -/
theorem acquire (conn : Connection) (path : String) (options : OpenOptions) :
    Prolongs step (conn.acquire path options : Fallible E H Database).run := by
  unfold Connection.acquire
  split
  · exact .run_throw _
  · exact .run_throw _
  · refine .run_bind (.run_ofExcept _) fun strings => ?_
    refine .run_bind (routes.openDatabase _ _ _) fun d => ?_
    split
    · exact .run_pure _
    · exact .run_bind (routes.applyTimeout _ _) fun _ => .run_pure _

/-- Opening a connection goes on with the transcript, whether it succeeds or not. -/
theorem openWith (conn : Connection) (path : String) (options : OpenOptions) :
    Prolongs step (conn.openWith path options : Bridge E H _) := by
  refine .bind (routes.acquire conn path options) fun r => ?_
  cases r with
  | error e => exact .pure _
  | ok d =>
    exact .bind (.modifyGet fun _ => rfl) fun _ => .bind (routes.record trivial) fun _ => .pure _

omit routes in
/-- A new connection is not noticed. -/
theorem create : Prolongs step (Connection.create : Bridge E H Connection) :=
  .bind (.modifyGet fun _ => rfl) fun _ => .pure _

/-- Creating a connection and opening it goes on with the transcript. -/
theorem connectWith (path : String) (options : OpenOptions) :
    Prolongs step (Connection.connectWith path options : Fallible E H Connection).run := by
  refine .run_bind (.run_lift create) fun conn => ?_
  refine .run_bind (.run_lift (routes.openWith conn path options)) ?_
  rintro ⟨result, other⟩
  cases result with
  | ok => exact .run_pure _
  | error => exact .run_bind (.run_lift (routes.dropConnection other)) fun _ => .run_throw _

/-! ### Callbacks -/

/-- Setting a timeout goes on with the transcript. -/
theorem busyTimeout (conn : Connection) (ms : UInt32) :
    Prolongs step (conn.busyTimeout ms : Fallible E H Unit).run := by
  refine routes.run_noted (.run_bind (.run_ofExcept _) fun d => ?_) _ _
  exact .run_bind (routes.run_succeed ⟨rfl, rfl⟩ _ _) fun _ => .run_lift (routes.release _)

/-- Taking the busy handler away goes on with the transcript. -/
theorem clearBusyHandler (conn : Connection) :
    Prolongs step (conn.clearBusyHandler : Fallible E H Unit).run := by
  refine routes.run_noted (.run_bind (.run_ofExcept _) fun d => ?_) _ _
  exact .run_bind (routes.run_succeed ⟨rfl, rfl⟩ _ _) fun _ => .run_lift (routes.release _)

/-- Registering a busy handler goes on with the transcript, whether the engine agrees or not. -/
theorem registerBusyHandler (conn : Connection) (handler : Closure H.Handler) :
    Prolongs step (conn.registerBusyHandler handler : Fallible E H Unit).run := by
  refine routes.run_noted ?_ _ _
  unfold Connection.installBusyHandler
  cases conn.database with
  | error e => exact .run_bind (.run_lift (routes.dispose _)) fun _ => .run_throw _
  | ok d =>
    refine .run_bind (.run_lift (routes.register _ _)) fun _ => ?_
    exact .run_tryCatch_throw (routes.run_succeed ⟨rfl, rfl⟩ _ _) fun _ => routes.release _

/-- Registering a function goes on with the transcript, whether the engine agrees or not. -/
theorem registerFunction (conn : Connection) (name : String) (arity : Int32)
    (flags : FunctionFlags) (function : Closure H.Function) :
    Prolongs step (conn.registerFunction name arity flags function : Fallible E H Unit).run := by
  have announced : Prolongs step
      (conn.announceFunction name arity flags : Fallible E H Unit).run :=
    .run_bind (.run_ofExcept _) fun _ => .run_bind (.run_ofExcept _) fun _ =>
      routes.run_succeed ⟨rfl, rfl⟩ _ _
  refine routes.run_noted (.run_bind ?_ fun _ => .run_lift (routes.register _ _)) _ _
  exact .run_tryCatch_throw announced fun _ => routes.dispose _

/-- Removing a function goes on with the transcript. -/
theorem removeFunction (conn : Connection) (name : String) (arity : Int32) :
    Prolongs step (conn.removeFunction name arity : Fallible E H Unit).run := by
  refine routes.run_noted (.run_bind (.run_ofExcept _) fun d => ?_) _ _
  refine .run_bind (.run_ofExcept _) fun text => ?_
  exact .run_bind (routes.run_succeed ⟨rfl, rfl⟩ _ _) fun _ => .run_lift (routes.release _)

/-! ### Questions and settings -/

/-- Preparing a statement goes on with the transcript. -/
theorem prepare (conn : Connection) (sql : String) :
    Prolongs step (conn.prepare sql : Fallible E H Statement).run := by
  unfold Connection.prepare
  refine .run_bind (.run_ofExcept _) fun d => .run_bind (.run_ofExcept _) fun text => ?_
  refine .run_bind (.run_ofExcept _) fun size => ?_
  refine .run_bind (routes.run_checked ⟨rfl, rfl⟩ _ _) fun answer => ?_
  split
  · exact .run_throw _
  · next p _ =>
    have told : Prolongs step (Fallible.lift (Bridge.report (.prepared conn.id
        (Connection.divide sql answer.tail).1)) : Fallible E H Unit).run :=
      .run_lift (routes.record trivial)
    dsimp only
    split
    · exact .run_bind (.run_lift (routes.record trivial)) fun _ =>
        .run_bind told fun _ => .run_pure _
    · exact .run_bind told fun _ => .run_pure _

/-- Interrupting is one call, if there is an object to interrupt. -/
theorem interrupt (id : ConnectionId) :
    Prolongs step (Connection.interrupt id : Bridge E H Unit) := by
  refine .get_bind fun w => ?_
  split
  · exact .pure _
  · exact routes.call ⟨rfl, rfl⟩

/-- Asking for the latest message is one call. -/
theorem errmsg (conn : Connection) : Prolongs step (conn.errmsg : Fallible E H String).run :=
  .run_bind (.run_ofExcept _) fun _ => .run_bind (routes.run_call ⟨rfl, rfl⟩) fun _ =>
    .run_requiredString _

/-- Asking for the number of changes is one call. -/
theorem changes (conn : Connection) : Prolongs step (conn.changes : Fallible E H Int32).run :=
  .run_bind (.run_ofExcept _) fun _ => routes.run_call ⟨rfl, rfl⟩

/-- Asking for the number of all changes is one call. -/
theorem totalChanges (conn : Connection) :
    Prolongs step (conn.totalChanges : Fallible E H Int32).run :=
  .run_bind (.run_ofExcept _) fun _ => routes.run_call ⟨rfl, rfl⟩

/-- Asking for a limit, or setting it, is one call. -/
theorem limit (conn : Connection) (limit : Limit) (value : Int32) :
    Prolongs step (conn.limit limit value : Fallible E H Int32).run :=
  .run_bind (.run_ofExcept _) fun _ => routes.run_call ⟨rfl, rfl⟩

/-- Switching extensions on or off goes on with the transcript. -/
theorem enableLoadExtension (conn : Connection) (on : Bool) :
    Prolongs step (conn.enableLoadExtension on : Fallible E H Unit).run :=
  .run_bind (.run_ofExcept _) fun _ => routes.run_succeed ⟨rfl, rfl⟩ _ _

/-- Asking for the version is one call. -/
theorem version : Prolongs step (Library.version : Fallible E H String).run :=
  .run_bind (routes.run_call ⟨rfl, rfl⟩) fun _ => .run_requiredString _

/-- Switching the shared cache on or off goes on with the transcript. -/
theorem enableSharedCache (on : Bool) :
    Prolongs step (Library.enableSharedCache on : Fallible E H Unit).run :=
  routes.run_succeed ⟨rfl, rfl⟩ _ _

end Bridge.Routes

/-! ## Operations that look at no column -/

/-- The column that an entry is about, with the object of its statement. -/
def Entry.column? : Entry → Option (Program × Int32)
  | .called c _ => c.column?
  | _ => none

/-- An entry about no column fits anything that happened before. -/
abbrev Columnless (entry : Entry) (_ : List Entry) : Prop := entry.column? = none

/-- What is asked without a call about a column. -/
theorem Bridge.Adds.of_asks {m : Bridge E H α} (h : Asks Call.Columnless m) :
    Bridge.Adds Columnless m := by
  refine fun w => (h w).adds (fun entry aside _ => ?_) fun c columnless _ _ => columnless
  cases entry with
  | called => exact aside.elim
  | _ => rfl

/-- Questions about a connection are about no column of a statement. -/
theorem Bridge.Adds.of_within {m : Bridge E H α} {database : Option Database}
    (h : Asks (Call.Within database none) m) : Bridge.Adds Columnless m :=
  .of_asks (h.mono fun _ within => within.columnless)

/-- A diagnosis is about no column of a statement. -/
theorem Bridge.adds_diagnose (database : Option Database) (symbol : Symbol) (code : Int32) :
    Bridge.Adds Columnless (diagnose database symbol code : Bridge E H EngineError) :=
  .of_asks (.diagnose (fun _ _ => rfl) fun _ => rfl)

/-- All operations but questions to a statement look at no column. -/
theorem Bridge.routes_columnless : Bridge.Routes E H Call.Manages (Appends Columnless) where
  call h := Bridge.Adds.of_asks (.call h.columnless)
  diagnose := Bridge.adds_diagnose
  comment {entry} h log := by
    refine ⟨entry, ?_, rfl⟩
    cases entry with
    | called => exact h.elim
    | _ => rfl

end EngineBridge
