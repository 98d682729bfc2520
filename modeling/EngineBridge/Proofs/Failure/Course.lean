import EngineBridge.Proofs.Custody.Diagnosing
import EngineBridge.Text.Utf8.Lemmas

/-!
# The course of an operation

What happens while an operation runs, with the failures of native calls that the operation
has to answer for.  A call that fails is diagnosed on the spot, which is the only way for a
failure to enter the list; a call that succeeds leaves no trace there.

Three kinds of failures never reach the caller of an operation.  A connection that goes out of
use may turn out not to be closed, and a statement that goes out of use not to be finalized; this
is diagnosed like any other failure, and then becomes an event.  The third one is a failure to
close an object that was made on the way to a connection which could not be opened.
-/

set_option autoImplicit false

namespace EngineBridge

open Native

variable {E : Engine} {H : Host} {α β ε : Type}

namespace Native

/-- The result code in the answer to a call, if there is one. -/
def Call.resultCode : (c : Call) → c.Answer → Option Int32
  | .openV2 .., answer => some answer.code
  | .prepareV2 .., answer => some answer.code
  | .closeV2 .., code | .reset .., code | .finalize .., code | .clearBindings .., code
  | .bindNull .., code | .bindInt .., code | .bindInt64 .., code | .bindDouble .., code
  | .bindText .., code | .bindBlob .., code | .busyHandler .., code | .busyTimeout .., code
  | .createFunctionV2 .., code | .enableSharedCache .., code
  | .enableLoadExtension .., code => some code
  | _, _ => none

/-- A call has not failed: only one result code is a success. -/
def Call.Succeeds (c : Call) (answer : c.Answer) : Prop :=
  ∀ code, c.resultCode answer = some code → code = NamedCode.ok.value

/-- An execution has not failed: a step comes to a row or to the end. -/
def Execution.Succeeds : Execution → Int32 → Prop
  | .step _, code => code = NamedCode.row.value ∨ code = NamedCode.done.value
  | .exec .., code => code = NamedCode.ok.value

/-- The connection that a failure is diagnosed by: the one the call was made on, or the one
that, by `home`, the statement is of, if there is any. -/
def Operand.Informed (home : Program → Database → Prop) : List Operand → Option Database → Prop
  | .database d :: _, informant => informant = some d
  | .program p :: _, informant => ∃ d, informant = some d ∧ home p d
  | _, informant => informant = none

/-- The connection that a failed call is diagnosed by; an attempt to open one may have made an
object although it failed. -/
def Call.Informed (home : Program → Database → Prop) :
    (c : Call) → c.Answer → Option Database → Prop
  | .openV2 .., answer, informant => informant = answer.database
  | c, _, informant => Operand.Informed home c.operands informant

end Native

/-- A text that can be read is the message of a failure. -/
theorem Bridge.diagnosis_of_readable {code : Int32} {text : CString} {message : String}
    (readable : text.content = Utf8.encode message) :
    Bridge.diagnosis code (some text) = message := by
  have decoded : CString.decode (some text) = .ok (some message) := by
    unfold CString.decode
    dsimp only
    rw [readable, Utf8.decode_encode]
  unfold Bridge.diagnosis
  rw [decoded]

/-- Without a text that can be read, the message of a failure is made from its code. -/
theorem Bridge.diagnosis_of_unreadable {code : Int32} {text : Option CString}
    (unreadable : ∀ s message, text = some s → s.content ≠ Utf8.encode message) :
    Bridge.diagnosis code text = s!"result code {code.toInt}" := by
  cases text with
  | none => rfl
  | some s =>
    cases decoded : Utf8.decode s.content with
    | ok message =>
      have encoded := Utf8.encode_of_decode decoded
      exact absurd encoded.symm (unreadable s message rfl)
    | error position =>
      have refused : CString.decode (some s) = .error (.invalidUtf8 position) := by
        unfold CString.decode
        dsimp only
        rw [decoded]
      unfold Bridge.diagnosis
      rw [refused]

/-- An entry that is about no call and about no failure of the engine. -/
def Entry.IsRemark : Entry → Prop
  | .called .. | .began .. | .ended .. | .handled .. | .invoked .. => False
  | .reported (.callFailed ..) => False
  | .reported (.closeFailed _ cause) | .reported (.finalizeFailed cause) => cause.asEngine = none
  | _ => True

/-- The engine errors among the failures that a computation can end with. -/
def failures (engine : ε → Option EngineError) : Except ε α → List EngineError
  | .ok _ => []
  | .error e => (engine e).toList

/-- An object was made between two worlds, for a connection that was to be opened. -/
def Made (w w' : World E H) (d : Database) : Prop :=
  ∃ path flags vfs answer, answer.database = some d ∧
    .called (.openV2 path flags vfs) answer ∈ w'.since w.transcript.length

/-- What is known when an operation begins: which connections statements are of, and what may go
out of use meanwhile. -/
structure Roster where
  /-- A statement is of the connection with this object. -/
  home : Program → Database → Prop
  /-- A connection may go out of use, so that nobody waits for it to be closed. -/
  leaving : Connection → Prop
  /-- A statement may go out of use, so that nobody waits for it to be finalized. -/
  retiring : Statement → Prop

/-- What happens from one world to another, with the failures to answer for.  What callbacks
do while the engine runs a program is up to them. -/
inductive Course (cb : Callbacks E H) (roll : Roster) :
    List EngineError → World E H → World E H → Prop
  | append {es es' : List EngineError} {w w₁ w₂ : World E H} (before : Course cb roll es w w₁)
      (after : Course cb roll es' w₁ w₂) : Course cb roll (es ++ es') w w₂
  /-- Nothing is said to the engine, and nothing is reported. -/
  | silent {w w' : World E H} (engine : w'.engine = w.engine)
      (transcript : w'.transcript = w.transcript) : Course cb roll [] w w'
  | remark {w : World E H} {entry : Entry} (remark : entry.IsRemark) :
      Course cb roll [] w (w.record entry)
  | succeeded {w : World E H} {c : Call} (succeeds : c.Succeeds (w.answer c)) :
      Course cb roll [] w (w.asked c)
  /-- A call fails: the next one asks for the message, and then the failure is reported. -/
  | failed {w : World E H} {c : Call} {code : Int32} {informant : Option Database}
      (answered : c.resultCode (w.answer c) = some code) (fails : ¬ c.Succeeds (w.answer c))
      (informed : c.Informed roll.home (w.answer c) informant) :
      Course cb roll [(w.asked c).errorOf informant code] w
        ((w.asked c).diagnosed informant c.symbol code)
  | executed {w w₁ : World E H} {x : Execution} {code : Int32}
      (run : (Upcall.execute cb x).run w = (code, w₁)) (succeeds : x.Succeeds code) :
      Course cb roll [] w w₁
  /-- An execution fails: the next call asks for the message, and then the failure is
  reported. -/
  | unexecuted {w w₁ : World E H} {x : Execution} {code : Int32} {informant : Option Database}
      (run : (Upcall.execute cb x).run w = (code, w₁)) (fails : ¬ x.Succeeds code)
      (informed : Operand.Informed roll.home x.operands informant) :
      Course cb roll [w₁.errorOf informant code] w (w₁.diagnosed informant x.symbol code)
  /-- The engine acts of its own accord. -/
  | stimulated {w : World E H} (stimulus : E.Stimulus) :
      Course cb roll [] w ((Upcall.stimulate cb stimulus).run w).2
  /-- A connection that goes out of use cannot be closed: the next call asks for the message, and
  the failure is reported twice, the second time with the number of the connection. -/
  | unclosed {w : World E H} {conn : Connection} {d : Database} {code : Int32}
      (leaving : roll.leaving conn) (database : conn.database = .ok d)
      (answered : w.answer (.closeV2 d) = code) (fails : code ≠ NamedCode.ok.value) :
      Course cb roll [] w (((w.asked (.closeV2 d)).diagnosed (some d) .closeV2 code).record
        (.reported (.closeFailed conn.id (.engine ((w.asked (.closeV2 d)).errorOf (some d) code)))))
  /-- A statement that goes out of use cannot be finalized: the next call asks for the message,
  and the failure is reported twice. -/
  | unfinalized {w : World E H} {stmt : Statement} {p : Program} {code : Int32}
      (retiring : roll.retiring stmt) (handle : stmt.handle = some p)
      (home : roll.home p stmt.database)
      (answered : w.answer (.finalize p) = code) (fails : code ≠ NamedCode.ok.value) :
      Course cb roll [] w
        (((w.asked (.finalize p)).diagnosed (some stmt.database) .finalize code).record
          (.reported (.finalizeFailed
            (.engine ((w.asked (.finalize p)).errorOf (some stmt.database) code)))))
  /-- A connection cannot be opened, and the object that was made for it is closed, whatever
  that comes to. -/
  | abandoned {es : List EngineError} {w w₁ : World E H} {d : Database}
      (before : Course cb roll es w w₁) (failed : es ≠ []) (made : Made w w₁ d) :
      Course cb roll es w (w₁.called (.closeV2 d))

/-- What is on top of the transcript has happened since. -/
theorem mem_since {w w' : World E H} {entry : Entry} {more : List Entry}
    (grown : w'.transcript = more ++ w.transcript) (h : entry ∈ more) :
    entry ∈ w'.since w.transcript.length := by
  unfold World.since
  rw [grown, List.length_append, Nat.add_sub_cancel, List.take_left, List.mem_reverse]
  exact h

/-- What has happened has happened also if more has happened since. -/
theorem mem_since_of_append {w w' : World E H} {entry : Entry} {length : Nat} {more : List Entry}
    (grown : w'.transcript = more ++ w.transcript) (h : entry ∈ w.since length) :
    entry ∈ w'.since length := by
  unfold World.since at h ⊢
  rw [List.mem_reverse] at h ⊢
  by_cases earlier : length ≤ w.transcript.length
  · have total : w'.transcript.length - length =
        more.length + (w.transcript.length - length) := by
      rw [grown, List.length_append]
      omega
    rw [total, grown, List.take_length_add_append]
    exact List.mem_append_right _ h
  · have none : w.transcript.length - length = 0 := by omega
    rw [none, List.take_zero] at h
    cases h

/-- A diagnosis adds to the transcript. -/
theorem exists_diagnosed_transcript (w : World E H) (informant : Option Database)
    (symbol : Symbol) (code : Int32) :
    ∃ more, (w.diagnosed informant symbol code).transcript = more ++ w.transcript := by
  cases informant <;> exact ⟨[_, _], rfl⟩

/-- An object that was made has been made also if more has happened since. -/
theorem Made.grown {w w₁ w₂ : World E H} {d : Database} (h : Made w w₁ d)
    (grown : ∃ more, w₂.transcript = more ++ w₁.transcript) : Made w w₂ d := by
  obtain ⟨path, flags, vfs, answer, made, hmem⟩ := h
  obtain ⟨more, grown⟩ := grown
  exact ⟨path, flags, vfs, answer, made, mem_since_of_append grown hmem⟩

/-- The object in the answer to an attempt to open a database has been made. -/
theorem made_called {w : World E H} {path : CString} {flags : Int32} {vfs : Option CString}
    {d : Database}
    (h : ((w.announced (.openV2 path flags vfs)).answer (.openV2 path flags vfs)).database =
      some d) : Made w (w.called (.openV2 path flags vfs)) d := by
  have grown : (w.called (.openV2 path flags vfs)).transcript = [_, _] ++ w.transcript := rfl
  exact ⟨path, flags, vfs, _, h, mem_since grown List.mem_cons_self⟩

namespace Course

variable {cb : Callbacks E H} {roll : Roster} {es : List EngineError}
  {w w₁ w₂ : World E H}

/-- Nothing to answer for comes before something else. -/
theorem andThen (before : Course cb roll [] w w₁) (after : Course cb roll es w₁ w₂) :
    Course cb roll es w w₂ :=
  append before after

/-- Nothing to answer for comes after something else. -/
theorem followed (before : Course cb roll es w w₁) (after : Course cb roll [] w₁ w₂) :
    Course cb roll es w w₂ := by
  have both := append before after
  rw [List.append_nil] at both
  exact both

/-- Nothing has failed where nothing has happened. -/
theorem refl (w : World E H) : Course cb roll [] w w := silent rfl rfl

/-- A call is announced, made and answered. -/
theorem called {c : Call} (succeeds : c.Succeeds ((w.announced c).answer c)) :
    Course cb roll [] w (w.called c) := by
  have announced : Course cb roll [] w (w.announced c) := remark trivial
  exact announced.andThen (succeeded succeeds)

/-- A call is announced, made and answered with a result code that is no success. -/
theorem refused (c : Call) (informant : Option Database) {code : Int32}
    (answered : c.resultCode ((w.announced c).answer c) = some code) (fails : code ≠ 0)
    (informed : c.Informed roll.home ((w.announced c).answer c) informant) :
    Course cb roll [(w.called c).errorOf informant code] w
      ((w.called c).diagnosed informant c.symbol code) := by
  have announced : Course cb roll [] w (w.announced c) := remark trivial
  exact announced.andThen (failed answered (fun succeeds => fails (succeeds _ answered)) informed)

end Course

/-- A computation answers for its failures: the engine errors that it ends with are those of
the calls that failed. -/
def Accounts (cb : Callbacks E H) (roll : Roster) (m : Bridge E H α)
    (w : World E H) (errors : α → List EngineError) : Prop :=
  Course cb roll (errors (m w).1) w (m w).2

namespace Accounts

variable {cb : Callbacks E H} {roll : Roster} {w : World E H}
  {errors : α → List EngineError} {engine : ε → Option EngineError}

/-- A value that is just given accounts for no failure, and tells of none. -/
theorem pure {a : α} (h : errors a = []) :
    Accounts cb roll (Pure.pure a : Bridge E H α) w errors := by
  show Course cb roll (errors a) w w
  rw [h]
  exact .refl w

/-- A computation that cannot fail, and another one. -/
theorem bind {m : Bridge E H β} {f : β → Bridge E H α} (h : Accounts cb roll m w fun _ => [])
    (next : ∀ b w', Accounts cb roll (f b) w' errors) : Accounts cb roll (m >>= f) w errors :=
  h.andThen (next _ _)

/-- Something that cannot fail comes after a computation. -/
theorem bind_pure {m : Bridge E H β} {f : β → Bridge E H α} {first : β → List EngineError}
    (h : Accounts cb roll m w first)
    (next : ∀ b w', Accounts cb roll (f b) w' (fun _ => []) ∧ errors (f b w').1 = first b) :
    Accounts cb roll (m >>= f) w errors := by
  obtain ⟨after, heq⟩ := next (m w).1 (m w).2
  show Course cb roll (errors (f (m w).1 (m w).2).1) w _
  rw [heq]
  exact h.followed after

/-- Looking at the world is no failure. -/
theorem get_bind {f : World E H → Bridge E H α} (next : Accounts cb roll (f w) w errors) :
    Accounts cb roll (get >>= f) w errors :=
  next

/-- A remark is no failure. -/
theorem record {entry : Entry} (remark : entry.IsRemark) :
    Accounts cb roll (Bridge.record entry : Bridge E H Unit) w fun _ => [] :=
  Course.remark remark

/-- A change that the engine does not hear of. -/
theorem modifyGet {f : World E H → α × World E H} (engine : (f w).2.engine = w.engine)
    (transcript : (f w).2.transcript = w.transcript) :
    Accounts cb roll (MonadStateOf.modifyGet f : Bridge E H α) w fun _ => [] :=
  Course.silent engine transcript

/-- A call of which the answer has no result code. -/
theorem call {c : Call} (silent : ∀ answer, c.resultCode answer = none) :
    Accounts cb roll (Bridge.call c : Bridge E H c.Answer) w fun _ => [] := by
  refine Course.called fun code answered => ?_
  rw [silent] at answered
  cases answered

/-- A success tells of no failure. -/
theorem run_pure (a : α) :
    Accounts cb roll (Pure.pure a : ExceptT ε (Bridge E H) α).run w (failures engine) :=
  pure rfl

/-- A failure that is none of the engine's. -/
theorem run_throw {e : ε} (h : engine e = none) :
    Accounts cb roll (throw e : ExceptT ε (Bridge E H) α).run w (failures engine) :=
  pure (by simp only [failures, h, Option.toList_none])

/-- A computation that can fail, and another one unless it does. -/
theorem run_bind {m : ExceptT ε (Bridge E H) β} {f : β → ExceptT ε (Bridge E H) α}
    (h : Accounts cb roll m.run w (failures engine))
    (next : ∀ b w', m.run.run w = (.ok b, w') → Accounts cb roll (f b).run w' (failures engine)) :
    Accounts cb roll (m >>= f).run w (failures engine) := by
  unfold Accounts at h ⊢
  rw [ExceptT.run_bind]
  cases hm : m.run w with
  | mk r w' =>
    rw [hm] at h
    rw [show (m.run >>= _) w = _ from Bridge.run_bind_of_run hm]
    cases r with
    | error e => exact h
    | ok b => exact h.andThen (next b w' hm)

/-- A computation that cannot fail, and one that can. -/
theorem run_lift_bind {m : Bridge E H β} {f : β → ExceptT ε (Bridge E H) α}
    (h : Accounts cb roll m w fun _ => [])
    (next : ∀ b w', Accounts cb roll (f b).run w' (failures engine)) :
    Accounts cb roll ((ExceptT.lift m : ExceptT ε (Bridge E H) β) >>= f).run w
      (failures engine) := by
  rw [ExceptT.run_bind_lift]
  exact h.bind next

/-- A computation that cannot fail, as one that can. -/
theorem run_lift {m : Bridge E H α} (h : Accounts cb roll m w fun _ => []) :
    Accounts cb roll (ExceptT.lift m : ExceptT ε (Bridge E H) α).run w (failures engine) :=
  h

/-- What follows a conversion that can only fail for reasons of its own. -/
theorem run_ofExcept_bind {γ : Type} {convert : γ → BindError} {r : Except γ β}
    {f : β → Fallible E H α} (own : ∀ e, (convert e).asEngine = none)
    (next : ∀ b, r = .ok b → Accounts cb roll (f b).run w (failures BindError.asEngine)) :
    Accounts cb roll (Fallible.ofExcept convert r >>= f).run w (failures BindError.asEngine) := by
  cases r with
  | error e => exact run_throw (own e)
  | ok b => exact next b rfl

/-- A conversion that can only fail for reasons of its own. -/
theorem run_ofExcept {γ : Type} {convert : γ → BindError} {r : Except γ α}
    (own : ∀ e, (convert e).asEngine = none) :
    Accounts cb roll (Fallible.ofExcept convert r : Fallible E H α).run w
      (failures BindError.asEngine) := by
  cases r with
  | error e => exact run_throw (own e)
  | ok a => exact run_pure a

/-- A string that is missing or no text is no failure of the engine. -/
theorem run_requiredString {symbol : Symbol} {text : Option CString} :
    Accounts cb roll (Fallible.requiredString symbol text : Fallible E H String).run w
      (failures BindError.asEngine) := by
  refine run_bind (run_ofExcept fun _ => rfl) fun text w' _ => ?_
  cases text with
  | none => exact run_throw rfl
  | some s => exact run_pure s

/-- A call of which nothing but success is taken fails with the code in its answer. -/
theorem run_checked {database : Option Database} {c : Call} {code : c.Answer → Int32}
    (answered : ∀ answer, c.resultCode answer = some (code answer))
    (informed : ∀ answer, c.Informed roll.home answer database) :
    Accounts cb roll (Fallible.checked database c code : Fallible E H c.Answer).run w
      (failures BindError.asEngine) := by
  have result := answered ((w.announced c).answer c)
  by_cases done : code ((w.announced c).answer c) = 0
  · have succeeds : c.Succeeds ((w.announced c).answer c) := by
      intro other hother
      obtain rfl := Option.some.inj (result.symm.trans hother)
      exact done
    have run : (Fallible.checked database c code : Fallible E H c.Answer).run.run w = _ :=
      Fallible.checked_run done
    unfold Accounts
    rw [show (Fallible.checked database c code).run w = _ from run]
    exact Course.called succeeds
  · have run : (Fallible.checked database c code : Fallible E H c.Answer).run.run w = _ :=
      Fallible.checked_run_error done
    unfold Accounts
    rw [show (Fallible.checked database c code).run w = _ from run]
    exact Course.refused c database result done (informed _)

/-- A call that answers with a result code, of which nothing but success is taken. -/
theorem run_succeed {database : Option Database} {c : Call} {code : c.Answer → Int32}
    (answered : ∀ answer, c.resultCode answer = some (code answer))
    (informed : ∀ answer, c.Informed roll.home answer database) :
    Accounts cb roll (Fallible.succeed database c code : Fallible E H Unit).run w
      (failures BindError.asEngine) :=
  run_bind (run_checked answered informed) fun _ _ _ => run_pure _

/-- A failure is handed on once something has been cleaned up. -/
theorem run_tryCatch_throw {m : Fallible E H α} {clean : BindError → Bridge E H Unit}
    (h : Accounts cb roll m.run w (failures BindError.asEngine))
    (cleaned : ∀ e w', m.run.run w = (.error e, w') →
      Accounts cb roll (clean e) w' fun _ => []) :
    Accounts cb roll (tryCatch m fun e => do
      Fallible.lift (clean e)
      throw e : Fallible E H α).run w (failures BindError.asEngine) := by
  unfold Accounts at h ⊢
  rw [ExceptT.run_tryCatch]
  cases hm : m.run w with
  | mk r w' =>
    rw [hm] at h
    rw [show (m.run >>= _) w = _ from Bridge.run_bind_of_run hm]
    cases r with
    | error e => exact h.followed (cleaned e w' hm)
    | ok a => exact h

/-- The beginning and the end of a change are noted. -/
theorem run_noted {id : ConnectionId} {change : Change} {operation : Fallible E H Unit}
    (h : Accounts cb roll operation.run (w.record (.requested id change))
      (failures BindError.asEngine)) :
    Accounts cb roll (Fallible.noted id change operation).run w (failures BindError.asEngine) := by
  have requested : Course cb roll [] w (w.record (.requested id change)) := .remark trivial
  unfold Accounts at h ⊢
  cases ho : operation.run (w.record (.requested id change)) with
  | mk r w₁ =>
    rw [ho] at h
    have settled : Course cb roll [] w₁ (w₁.record (.settled id change r)) := .remark trivial
    have all := requested.andThen (h.followed settled)
    have run : (Fallible.noted id change operation).run.run w =
        (r, w₁.record (.settled id change r)) := by
      have noted : (Fallible.lift (Bridge.record (.requested id change)) :
          Fallible E H Unit).run.run w = (.ok (), w.record (.requested id change)) := rfl
      have lifted : (Fallible.lift operation.run).run.run (w.record (.requested id change)) =
        (.ok r, w₁) := Fallible.lift_run_of_run ho
      unfold Fallible.noted
      rw [Fallible.run_bind_of_run noted, Fallible.run_bind_of_run lifted]
      cases r <;> rfl
    rw [show (Fallible.noted id change operation).run w = _ from run]
    exact all

end Accounts

end EngineBridge
