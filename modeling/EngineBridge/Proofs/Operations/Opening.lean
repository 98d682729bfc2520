import EngineBridge.Proofs.Custody.Diagnosing
import EngineBridge.Proofs.Operations.Texts

/-!
# Opening is all or nothing

An attempt to open a connection goes one of seven ways (`Attempt`), and in each of them what
the engine is told is a list of calls that can be written down.  Five of them are failures.  They
leave nothing behind: the object that the engine has made, if it has made one, is closed by the
last call, and the connection and the world are as they were, except for the engine itself and
for the transcript.

An attempt sees nothing of the world but the engine (`Framed`).  So an attempt that comes after
others that have failed goes as it would have gone without them.
-/

set_option autoImplicit false

namespace EngineBridge

open Native Relation

variable {E : Engine} {H : Host}

/-! ## Computations that see nothing but the engine -/

/-- A computation depends on nothing but the engine, and changes nothing else, but for the
entries that it adds to the transcript. -/
def Framed {α : Type} (m : Bridge E H α) : Prop :=
  ∀ s : E.State, ∃ a s' entries, ∀ w : World E H, w.engine = s →
    m.run w = (a, { w with engine := s', transcript := entries ++ w.transcript })

namespace Framed

variable {α β ε : Type}

/-- A value that is just given changes nothing. -/
theorem pure (a : α) : Framed (Pure.pure a : Bridge E H α) := by
  refine fun s => ⟨a, s, [], fun w hw => ?_⟩
  subst hw
  rfl

/-- A sequence changes only engine and transcript if its parts do. -/
theorem bind {m : Bridge E H α} {f : α → Bridge E H β} (h : Framed m) (next : ∀ a, Framed (f a)) :
    Framed (m >>= f) := by
  intro s
  obtain ⟨a, s₁, earlier, first⟩ := h s
  obtain ⟨b, s₂, later, second⟩ := next a s₁
  refine ⟨b, s₂, later ++ earlier, fun w hw => ?_⟩
  rw [Bridge.run_bind_of_run (first w hw), second _ rfl, List.append_assoc]

/-- An event goes to the transcript only. -/
theorem report (event : Event) : Framed (Bridge.report event : Bridge E H Unit) := by
  refine fun s => ⟨(), s, [.reported event], fun w hw => ?_⟩
  subst hw
  rfl

/-- A call changes only the engine, and is in the transcript. -/
theorem ask (c : Call) : Framed (Bridge.ask c : Bridge E H c.Answer) := by
  refine fun s => ⟨(E.answer s c).1, (E.answer s c).2, [.called c (E.answer s c).1], fun w hw => ?_⟩
  subst hw
  rfl

/-- A call that is announced changes only the engine, and is in the transcript. -/
theorem call (c : Call) : Framed (Bridge.call c : Bridge E H c.Answer) :=
  (report _).bind fun _ => ask c

/-- A sequence that can fail changes only engine and transcript if its parts do. -/
theorem run_bind {m : ExceptT ε (Bridge E H) α} {f : α → ExceptT ε (Bridge E H) β}
    (h : Framed m.run) (next : ∀ a, Framed (f a).run) : Framed (m >>= f).run := by
  rw [ExceptT.run_bind]
  refine h.bind ?_
  rintro (e | a)
  · exact pure _
  · exact next a

/-- What cannot fail may come where failures are possible. -/
theorem run_lift {m : Bridge E H α} (h : Framed m) : Framed (Fallible.lift m).run :=
  h.bind fun _ => pure _

/-- A diagnosis changes only engine and transcript. -/
theorem diagnose (database : Option Database) (symbol : Symbol) (code : Int32) :
    Framed (Bridge.diagnose database symbol code : Bridge E H EngineError) := by
  cases database with
  | none => exact (ask _).bind fun _ => (report _).bind fun _ => pure _
  | some d => exact (ask _).bind fun _ => (report _).bind fun _ => pure _

/-- A call that has to succeed changes only engine and transcript. -/
theorem run_succeed (database : Option Database) (c : Call) (code : c.Answer → Int32) :
    Framed (Fallible.succeed database c code : Fallible E H Unit).run := by
  have checked : Framed (Fallible.checked database c code : Fallible E H c.Answer).run := by
    refine run_bind (run_lift (call c)) fun answer => ?_
    split
    · exact pure _
    · exact run_bind (run_lift (diagnose _ _ _)) fun _ => pure _
  exact run_bind checked fun _ => pure _

end Framed

/-- What comes after a failure does not happen. -/
theorem Fallible.run_bind_of_error {α β : Type} {m : Fallible E H α} {f : α → Fallible E H β}
    {w v : World E H} {e : BindError} (h : m.run.run w = (.error e, v)) :
    (m >>= f).run.run w = (.error e, v) := by
  rw [ExceptT.run_bind]
  exact Bridge.run_bind_of_run h

namespace Connection

variable {conn : Connection} {path : String} {options : OpenOptions} {w v : World E H}

/-- Acquiring a database changes only engine and transcript, also when it fails. -/
theorem framed_acquire (conn : Connection) (path : String) (options : OpenOptions) :
    Framed (conn.acquire path options : Fallible E H Database).run := by
  have opened (file : CString) (vfs : Option CString) :
      Framed (openDatabase file options.flags vfs : Fallible E H Database).run := by
    refine .run_bind (.run_lift (.call _)) fun answer => ?_
    split
    · split
      · exact .pure _
      · exact .pure _
    · refine .run_bind (.run_lift (.diagnose _ _ _)) fun e => ?_
      split
      · exact .pure _
      · exact .run_bind (.run_lift (.call _)) fun _ => .pure _
  have limited (d : Database) (ms : UInt32) :
      Framed (applyTimeout d ms : Fallible E H Unit).run := by
    unfold applyTimeout
    rw [ExceptT.run_tryCatch]
    refine .bind (.run_succeed _ _ _) fun r => ?_
    cases r with
    | ok => exact .pure _
    | error e => exact .run_bind (.run_lift (.call _)) fun _ => .pure _
  unfold acquire
  split
  · exact .pure _
  · exact .pure _
  · refine .run_bind ?_ fun strings => ?_
    · cases openStrings path options <;> exact .pure _
    · refine .run_bind (opened _ _) fun d => ?_
      split
      · exact .pure _
      · exact .run_bind (limited _ _) fun _ => .pure _

/-! ## The ways in which an attempt can go -/

/-- The call that opens a database. -/
def request (path : String) (options : OpenOptions) : Call :=
  .openV2 (.terminated path) options.flags.bits (options.vfs.map .terminated)

/-- The texts that go with a request to open hold no zero octet. -/
def Presentable (path : String) (options : OpenOptions) : Prop :=
  NulFree path ∧ ∀ vfs ∈ options.vfs, NulFree vfs

/-- An attempt to open a connection: what comes of it, and the calls that it takes, in order and
with their answers. -/
inductive Attempt (w : World E H) (path : String) (options : OpenOptions) :
    Except BindError Database → List Entry → Prop
  /-- A text holds a zero octet. -/
  | nul {position : Nat} (nul : Operation.NulAt (H := H) (.openWith path options) position) :
    Attempt w path options (.error (.ofCodec (.interiorNul position))) []
  /-- The engine reports success, but has made no object. -/
  | null (presentable : Presentable path options)
    (answer : w.answer (request path options) = ⟨0, none⟩) :
    Attempt w path options (.error (.infrastructure (.nullReturn .openV2)))
      [.called (request path options) ⟨0, none⟩]
  /-- The engine fails and has made no object. -/
  | unmade {code : Int32} {text : Option CString} (presentable : Presentable path options)
    (answer : w.answer (request path options) = ⟨code, none⟩) (failed : code ≠ 0) :
    Attempt w path options (.error (.engine ⟨code, Bridge.diagnosis code text⟩))
      [.called (request path options) ⟨code, none⟩, .called (.errstr code) text]
  /-- The engine fails, but has made an object. -/
  | unfit {code closed : Int32} {d : Database} {text : Option CString}
    (presentable : Presentable path options)
    (answer : w.answer (request path options) = ⟨code, some d⟩) (failed : code ≠ 0) :
    Attempt w path options (.error (.engine ⟨code, Bridge.diagnosis code text⟩))
      [.called (request path options) ⟨code, some d⟩, .called (.errmsg d) text,
        .called (.closeV2 d) closed]
  /-- The busy timeout cannot be set. -/
  | untimed {code closed : Int32} {d : Database} {ms : UInt32} {text : Option CString}
    (presentable : Presentable path options)
    (answer : w.answer (request path options) = ⟨0, some d⟩)
    (timeout : options.busyTimeout = some ms)
    (refusal : (w.called (request path options)).answer
      (.busyTimeout d (nativeMilliseconds ms)) = code) (failed : code ≠ 0) :
    Attempt w path options (.error (.engine ⟨code, Bridge.diagnosis code text⟩))
      [.called (request path options) ⟨0, some d⟩,
        .called (.busyTimeout d (nativeMilliseconds ms)) code, .called (.errmsg d) text,
        .called (.closeV2 d) closed]
  /-- There is an object, and no timeout is asked for. -/
  | plain {d : Database} (presentable : Presentable path options)
    (answer : w.answer (request path options) = ⟨0, some d⟩)
    (timeless : options.busyTimeout = none) :
    Attempt w path options (.ok d) [.called (request path options) ⟨0, some d⟩]
  /-- There is an object, and its busy timeout is set. -/
  | timed {d : Database} {ms : UInt32} (presentable : Presentable path options)
    (answer : w.answer (request path options) = ⟨0, some d⟩)
    (timeout : options.busyTimeout = some ms)
    (agreed : (w.called (request path options)).answer
      (.busyTimeout d (nativeMilliseconds ms)) = (0 : Int32)) :
    Attempt w path options (.ok d)
      [.called (request path options) ⟨0, some d⟩,
        .called (.busyTimeout d (nativeMilliseconds ms)) (0 : Int32)]

/-- The calls between two worlds, in order and with their answers. -/
def Tells (w : World E H) (calls : List Entry) (v : World E H) : Prop :=
  ∃ entries, v.transcript = entries ++ w.transcript ∧ entries.reverse.filter Entry.isNative = calls

namespace Tells

variable {w₁ : World E H} {calls later : List Entry}

/-- The calls of two stretches are those of the first and then those of the second. -/
theorem trans (h : Tells w calls w₁) (h' : Tells w₁ later v) : Tells w (calls ++ later) v := by
  obtain ⟨entries, grown, rfl⟩ := h
  obtain ⟨more, grown', rfl⟩ := h'
  refine ⟨more ++ entries, by rw [grown', grown, List.append_assoc], ?_⟩
  rw [List.reverse_append, List.filter_append]

/-- A call that is announced is one call. -/
theorem called (w : World E H) (c : Call) : Tells w [.called c (w.answer c)] (w.called c) :=
  ⟨[.called c (w.answer c), .reported (.nativeCall c.symbol)], rfl, rfl⟩

/-- A failure is diagnosed by one call. -/
theorem diagnosed (w : World E H) (database : Option Database) (symbol : Symbol) (code : Int32) :
    ∃ text, w.errorOf database code = ⟨code, Bridge.diagnosis code text⟩ ∧
      Tells w [match database with
        | some d => .called (.errmsg d) text
        | none => .called (.errstr code) text] (w.diagnosed database symbol code) := by
  cases database with
  | none => exact ⟨_, rfl, [.reported _, .called (.errstr code) _], rfl, rfl⟩
  | some d => exact ⟨_, rfl, [.reported _, .called (.errmsg d) _], rfl, rfl⟩

/-- The calls of a stretch are found in what it added to the transcript. -/
theorem since (h : Tells w calls v) :
    (v.since w.transcript.length).filter Entry.isNative = calls := by
  obtain ⟨entries, grown, listed⟩ := h
  rw [World.since_of_append grown, listed]

end Tells

/-- The texts of a request can be handed over if path and file system hold no zero octet. -/
theorem presentable_iff :
    Presentable path options ↔ ∀ text ∈ path :: options.vfs.toList, NulFree text := by
  simp [Presentable]

/-- The engine has answered the call that opens a database. -/
theorem tells_request {answer : Opened} (heard : w.answer (request path options) = answer) :
    Tells w [.called (request path options) answer] (w.called (request path options)) :=
  heard ▸ Tells.called w (request path options)

/-- A text with a zero octet cannot be handed over. -/
theorem not_presentable_of_nul {position : Nat}
    (nul : Operation.NulAt (H := H) (.openWith path options) position) :
    ¬ Presentable path options := by
  obtain ⟨before, text, after, listed, -, first⟩ := nul
  intro presentable
  have mem : text ∈ Operation.texts (H := H) (.openWith path options) := by
    rw [listed]
    exact List.mem_append_right before List.mem_cons_self
  exact presentable_iff.mp presentable text mem (List.mem_of_getElem? first.zero)

/-- What becomes of the answer to the call that opens a database. -/
theorem openDatabase_of_answer {answer : Opened}
    (heard : w.answer (request path options) = answer) :
    (openDatabase (.terminated path) options.flags (options.vfs.map .terminated) :
      Fallible E H Database).run.run w =
      let opened := w.called (request path options)
      let failed := opened.diagnosed answer.database .openV2 answer.code
      if answer.code = 0 then
        match answer.database with
        | some d => (.ok d, opened)
        | none => (.error (.infrastructure (.nullReturn .openV2)), opened)
      else
        (.error (.engine (opened.errorOf answer.database answer.code)),
          match answer.database with
          | some d => failed.called (.closeV2 d)
          | none => failed) := by
  subst heard
  exact openDatabase_run _ _ _ w

/-- An object that has been made is kept, unless its busy timeout is asked for and cannot be
set. -/
theorem attempt_timeout (presentable : Presentable path options) {d : Database}
    (answer : w.answer (request path options) = ⟨0, some d⟩) :
    ∃ outcome calls v,
      (do
        match options.busyTimeout with
        | none => pure ()
        | some ms => applyTimeout d ms
        pure d : Fallible E H Database).run.run (w.called (request path options)) = (outcome, v) ∧
      Attempt w path options outcome calls ∧ Tells w calls v := by
  have made := tells_request answer
  cases timeout : options.busyTimeout with
  | none => exact ⟨_, _, _, rfl, .plain presentable answer timeout, made⟩
  | some ms =>
    have limited := applyTimeout_run d ms (w.called (request path options))
    let c : Call := .busyTimeout d (nativeMilliseconds ms)
    obtain ⟨code, heard⟩ : ∃ code, (w.called (request path options)).answer c = code := ⟨_, rfl⟩
    have heard' : ((w.called (request path options)).announced c).answer c = code := heard
    have asked : Tells w _ ((w.called (request path options)).called c) :=
      made.trans (heard ▸ Tells.called _ c)
    dsimp only at limited ⊢
    rw [heard'] at limited
    by_cases done : code = (0 : Int32)
    · rw [if_pos done] at limited
      refine ⟨_, _, _, Fallible.run_bind_of_run limited,
        .timed presentable answer timeout (heard.trans done), ?_⟩
      exact done ▸ asked
    · rw [if_neg done] at limited
      obtain ⟨text, failure, diagnosed⟩ :=
        Tells.diagnosed ((w.called (request path options)).called c) (some d) .busyTimeout code
      rw [failure] at limited
      exact ⟨_, _, _, Fallible.run_bind_of_error limited, .untimed presentable answer timeout heard done,
        (asked.trans diagnosed).trans (.called _ (.closeV2 d))⟩

/-- Every attempt to acquire an object goes in one of these ways. -/
theorem attempt_acquire (w : World E H) (unopened : conn.state = .unopened) (path : String)
    (options : OpenOptions) :
    ∃ outcome calls v, (conn.acquire path options).run.run w = (outcome, v) ∧
      Attempt w path options outcome calls ∧ Tells w calls v := by
  by_cases presentable : Presentable path options
  · rw [acquire_of_nulFree unopened (presentable_iff.mp presentable)]
    obtain ⟨⟨code, database⟩, answer⟩ : ∃ answer, w.answer (request path options) = answer :=
      ⟨_, rfl⟩
    have made := tells_request answer
    have opened := openDatabase_of_answer answer
    dsimp only at opened
    by_cases done : code = 0
    · rw [if_pos done] at opened
      subst done
      cases database with
      | none => exact ⟨_, _, _, Fallible.run_bind_of_error opened, .null presentable answer, made⟩
      | some d =>
        rw [Fallible.run_bind_of_run opened]
        exact attempt_timeout presentable answer
    · rw [if_neg done] at opened
      obtain ⟨text, failure, diagnosed⟩ :=
        Tells.diagnosed (w.called (request path options)) database .openV2 code
      rw [failure] at opened
      cases database with
      | none =>
        exact ⟨_, _, _, Fallible.run_bind_of_error opened, .unmade presentable answer done,
          made.trans diagnosed⟩
      | some d =>
        exact ⟨_, _, _, Fallible.run_bind_of_error opened, .unfit presentable answer done,
          (made.trans diagnosed).trans (.called _ (.closeV2 d))⟩
  · have nul : ∃ position, Operation.NulAt (H := H) (.openWith path options) position := by
      by_contra clean
      have free := Operation.not_nulAt_iff.mp (not_exists.mp clean)
      exact presentable (presentable_iff.mpr free)
    obtain ⟨position, nul⟩ := nul
    have refused := nul
    obtain ⟨before, text, after, listed, free, first⟩ := refused
    exact ⟨_, _, _, acquire_of_firstNul unopened listed free first, .nul nul, [], rfl, rfl⟩

/-- A busy timeout reaches the engine as the number that it is, or as the largest one. -/
theorem toInt_nativeMilliseconds (ms : UInt32) :
    (nativeMilliseconds ms).toInt = min (ms.toNat : Int) 2147483647 := by
  unfold nativeMilliseconds
  split
  · next h =>
    have hle : ms.toNat ≤ 2147483647 := h
    have hint : ms.toInt32.toInt = ms.toNat :=
      BitVec.toInt_eq_toNat_of_lt (x := ms.toBitVec) (by simp only [UInt32.toNat_toBitVec]; omega)
    rw [hint, min_eq_left (by omega)]
  · next h =>
    have hlt : 2147483647 < ms.toNat := Nat.lt_of_not_le h
    rw [min_eq_right (by omega)]
    rfl

/-! ## What a failure leaves behind -/

/-- The object that has been made on the way to a failure is closed by the last call, right
after its message has been asked for, and by no other one.  Nothing is closed if there is no
object. -/
theorem Attempt.closes {e : BindError} {calls : List Entry}
    (h : Attempt w path options (.error e) calls) :
    (∀ d, Presentable path options → (w.answer (request path options)).database = some d →
      ∃ earlier text closed,
        calls = earlier ++ [.called (.errmsg d) text, .called (.closeV2 d) closed] ∧
          ∀ entry ∈ earlier, entry.closes = none) ∧
    ((Presentable path options → (w.answer (request path options)).database = none) →
      ∀ entry ∈ calls, entry.closes = none) := by
  cases h with
  | @nul position nul =>
    exact ⟨fun _ presentable => absurd presentable (not_presentable_of_nul nul), by simp⟩
  | null presentable answer => exact ⟨by simp [answer], by simp [request, Entry.closes]⟩
  | unmade presentable answer => exact ⟨by simp [answer], by simp [request, Entry.closes]⟩
  | @unfit code closed d text presentable answer =>
    rw [answer]
    refine ⟨?_, fun unmade => absurd (unmade presentable) (by simp)⟩
    rintro _ - ⟨⟩
    exact ⟨[_], text, closed, rfl, by simp [request, Entry.closes]⟩
  | @untimed code closed d ms text presentable answer =>
    rw [answer]
    refine ⟨?_, fun unmade => absurd (unmade presentable) (by simp)⟩
    rintro _ - ⟨⟩
    exact ⟨[_, _], text, closed, rfl, by simp [request, Entry.closes]⟩

/-- An attempt to open a connection succeeds if the engine makes an object and, if a timeout is
asked for, sets it, and only then. -/
theorem Attempt.succeeds_iff {outcome : Except BindError Database} {calls : List Entry}
    (h : Attempt w path options outcome calls) :
    (∃ d, outcome = .ok d) ↔ Presentable path options ∧
      ∃ d, w.answer (request path options) = ⟨0, some d⟩ ∧ ∀ ms ∈ options.busyTimeout,
        (w.called (request path options)).answer (.busyTimeout d (nativeMilliseconds ms)) =
          (0 : Int32) := by
  cases h with
  | nul nul =>
    refine ⟨by simp, ?_⟩
    rintro ⟨presentable, -⟩
    exact absurd presentable (not_presentable_of_nul nul)
  | null _ answer | unmade _ answer =>
    refine ⟨by simp, ?_⟩
    rintro ⟨-, d, made, -⟩
    cases answer.symm.trans made
  | unfit _ answer failed =>
    refine ⟨by simp, ?_⟩
    rintro ⟨-, d, made, -⟩
    exact absurd (congrArg Opened.code (answer.symm.trans made)) failed
  | @untimed code closed d ms text _ answer timeout refusal failed =>
    refine ⟨by simp, ?_⟩
    rintro ⟨-, d', made, agreed⟩
    cases answer.symm.trans made
    exact absurd (refusal.symm.trans (agreed ms timeout)) failed
  | plain presentable answer timeless =>
    refine ⟨fun _ => ⟨presentable, _, answer, ?_⟩, fun _ => ⟨_, rfl⟩⟩
    rw [timeless]
    rintro ms ⟨⟩
  | timed presentable answer timeout agreed =>
    refine ⟨fun _ => ⟨presentable, _, answer, ?_⟩, fun _ => ⟨_, rfl⟩⟩
    rw [timeout]
    rintro ms ⟨⟩
    exact agreed

/-- An attempt to open a connection fails. -/
def Fails (conn : Connection) (w v : World E H) : Prop :=
  ∃ path options e after, (conn.openWith path options).run w = ((.error e, after), v)

/-- An attempt that ends with a failure is one that fails. -/
theorem fails_of_not_isOk (failed : ((conn.openWith path options).run w).1.1.isOk = false) :
    Fails conn w ((conn.openWith path options).run w).2 := by
  rcases run : (conn.openWith path options).run w with ⟨⟨r, after⟩, v⟩
  rw [run] at failed
  cases r with
  | error e => exact ⟨path, options, e, after, run⟩
  | ok => cases failed

/-- After attempts that have failed the world is as it was, but for the engine and the
transcript. -/
theorem frame_of_fails (h : ReflTransGen (Fails conn) w v) :
    v = { w with engine := v.engine, transcript := v.transcript } := by
  induction h with
  | refl => rfl
  | @tail u v _ fails ih =>
    obtain ⟨path, options, e, after, run⟩ := fails
    obtain ⟨outcome, s, entries, framed⟩ := framed_acquire (H := H) conn path options u.engine
    unfold openWith at run
    rw [Bridge.run_bind_of_run (framed u rfl)] at run
    cases outcome with
    | error e =>
      cases run
      rw [ih]
    | ok d => cases run

/-- What has happened before makes no difference to an attempt. -/
theorem openWith_framed (conn : Connection) (path : String) (options : OpenOptions)
    (w : World E H) :
    ∃ (result : Except BindError Unit × Connection) (u : World E H) (entries : List Entry),
      ∀ earlier : List Entry, (conn.openWith path options).run { w with transcript := earlier } =
        (result, { u with transcript := entries ++ earlier }) := by
  obtain ⟨outcome, s, entries, framed⟩ := framed_acquire (H := H) conn path options w.engine
  unfold openWith
  cases outcome with
  | error e =>
    refine ⟨(.error e, conn), { w with engine := s }, entries, fun earlier => ?_⟩
    exact Bridge.run_bind_of_run (framed { w with transcript := earlier } rfl)
  | ok d =>
    let opened : Connection := { conn with state := .opened, handle := some d, path := path }
    let armed := (Bridge.arm (E := E) conn.id d { w with engine := s }).2
    refine ⟨(.ok (), opened), armed, .reported (.opened conn.id path) :: entries, fun earlier => ?_⟩
    exact Bridge.run_bind_of_run (framed { w with transcript := earlier } rfl)

end Connection

/-! ## What the engine is told of a busy timeout -/

/-- The busy timeout that the engine is told. -/
def Entry.timeout? : Entry → Option Int
  | .called (.busyTimeout _ ms) _ => some ms.toInt
  | _ => none

/-- The busy timeouts that the engine is told, in order. -/
def timeoutsTold (entries : List Entry) : List Int :=
  entries.filterMap Entry.timeout?

/-- The largest busy timeout that the engine can be told. -/
def maxTimeout : Int := 2147483647

namespace Connection

variable {path : String} {options : OpenOptions} {w : World E H}

/-- The timeouts that the engine is told are found among the calls. -/
theorem timeoutsTold_filter (entries : List Entry) :
    timeoutsTold (entries.filter Entry.isNative) = timeoutsTold entries := by
  rw [timeoutsTold, List.filterMap_filter]
  congr 1
  funext entry
  rcases entry with _ | _ | _ | _ <;> rfl

/-- A request to open reaches the engine, which reports success and makes an object. -/
def Granted (w : World E H) (path : String) (options : OpenOptions) : Prop :=
  Presentable path options ∧ ∃ d, w.answer (request path options) = ⟨0, some d⟩

/-- A request with another answer was not granted. -/
theorem not_granted {answer : Opened} (heard : w.answer (request path options) = answer)
    (other : ∀ d, answer ≠ ⟨0, some d⟩) : ¬Granted w path options := by
  rintro ⟨-, d, granted⟩
  exact other d (heard.symm.trans granted)

/-- An attempt to open a connection tells the engine one busy timeout if the engine has made an
object, and none otherwise. -/
theorem Attempt.timeoutsTold {outcome : Except BindError Database} {calls : List Entry} {ms : UInt32}
    (h : Attempt w path options outcome calls) (timeout : options.busyTimeout = some ms) :
    Granted w path options ∧ EngineBridge.timeoutsTold calls = [min (ms.toNat : Int) maxTimeout] ∨
      ¬Granted w path options ∧ EngineBridge.timeoutsTold calls = [] := by
  have told : min (ms.toNat : Int) maxTimeout = (nativeMilliseconds ms).toInt :=
    (toInt_nativeMilliseconds ms).symm
  cases h with
  | nul nul => exact .inr ⟨fun made => not_presentable_of_nul nul made.1, rfl⟩
  | null presentable answer => exact .inr ⟨not_granted answer (by simp), rfl⟩
  | unmade presentable answer => exact .inr ⟨not_granted answer (by simp), rfl⟩
  | unfit presentable answer failed => exact .inr ⟨not_granted answer (by simp [failed]), rfl⟩
  | untimed presentable answer asked | timed presentable answer asked =>
    obtain rfl := Option.some.inj (timeout.symm.trans asked)
    exact .inl ⟨⟨presentable, _, answer⟩, congrArg (fun n => [n]) told.symm⟩
  | plain presentable answer timeless => simp [timeless] at timeout

/-- What the engine is told when an unopened connection is opened are the calls of the attempt. -/
theorem attempt_openWith (w : World E H) {conn : Connection} (unopened : conn.state = .unopened)
    (path : String) (options : OpenOptions) :
    ∃ outcome calls, Attempt w path options outcome calls ∧
      Tells w calls ((conn.openWith path options).run w).2 := by
  obtain ⟨outcome, calls, v, acquired, attempt, tells⟩ := attempt_acquire w unopened path options
  refine ⟨outcome, calls, attempt, ?_⟩
  unfold openWith
  rw [Bridge.run_bind_of_run acquired]
  cases outcome with
  | error e => exact tells
  | ok d =>
    have noted : Tells v [] ((Bridge.arm conn.id d v).2.record (.reported (.opened conn.id path))) :=
      ⟨[.reported (.opened conn.id path)], rfl, rfl⟩
    have whole := tells.trans noted
    rw [List.append_nil] at whole
    exact whole

/-- A connection that has been opened before is not opened, and the engine is told nothing. -/
theorem openWith_of_begun (w : World E H) {conn : Connection} (begun : conn.state ≠ .unopened)
    (path : String) (options : OpenOptions) : ((conn.openWith path options).run w).2 = w := by
  unfold openWith acquire
  split
  · rfl
  · rfl
  · next unopened => exact absurd unopened begun

/-- The engine is told one busy timeout if an unopened connection is opened and the engine makes an
object, and none otherwise. -/
theorem openWith_timeouts (w : World E H) (conn : Connection) (path : String)
    {options : OpenOptions} {ms : UInt32} (timeout : options.busyTimeout = some ms) :
    let told := timeoutsTold (((conn.openWith path options).run w).2.since w.transcript.length)
    (conn.state = .unopened ∧ Granted w path options) ∧ told = [min (ms.toNat : Int) maxTimeout] ∨
      ¬(conn.state = .unopened ∧ Granted w path options) ∧ told = [] := by
  intro told
  by_cases unopened : conn.state = .unopened
  · obtain ⟨outcome, calls, attempt, tells⟩ := attempt_openWith w unopened path options
    have native : told = timeoutsTold calls := by
      rw [← tells.since, timeoutsTold_filter]
    simpa [unopened, native] using attempt.timeoutsTold timeout
  · have silent : told = [] := by
      simp only [told, openWith_of_begun w unopened, World.since]
      simp [timeoutsTold]
    exact .inr ⟨fun opened => unopened opened.1, silent⟩

end Connection

end EngineBridge
