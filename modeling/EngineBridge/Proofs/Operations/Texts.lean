import EngineBridge.Arena
import EngineBridge.Proofs.Operations.Basic
import EngineBridge.Proofs.Reentry.Operations
import EngineBridge.Text.Utf8.Lemmas
import Mathlib.Data.Nat.Find

/-!
# Texts that are handed to the engine

A text with a zero octet inside does not reach the engine: the operation is declined.  Any
other text is the first thing that the engine gets to see of the operation, octet by octet
and with a zero at its end, so that the engine reads the same text.
-/

set_option autoImplicit false

namespace EngineBridge

open Native

variable {E : Engine} {H : Host}

/-! ## Texts as strings -/

/-- The first zero octet of a text is at this offset. -/
structure FirstNul (text : String) (position : Nat) : Prop where
  zero : (Utf8.encode text)[position]? = some 0
  first : ∀ earlier < position, (Utf8.encode text)[earlier]? ≠ some 0

/-- A text without a zero octet. -/
def NulFree (text : String) : Prop := 0 ∉ Utf8.encode text

/-- A text as a string that ends with a zero octet. -/
def CString.terminated (text : String) : CString := .ofBytes (Utf8.encode text)

/-- A text with zero octets has a first one. -/
theorem exists_firstNul {text : String} (nul : ¬ NulFree text) :
    ∃ position, FirstNul text position := by
  have holds : ∃ position : Nat, (Utf8.encode text)[position]? = some 0 :=
    List.mem_iff_getElem?.mp (not_not.mp nul)
  classical
  exact ⟨Nat.find holds, Nat.find_spec holds, fun _ => Nat.find_min holds⟩

namespace CString

variable {text : String}

/-- A text with a zero octet is refused, with the offset of the first one. -/
theorem ofText_of_firstNul {position : Nat} (nul : FirstNul text position) :
    ofText text = .error (.interiorNul position) := by
  obtain ⟨bound, zero⟩ := List.getElem?_eq_some_iff.mp nul.zero
  have found : (Utf8.encode text).findIdx? (· == 0) = some position := by
    refine List.findIdx?_eq_some_iff_getElem.mpr ⟨bound, by simp [zero], ?_⟩
    intro earlier before
    have nonzero := nul.first earlier before
    rw [List.getElem?_eq_getElem (before.trans bound)] at nonzero
    simpa using nonzero
  unfold ofText
  simp only [found]

/-- A text without zero octets becomes the string of its octets. -/
theorem ofText_of_nulFree (free : NulFree text) : ofText text = .ok (terminated text) := by
  have none : (Utf8.encode text).findIdx? (· == 0) = none := by
    rw [List.findIdx?_eq_none_iff]
    intro octet mem
    have nonzero : octet ≠ 0 := fun zero => free (zero ▸ mem)
    simpa using nonzero
  unfold ofText
  simp only [none]
  rfl

/-- The string of a text without zero octets is read as that text. -/
theorem decode_terminated (free : NulFree text) :
    decode (some (terminated text)) = .ok (some text) := by
  unfold decode
  simp only [content_ofText (ofText_of_nulFree free), Utf8.decode_encode]

end CString

namespace Arena

/-- Texts are copied one after the other, and what was there before stays. -/
theorem allocateTexts_of_nulFree (a : Arena) {texts : List String}
    (free : ∀ text ∈ texts, NulFree text) :
    a.allocateTexts texts =
      (texts.map fun text => .ok (.terminated text),
        ⟨(texts.map fun text => (CString.terminated text).memory).reverse ++ a.blocks⟩) := by
  induction texts generalizing a with
  | nil => rfl
  | cons text rest ih =>
    obtain ⟨clean, others⟩ := List.forall_mem_cons.mp free
    have copied : a.allocateText text =
        (.ok (.terminated text), ⟨(CString.terminated text).memory :: a.blocks⟩) := by
      unfold allocateText
      rw [CString.ofText_of_nulFree clean]
    unfold allocateTexts
    simp only [copied, ih _ others, List.map_cons, List.reverse_cons, List.append_assoc]
    rfl

end Arena

namespace Connection

variable {path : String} {options : OpenOptions} {position : Nat}

/-- The path is looked at before the name of the file system module. -/
theorem openStrings_of_firstNul {before after : List String} {text : String}
    (listed : path :: options.vfs.toList = before ++ text :: after)
    (free : ∀ other ∈ before, NulFree other) (nul : FirstNul text position) :
    openStrings path options = .error (.interiorNul position) := by
  unfold openStrings
  cases before with
  | nil =>
    obtain ⟨rfl, -⟩ := List.cons.inj listed
    rw [CString.ofText_of_firstNul nul]
    rfl
  | cons first before =>
    obtain ⟨rfl, rest⟩ := List.cons.inj listed
    have clean : NulFree path := free path List.mem_cons_self
    rw [CString.ofText_of_nulFree clean]
    cases vfs : options.vfs with
    | none => simp [vfs] at rest
    | some name =>
      obtain ⟨rfl, rfl⟩ : before = [] ∧ text = name := by
        rw [vfs] at rest
        cases before with
        | nil => exact ⟨rfl, (List.cons.inj rest).1.symm⟩
        | cons => simp at rest
      show (do let s ← CString.ofText text; pure (_, some s) :
        Except CodecError (CString × Option CString)) = _
      rw [CString.ofText_of_firstNul nul]
      rfl

/-- The strings of a request to open are its texts, as one arena holds them. -/
theorem openStrings_of_nulFree (free : ∀ text ∈ path :: options.vfs.toList, NulFree text) :
    openStrings path options = .ok (.terminated path, options.vfs.map .terminated) := by
  obtain ⟨clean, others⟩ := List.forall_mem_cons.mp free
  unfold openStrings
  rw [CString.ofText_of_nulFree clean]
  cases vfs : options.vfs with
  | none => rfl
  | some name =>
    have clean' : NulFree name := others name (by simp [vfs])
    show (do let s ← CString.ofText name; pure (_, some s) :
      Except CodecError (CString × Option CString)) = _
    rw [CString.ofText_of_nulFree clean']
    rfl

/-- Nothing is acquired with a text that holds a zero octet. -/
theorem acquire_of_firstNul {conn : Connection} {w : World E H} {before after : List String}
    {text : String} (unopened : conn.state = .unopened)
    (listed : path :: options.vfs.toList = before ++ text :: after)
    (free : ∀ other ∈ before, NulFree other) (nul : FirstNul text position) :
    (conn.acquire path options : Fallible E H Database).run.run w =
      (.error (.ofCodec (.interiorNul position)), w) := by
  unfold acquire
  rw [unopened, openStrings_of_firstNul listed free nul]
  rfl

/-- An object is acquired from the engine's own with the strings of the texts. -/
theorem acquire_of_nulFree {conn : Connection} {w : World E H} (unopened : conn.state = .unopened)
    (free : ∀ text ∈ path :: options.vfs.toList, NulFree text) :
    (conn.acquire path options : Fallible E H Database).run.run w =
      (do
        let database ← openDatabase (.terminated path) options.flags (options.vfs.map .terminated)
        match options.busyTimeout with
        | none => pure ()
        | some ms => applyTimeout database ms
        pure database : Fallible E H Database).run.run w := by
  have strings : (Fallible.ofExcept .ofCodec (openStrings path options) :
      Fallible E H (CString × Option CString)).run.run w =
        (.ok (.terminated path, options.vfs.map .terminated), w) := by
    rw [openStrings_of_nulFree free]
    rfl
  unfold acquire
  rw [unopened]
  refine (Fallible.run_bind_of_run strings).trans ?_
  rfl

end Connection

/-! ## Texts that are refused -/

namespace Connection.Operation

variable {op : Operation H} {conn : Connection} {w : World E H}

/-- The first zero octet in the texts of an operation is at this offset of its text. -/
def NulAt (op : Operation H) (position : Nat) : Prop :=
  ∃ before text after, op.texts = before ++ text :: after ∧ (∀ other ∈ before, NulFree other) ∧
    FirstNul text position

/-- None of the texts of an operation is refused exactly if none holds a zero octet. -/
theorem not_nulAt_iff :
    (∀ position, ¬ op.NulAt position) ↔ ∀ text ∈ op.texts, NulFree text := by
  constructor
  · intro clean
    -- walk along the texts: the first one that is not clean would be refused
    have split (before after : List String) (listed : op.texts = before ++ after)
        (free : ∀ other ∈ before, NulFree other) : ∀ text ∈ after, NulFree text := by
      induction after generalizing before with
      | nil => simp
      | cons text after ih =>
        have next : NulFree text := by
          by_contra nul
          obtain ⟨position, first⟩ := exists_firstNul nul
          exact clean position ⟨before, text, after, listed, free, first⟩
        refine List.forall_mem_cons.mpr ⟨next, ih (before ++ [text]) (by simp [listed]) ?_⟩
        exact List.forall_mem_append.mpr ⟨free, by simpa using next⟩
    exact split [] op.texts rfl (by simp)
  · rintro free position ⟨before, text, after, listed, -, nul⟩
    have mem : text ∈ op.texts := by simp [listed]
    exact free text mem (List.mem_of_getElem? nul.zero)

/-- With an open database, what needs one goes on with it. -/
theorem live_bind_of_database {α : Type} {d : Database} {f : Database → Fallible E H α}
    (database : conn.database = .ok d) :
    (conn.live >>= f).run.run w = (f d).run.run w := by
  unfold live
  rw [database]
  rfl

/-- What is done with the string of a text that is refused is not done. -/
theorem live_ofText_of_firstNul {α : Type} {text : String} {position : Nat}
    {f : Database → CString → Fallible E H α} {d : Database} (database : conn.database = .ok d)
    (nul : FirstNul text position) :
    (do let database ← conn.live
        let s ← Fallible.ofExcept .ofCodec (CString.ofText text)
        f database s : Fallible E H α).run.run w =
      (.error (.ofCodec (.interiorNul position)), w) := by
  rw [live_bind_of_database database, CString.ofText_of_firstNul nul]
  rfl

/-- With an open database and a text without zero octets, an operation goes on with both. -/
theorem live_ofText_of_nulFree {α : Type} {text : String}
    {f : Database → CString → Fallible E H α} {d : Database} (database : conn.database = .ok d)
    (free : NulFree text) :
    (do let database ← conn.live
        let s ← Fallible.ofExcept .ofCodec (CString.ofText text)
        f database s : Fallible E H α).run.run w = (f d (.terminated text)).run.run w := by
  rw [live_bind_of_database database, CString.ofText_of_nulFree free]
  rfl

/-- An operation is declined if a text for the engine holds a zero octet. -/
theorem perform_of_nulAt (cb : Callbacks E H) (allowed : op.Allowed conn) {position : Nat}
    (nul : op.NulAt position) :
    (op.perform cb conn).run w =
      ((.error (.ofCodec (.interiorNul position)), conn),
        op.declined conn (.ofCodec (.interiorNul position)) w) := by
  obtain ⟨before, text, after, listed, free, nul⟩ := nul
  have alone {only : String} (h : [only] = before ++ text :: after) : FirstNul only position := by
    cases before with
    | nil => exact (List.cons.inj h).1 ▸ nul
    | cons => simp at h
  cases op with
  | openWith path options =>
    exact Bridge.run_bind_of_run (acquire_of_firstNul allowed listed free nul)
  | prepare sql | executeBatch sql =>
    obtain ⟨d, database⟩ := allowed
    exact keep_run (live_ofText_of_firstNul database (alone listed))
  | registerFunction name arity flags function =>
    obtain ⟨d, database⟩ := allowed
    exact noted_of_failed rfl fun _ =>
      installFunction_of_failed (live_ofText_of_firstNul database (alone listed))
  | removeFunction name arity =>
    obtain ⟨d, database⟩ := allowed
    exact noted_of_failed rfl fun _ => live_ofText_of_firstNul database (alone listed)
  | _ => simp [texts] at listed

end Connection.Operation

/-! ## What the engine sees first -/

/-- An entry is about a call to the engine, or about an execution that begins. -/
def Entry.isNative : Entry → Bool
  | .called .. | .began .. => true
  | _ => false

namespace World

/-- The transcript has grown. -/
def Grows (w v : World E H) : Prop := ∃ entries, v.transcript = entries ++ w.transcript

/-- What the engine sees first between two worlds. -/
def Opens (w v : World E H) (x : Entry) : Prop :=
  ∃ later earlier, v.transcript = later ++ x :: (earlier ++ w.transcript) ∧
    ∀ entry ∈ earlier, entry.isNative = false

variable {w w₁ w₂ v : World E H} {x : Entry}

/-- A transcript that stays as it is has grown by nothing. -/
theorem Grows.refl (w : World E H) : w.Grows w := ⟨[], rfl⟩

/-- A transcript that has grown twice has grown. -/
theorem Grows.trans (h : w.Grows w₁) (h' : w₁.Grows v) : w.Grows v := by
  obtain ⟨earlier, grown⟩ := h
  obtain ⟨later, grown'⟩ := h'
  exact ⟨later ++ earlier, by rw [grown', grown, List.append_assoc]⟩

/-- A sequence makes the transcript grow if both parts do. -/
theorem Grows.run_bind {α β : Type} {m : Fallible E H α} {f : α → Fallible E H β}
    (h : w.Grows (m.run.run w).2) (next : ∀ a (v : World E H), v.Grows ((f a).run.run v).2) :
    w.Grows ((m >>= f).run.run w).2 := by
  rcases Fallible.run_bind_cases m f w with ⟨e, w₁, run, whole⟩ | ⟨a, w₁, run, whole⟩
  · rw [run] at h
    rwa [whole]
  · rw [run] at h
    rw [whole]
    exact h.trans (next a w₁)

/-- What is accounted for makes the transcript grow. -/
theorem RecountsOn.grows {slots : FunctionKey → Prop} (h : w.RecountsOn slots v) : w.Grows v :=
  h.imp fun _ h => h.1

/-- What the engine saw first it still saw first when more has happened. -/
theorem Opens.grow (h : w.Opens w₁ x) (grows : w₁.Grows v) : w.Opens v x := by
  obtain ⟨later, earlier, grown, unseen⟩ := h
  obtain ⟨more, grown'⟩ := grows
  exact ⟨more ++ later, earlier, by rw [grown', grown, List.append_assoc], unseen⟩

/-- A note is nothing that the engine sees. -/
theorem Opens.after {entry : Entry} (h : (w.record entry).Opens v x)
    (unseen : entry.isNative = false) : w.Opens v x := by
  obtain ⟨later, earlier, grown, others⟩ := h
  refine ⟨later, earlier ++ [entry], by rw [grown]; simp [record], ?_⟩
  exact List.forall_mem_append.mpr ⟨others, by simpa using unseen⟩

/-- What the engine sees first is the first such entry. -/
theorem Opens.since (h : w.Opens v x) (seen : x.isNative) :
    (v.since w.transcript.length).find? Entry.isNative = some x := by
  obtain ⟨later, earlier, grown, unseen⟩ := h
  have listed : v.since w.transcript.length = earlier.reverse ++ x :: later.reverse := by
    have whole : v.transcript = (later ++ x :: earlier) ++ w.transcript := by simp [grown]
    rw [World.since_of_append whole]
    simp
  have skipped : earlier.reverse.find? Entry.isNative = none := by
    rw [List.find?_eq_none]
    intro entry mem
    simp [unseen entry (List.mem_reverse.mp mem)]
  rw [listed, List.find?_append, skipped, Option.none_or, List.find?_cons_of_pos seen]

/-- The world in which an execution has been announced and begun. -/
def beginning (w : World E H) (x : Execution) : World E H :=
  (w.record (.reported (.nativeCall x.symbol))).record (.began x)

/-- A call that is announced is what the engine sees first. -/
theorem opens_called (w : World E H) (c : Call) : w.Opens (w.called c) (.called c (w.answer c)) :=
  ⟨[], [.reported (.nativeCall c.symbol)], rfl, by simp [Entry.isNative]⟩

/-- What comes first stays first, whatever follows. -/
theorem Opens.run_bind {α β : Type} {m : Fallible E H α} {f : α → Fallible E H β}
    (h : w.Opens (m.run.run w).2 x) (grows : ∀ a (v : World E H), v.Grows ((f a).run.run v).2) :
    w.Opens ((m >>= f).run.run w).2 x := by
  rcases Fallible.run_bind_cases m f w with ⟨e, w₁, run, whole⟩ | ⟨a, w₁, run, whole⟩
  · rw [run] at h
    rwa [whole]
  · rw [run] at h
    rw [whole]
    exact h.grow (grows a w₁)

/-- What comes first stays first, however a failure is handled. -/
theorem Opens.run_tryCatch {α : Type} {m : Fallible E H α} {f : BindError → Fallible E H α}
    (h : w.Opens (m.run.run w).2 x) (grows : ∀ e (v : World E H), v.Grows ((f e).run.run v).2) :
    w.Opens ((tryCatch m f).run.run w).2 x := by
  rcases Fallible.run_tryCatch_cases m f w with ⟨e, w₁, run, whole⟩ | ⟨a, w₁, run, whole⟩
  · rw [run] at h
    rw [whole]
    exact h.grow (grows e w₁)
  · rw [run] at h
    rwa [whole]

/-- A call of which nothing but success is taken comes before its diagnosis. -/
theorem opens_checked (w : World E H) (database : Option Database) (c : Call)
    (code : c.Answer → Int32) :
    w.Opens ((Fallible.checked database c code).run.run w).2 (.called c (w.answer c)) := by
  by_cases done : code ((w.announced c).answer c) = 0
  · rw [Fallible.checked_run done]
    exact w.opens_called c
  · rw [Fallible.checked_run_error done]
    refine (w.opens_called c).grow ?_
    cases database <;> exact ⟨[_, _], rfl⟩

/-- A call that has to succeed is what the engine sees first. -/
theorem opens_succeed (w : World E H) (database : Option Database) (c : Call)
    (code : c.Answer → Int32) :
    w.Opens ((Fallible.succeed database c code).run.run w).2 (.called c (w.answer c)) :=
  (w.opens_checked database c code).run_bind fun _ => .refl

/-- The engine is asked to open a database before anything is made of its answer. -/
theorem opens_openDatabase (w : World E H) (file : CString) (flags : OpenFlags)
    (vfs : Option CString) :
    w.Opens ((Connection.openDatabase file flags vfs : Fallible E H Database).run.run w).2
      (.called (.openV2 file flags.bits vfs) (w.answer (.openV2 file flags.bits vfs))) := by
  refine (w.opens_called _).grow ?_
  rw [Connection.openDatabase_run]
  dsimp only
  generalize (w.announced (.openV2 file flags.bits vfs)).answer (.openV2 file flags.bits vfs) =
    answer
  obtain ⟨code, database⟩ := answer
  by_cases done : code = 0
  · simp only [done, if_true]
    cases database <;> exact .refl _
  · simp only [if_neg done]
    cases database with
    | none => exact ⟨[_, _], rfl⟩
    | some d => exact ⟨[_, _, _, _], rfl⟩

end World

/-- Asking takes nothing out of the transcript. -/
theorem Asks.grows {P : Call → Prop} {α : Type} {m : Bridge E H α} (h : Asks P m)
    (w : World E H) : w.Grows (m w).2 := by
  have recounts : w.RecountsOn (fun _ => True) (m w).2 := .of_quiet (h w).quiet
  exact recounts.grows

namespace Connection.Operation

/-- What the engine gets to see first of an operation with texts: the texts, each as a string
that ends with a zero octet, and for a statement to be prepared how long the string is. -/
inductive Hands (conn : Connection) : Operation H → Entry → Prop
  | openWith {path : String} {options : OpenOptions} {answer : Opened} :
    Hands conn (.openWith path options)
      (.called (.openV2 (.terminated path) options.flags.bits (options.vfs.map .terminated))
        answer)
  | prepare {sql : String} {d : Database} {size : Int32} {answer : Prepared} :
    conn.database = .ok d → size.toInt = (Utf8.encode sql).length + 1 →
      Hands conn (.prepare sql) (.called (.prepareV2 d (.terminated sql) size) answer)
  | executeBatch {sql : String} {d : Database} :
    conn.database = .ok d → Hands conn (.executeBatch sql) (.began (.exec d (.terminated sql)))
  | registerFunction {name : String} {arity : Int32} {flags : FunctionFlags}
    {function : Closure H.Function} {d : Database} {code : Int32} :
    conn.database = .ok d →
      Hands conn (.registerFunction name arity flags function)
        (.called (announcing conn d (.terminated name) name arity flags) code)
  | removeFunction {name : String} {arity : Int32} {d : Database} {code : Int32} :
    conn.database = .ok d →
      Hands conn (.removeFunction name arity)
        (.called (.createFunctionV2 d (.terminated name) arity
          FunctionFlags.empty.textRepresentation none false false false false) code)

/-- What carries a text is a call or an execution. -/
theorem Hands.isNative {conn : Connection} {op : Operation H} {x : Entry}
    (h : Hands conn op x) : x.isNative := by
  cases h <;> rfl

variable {op : Operation H} {conn : Connection} {w : World E H}

/-- The octets of a short text and the one that ends them have a 32-bit length. -/
theorem size_of_terminated {text : String} (short : (Utf8.encode text).length < maxLength) :
    (Int32.ofNat (CString.terminated text).memory.length).toInt =
      (Utf8.encode text).length + 1 := by
  have length : (CString.terminated text).memory.length = (Utf8.encode text).length + 1 := by
    simp [CString.terminated, CString.ofBytes]
  have bound : (Utf8.encode text).length + 1 < 2 ^ 31 := by
    unfold maxLength at short
    omega
  rw [length, Int32.toInt_ofNat_of_lt bound]
  rfl

/-- A text that is too long to be prepared is refused. -/
theorem prepare_of_tooLong {sql : String} {d : Database} (database : conn.database = .ok d)
    (free : NulFree sql) (long : maxLength ≤ (Utf8.encode sql).length) :
    (conn.prepare sql).run.run w =
      (.error (.ofCodec (.tooLarge (Utf8.encode sql).length)), w) := by
  have length : (CString.terminated sql).memory.length = (Utf8.encode sql).length + 1 := by
    simp [CString.terminated, CString.ofBytes]
  have exceeds : ¬ (CString.terminated sql).memory.length ≤ maxLength := by omega
  unfold Connection.prepare
  rw [live_ofText_of_nulFree database free, if_neg exceeds]
  rfl

/-- A text that is prepared is seen by the engine first, with its length. -/
theorem hands_prepare {sql : String} {d : Database} (database : conn.database = .ok d)
    (free : NulFree sql) (short : (Utf8.encode sql).length < maxLength) :
    ∃ x, Hands (H := H) conn (.prepare sql) x ∧
      w.Opens ((conn.prepare sql).run.run w).2 x := by
  let size := Int32.ofNat (CString.terminated sql).memory.length
  let c : Call := .prepareV2 d (.terminated sql) size
  refine ⟨.called c (w.answer c), .prepare database (size_of_terminated short), ?_⟩
  have within : (CString.terminated sql).memory.length ≤ maxLength := by
    simp only [CString.terminated, CString.ofBytes, List.length_append, List.length_singleton]
    omega
  unfold Connection.prepare
  have sized : (Fallible.ofExcept .ofCodec (.ok size) : Fallible E H Int32).run.run w =
      (.ok size, w) := rfl
  rw [live_ofText_of_nulFree database free, if_pos within, Fallible.run_bind_of_run sized]
  exact World.Opens.run_bind (w.opens_checked (some d) c (·.code)) fun answer =>
    (conn.asks_prepared d sql answer).grows

/-- Setting the timeout of options makes the transcript grow. -/
theorem grows_applyTimeout (d : Database) (ms : UInt32) (w : World E H) :
    w.Grows ((applyTimeout d ms : Fallible E H Unit).run.run w).2 := by
  rw [applyTimeout_run]
  dsimp only
  split
  · exact ⟨[_, _], rfl⟩
  · exact ⟨[_, _, _, _, _, _], rfl⟩

/-- A database is opened from the strings of its path and of the file system module. -/
theorem hands_openWith {path : String} {options : OpenOptions} (unopened : conn.state = .unopened)
    (free : ∀ text ∈ path :: options.vfs.toList, NulFree text) :
    ∃ x, Hands (H := H) conn (.openWith path options) x ∧
      w.Opens ((conn.openWith path options).run w).2 x := by
  let c : Call := .openV2 (.terminated path) options.flags.bits (options.vfs.map .terminated)
  refine ⟨.called c (w.answer c), .openWith, ?_⟩
  have acquired : w.Opens ((conn.acquire path options).run.run w).2 (.called c (w.answer c)) := by
    rw [acquire_of_nulFree unopened free]
    refine World.Opens.run_bind (w.opens_openDatabase _ _ _) fun d v => ?_
    cases options.busyTimeout with
    | none => exact .refl v
    | some ms =>
      exact World.Grows.run_bind (grows_applyTimeout d ms v) fun _ => .refl
  unfold Connection.openWith
  rcases run : (conn.acquire path options).run.run w with ⟨r, v⟩
  rw [Bridge.run_bind_of_run run]
  rw [run] at acquired
  cases r with
  | error e => exact acquired
  | ok d => exact acquired.grow ⟨[_], rfl⟩

/-- A change of callbacks begins with a note. -/
theorem opens_noted {id : ConnectionId} {change : Change} {m : Fallible E H Unit}
    {P : Entry → Prop} (opens : ∀ v : World E H, ∃ x, P x ∧ v.Opens (m.run.run v).2 x) :
    ∃ x, P x ∧ w.Opens ((Fallible.noted id change m).run.run w).2 x := by
  obtain ⟨x, hx, opens⟩ := opens (w.record (.requested id change))
  rcases run : m.run.run (w.record (.requested id change)) with ⟨r, v⟩
  rw [run] at opens
  rw [Fallible.noted_run run]
  exact ⟨x, hx, (opens.after rfl).grow ⟨[_], rfl⟩⟩

/-- A user function is announced with the string of its name. -/
theorem hands_registerFunction {name : String} {arity : Int32} {flags : FunctionFlags}
    {function : Closure H.Function} {d : Database} (database : conn.database = .ok d)
    (free : NulFree name) :
    ∃ x, Hands conn (.registerFunction name arity flags function) x ∧
      w.Opens ((conn.registerFunction name arity flags function).run.run w).2 x := by
  let c := announcing conn d (.terminated name) name arity flags
  refine opens_noted fun v => ⟨.called c (v.answer c), .registerFunction database, ?_⟩
  have announced : v.Opens ((conn.announceFunction name arity flags).run.run v).2
      (.called c (v.answer c)) := by
    unfold announceFunction
    rw [live_ofText_of_nulFree database free]
    exact v.opens_succeed (some d) c (·)
  have gone (e : BindError) (u : World E H) : u.Grows ((do
      Fallible.lift (Bridge.dispose [.function function])
      throw e : Fallible E H Unit).run.run u).2 := by
    rw [dispose_throw_run, ← dispose_single]
    exact (Bridge.recounts_dispose _ u).grows
  exact World.Opens.run_bind (announced.run_tryCatch gone) fun _ u =>
    (Bridge.register_recounts _ _ u).1.grows

/-- The name of a function that is removed is seen by the engine first. -/
theorem hands_removeFunction {name : String} {arity : Int32} {d : Database}
    (database : conn.database = .ok d) (free : NulFree name) :
    ∃ x, Hands (H := H) conn (.removeFunction name arity) x ∧
      w.Opens ((conn.removeFunction name arity).run.run w).2 x := by
  let c : Call := .createFunctionV2 d (.terminated name) arity
    FunctionFlags.empty.textRepresentation none false false false false
  refine opens_noted fun v => ⟨.called c (v.answer c), .removeFunction database, ?_⟩
  unfold uninstallFunction
  rw [live_ofText_of_nulFree database free]
  exact World.Opens.run_bind (v.opens_succeed (some d) c (·)) fun _ u =>
    (Bridge.release_recounts _ u).1.grows

/-- All statements of a text are run from its string, and serving the engine meanwhile takes
nothing out of the transcript. -/
theorem hands_executeBatch {cb : Callbacks E H} {sql : String} {d : Database}
    (database : conn.database = .ok d) (free : NulFree sql)
    (serves : ∀ x (reply : Reply E.State Int32),
      (w.beginning x).Grows ((Upcall.serve cb reply).run (w.beginning x)).2) :
    ∃ x, Hands (H := H) conn (.executeBatch sql) x ∧
      w.Opens ((conn.executeBatch cb sql).run.run w).2 x := by
  let x : Execution := .exec d (.terminated sql)
  refine ⟨.began x, .executeBatch database, ?_⟩
  have begun : w.Opens (w.beginning x) (.began x) :=
    ⟨[], [.reported (.nativeCall x.symbol)], rfl, by simp [Entry.isNative]⟩
  have executed : w.Opens ((Fallible.lift (Upcall.execute cb x)).run.run w).2 (.began x) := by
    have served := begun.grow (serves x (E.execute w.engine x))
    rcases run : (Upcall.serve cb (E.execute w.engine x)).run (w.beginning x) with ⟨code, v⟩
    have done : (Upcall.execute cb x).run w = (code, v.record (.ended x code)) := by
      unfold Upcall.execute
      refine (Bridge.run_bind_of_run (rfl : (Upcall.start x).run w = (_, w.beginning x))).trans ?_
      exact Bridge.run_bind_of_run run
    rw [Fallible.lift_run_of_run done]
    rw [run] at served
    exact served.grow ⟨[_], rfl⟩
  unfold Connection.executeBatch
  rw [live_ofText_of_nulFree database free]
  -- whatever the outcome is, all that follows is a diagnosis
  refine executed.run_bind fun code v => ?_
  refine Asks.grows (P := fun _ => True) ?_ v
  split
  · exact Asks.run_pure _
  · exact Asks.run_bind (Asks.run_lift (Asks.diagnose (fun _ _ => trivial) fun _ => trivial))
      fun _ => Asks.run_throw _

/-- An operation whose text has no 32-bit length, when it needs one. -/
def Overlong : Operation H → Prop
  | .prepare sql => maxLength ≤ (Utf8.encode sql).length
  | _ => False

/-- The texts of an operation are what the engine gets to see first. -/
theorem opens_perform {cb : Callbacks E H} (allowed : op.Allowed conn)
    (free : ∀ text ∈ op.texts, NulFree text) (short : ¬ op.Overlong) (texts : op.texts ≠ [])
    (serves : ∀ x (reply : Reply E.State Int32),
      (w.beginning x).Grows ((Upcall.serve cb reply).run (w.beginning x)).2) :
    ∃ x, Hands conn op x ∧ w.Opens ((op.perform cb conn).run w).2 x := by
  cases op with
  | openWith path options => exact hands_openWith allowed free
  | prepare sql =>
    obtain ⟨d, database⟩ := allowed
    exact hands_prepare database (free sql List.mem_cons_self) (Nat.lt_of_not_le short)
  | executeBatch sql =>
    obtain ⟨d, database⟩ := allowed
    exact hands_executeBatch database (free sql List.mem_cons_self) serves
  | registerFunction name arity flags function =>
    obtain ⟨d, database⟩ := allowed
    exact hands_registerFunction database (free name List.mem_cons_self)
  | removeFunction name arity =>
    obtain ⟨d, database⟩ := allowed
    exact hands_removeFunction database (free name List.mem_cons_self)
  | _ => exact absurd rfl texts

end Connection.Operation

end EngineBridge
