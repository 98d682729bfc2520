import EngineBridge.Proofs.Upcall.Arguments
import EngineBridge.Proofs.Upcall.Result

/-!
# Invocations of user functions

The engine hands an invocation over to the library and waits for its result.  There are
three ways not to get to the closure, in this order: the invocation has no context, no
function is registered for it, or an argument cannot be read.  Otherwise the closure
runs, once, on what was read.  Whatever happens, the invocation gets one result, and
nothing is asked of the engine after that.
-/

set_option autoImplicit false

namespace EngineBridge

open Native

variable {E : Engine} {H : Host}

/-- A call that asks about an invocation or one of its arguments. -/
def Native.Call.Inspects : Call → Prop
  | .userData _ | .valueType _ | .valueInt64 _ | .valueDouble _ => True
  | .valueText _ | .valueBlob _ | .valueBytes _ => True
  | _ => False

/-- Questions give no result. -/
theorem Native.Call.Inspects.givesResult_eq_false {c : Call} (h : c.Inspects) (context : Context) :
    c.givesResult context = false := by
  cases c <;> first | rfl | exact h.elim

namespace World

/-- The second world comes from the first by questions about an invocation. -/
def Inspected (w w' : World E H) : Prop :=
  w'.registry = w.registry ∧ ∃ entries, w'.transcript = entries ++ w.transcript ∧
    ∀ entry ∈ entries, ∃ c a, entry = .called c a ∧ c.Inspects

/-- How many results the invocation with a context has been given. -/
def results (w : World E H) (context : Context) : Nat :=
  w.transcript.countP fun
    | .called c _ => c.givesResult context
    | _ => false

/-- A world comes from itself by no questions. -/
theorem Inspected.refl (w : World E H) : w.Inspected w := ⟨rfl, [], rfl, by simp⟩

/-- Questions may follow questions. -/
theorem Inspected.trans {w₁ w₂ w₃ : World E H} (h : w₁.Inspected w₂) (h' : w₂.Inspected w₃) :
    w₁.Inspected w₃ := by
  obtain ⟨hr, entries, ht, hall⟩ := h
  obtain ⟨hr', entries', ht', hall'⟩ := h'
  refine ⟨hr'.trans hr, entries' ++ entries, by rw [ht', ht, List.append_assoc], ?_⟩
  intro entry he
  rcases List.mem_append.mp he with he | he
  · exact hall' entry he
  · exact hall entry he

/-- A question about an invocation is one. -/
theorem Inspected.asked {c : Call} (w : World E H) (h : c.Inspects) : w.Inspected (w.asked c) :=
  ⟨rfl, [.called c (w.answer c)], rfl, by
    intro entry he
    exact ⟨c, _, List.mem_singleton.mp he, h⟩⟩

/-- A question about an invocation has an answer. -/
theorem Answers.inspected {w w' : World E H} {c : Call} {answer : c.Answer}
    (h : w.Answers c answer w') (inspects : c.Inspects) : w.Inspected w' := by
  obtain ⟨-, rfl⟩ := h
  exact .asked w inspects

/-- After questions there are as many results as before. -/
theorem Inspected.results_eq {w w' : World E H} (h : w.Inspected w') (context : Context) :
    w'.results context = w.results context := by
  obtain ⟨-, entries, ht, hall⟩ := h
  have hzero : entries.countP (fun
      | .called c _ => c.givesResult context
      | _ => false) = 0 := by
    refine List.countP_eq_zero.mpr fun entry he => ?_
    obtain ⟨c, a, rfl, hc⟩ := hall entry he
    simp [hc.givesResult_eq_false]
  simp only [results, ht, List.countP_append, hzero, Nat.zero_add]

/-- A call that gives an invocation its result gives it one more. -/
theorem results_asked {c : Call} {context : Context} (w : World E H)
    (h : c.givesResult context = true) : (w.asked c).results context = w.results context + 1 := by
  simp [results, asked, record, h]

end World

namespace Upcall

/-- The arguments that come with an invocation: as many as the count says, and none if
there is no place that they could be read from. -/
def given (count : Int32) (arguments : Option (List Argument)) : List Argument :=
  (arguments.getD []).take count.toInt.toNat

/-- As many arguments as the count says come with an invocation that has them. -/
theorem length_given {count : Int32} {cells : List Argument}
    (h : count.toInt.toNat ≤ cells.length) :
    (given count (some cells)).length = count.toInt.toNat := by
  rw [given, List.length_take]
  exact Nat.min_eq_left h

/-- The values of arguments that were read one after the other. -/
inductive Reads : World E H → List Argument → List Value → World E H → Prop
  | nil {w : World E H} : Reads w [] [] w
  | cons {w w₁ w₂ : World E H} {argument : Argument} {value : Value} {rest : List Argument}
      {values : List Value} (first : Decodes argument w (.ok value) w₁)
      (others : Reads w₁ rest values w₂) : Reads w (argument :: rest) (value :: values) w₂

/-- Each argument gives one value. -/
theorem Reads.length_eq {w w' : World E H} {arguments : List Argument} {values : List Value}
    (h : Reads w arguments values w') : values.length = arguments.length := by
  induction h with
  | nil => rfl
  | cons _ _ ih => simp [ih]

/-- An invocation is refused with a message, before any closure runs. -/
inductive Refused (context : Context) (count : Int32) (arguments : Option (List Argument))
    (w : World E H) : String → World E H → Prop
  /-- The invocation has no context. -/
  | noContext (missing : w.answer (.userData context) = none) :
    Refused context count arguments w "function invoked without registration context"
      (w.asked (.userData context))
  /-- No function is registered in its slot. -/
  | noFunction {owner : ConnectionId} {name : String} {arity : Int32}
      (present : w.answer (.userData context) = some ⟨owner, .function name arity⟩)
      (unregistered : ∀ f, w.registry.find? ⟨owner, .function name arity⟩ ≠ some (.function f)) :
    Refused context count arguments w s!"function {name}/{arity.toInt} is not registered"
      (w.asked (.userData context))
  /-- The slot is not one of functions, and no function is registered there. -/
  | noFunctionSlot {owner : ConnectionId}
      (present : w.answer (.userData context) = some ⟨owner, .busyHandler⟩)
      (unregistered : ∀ f, w.registry.find? ⟨owner, .busyHandler⟩ ≠ some (.function f)) :
    Refused context count arguments w "busy handler is not registered"
      (w.asked (.userData context))
  /-- The first argument that cannot be read comes after some that could. -/
  | badArgument {key : FunctionKey} {f : Closure H.Function} {before after : List Argument}
      {bad : Argument} {values : List Value} {validUpTo : Nat} {w₁ w₂ : World E H}
      (present : w.answer (.userData context) = some key)
      (registered : w.registry.find? key = some (.function f))
      (parts : given count arguments = before ++ bad :: after)
      (readable : Reads (w.asked (.userData context)) before values w₁)
      (unreadable : Decodes bad w₁ (.error (.invalidUtf8 validUpTo)) w₂) :
    Refused context count arguments w (s!"argument {before.length + 1}: " ++
      s!"native text is not valid UTF-8 (valid up to byte {validUpTo})") w₂

/-- An invocation gets as far as its closure, which is to run on some values. -/
inductive Accepted (context : Context) (count : Int32) (arguments : Option (List Argument))
    (w : World E H) : Closure H.Function → List Value → World E H → Prop
  | intro {key : FunctionKey} {f : Closure H.Function} {values : List Value} {w₁ : World E H}
      (present : w.answer (.userData context) = some key)
      (registered : w.registry.find? key = some (.function f))
      (readable : Reads (w.asked (.userData context)) (given count arguments) values w₁) :
    Accepted context count arguments w f values (w₁.record (.invoked f.token values))

/-- An argument is decoded by questions only. -/
theorem Decodes.inspected {argument : Argument} {w w' : World E H}
    {result : Except CodecError Value} (h : Decodes argument w result w') : w.Inspected w' := by
  cases h with
  | integer type number | real type number =>
    exact (type.inspected trivial).trans (number.inspected trivial)
  | text type pointed counted | malformed type pointed counted | noText type pointed counted
  | blob type pointed counted | noBlob type pointed counted =>
    exact ((type.inspected trivial).trans (pointed.inspected trivial)).trans
      (counted.inspected trivial)
  | null type => exact type.inspected trivial

/-- Arguments are read by questions only. -/
theorem Reads.inspected {w w' : World E H} {arguments : List Argument} {values : List Value}
    (h : Reads w arguments values w') : w.Inspected w' := by
  induction h with
  | nil => exact .refl _
  | cons first _ ih => exact first.inspected.trans ih

/-- Arguments are read up to the first that cannot be read. -/
theorem readArguments_run (position : Nat) (arguments : List Argument) (w : World E H) :
    (∃ values w', Reads w arguments values w' ∧
      (readArguments position arguments).run w = (.ok values, w')) ∨
    ∃ before bad after values cause w₁ w₂, arguments = before ++ bad :: after ∧
      Reads w before values w₁ ∧ Decodes bad w₁ (.error cause) w₂ ∧
      (readArguments position arguments).run w =
        (.error ⟨s!"argument {position + before.length}: {cause.message}"⟩, w₂) := by
  induction arguments generalizing position w with
  | nil => exact .inl ⟨[], w, .nil, rfl⟩
  | cons argument rest ih =>
    obtain ⟨result, w₁, first⟩ := exists_decodes argument w
    simp only [readArguments]
    rw [Bridge.run_bind_of_run first.run]
    cases result with
    | error cause => exact .inr ⟨[], argument, rest, [], cause, w, w₁, rfl, .nil, first, rfl⟩
    | ok value =>
      rcases ih (position + 1) w₁ with ⟨values, w', hreads, hrun⟩ |
        ⟨before, bad, after, values, cause, w', w₂, rfl, hreads, hbad, hrun⟩
      · refine .inl ⟨value :: values, w', .cons first hreads, ?_⟩
        exact Bridge.run_bind_of_run hrun
      · refine .inr ⟨argument :: before, bad, after, value :: values, cause, w', w₂, rfl,
          .cons first hreads, hbad, ?_⟩
        have hposition : position + 1 + before.length = position + (before.length + 1) := by omega
        rw [hposition] at hrun
        exact Bridge.run_bind_of_run hrun

/-- How a slot is named in the message that no function is registered there. -/
theorem refused_of_unregistered {context : Context} {count : Int32}
    {arguments : Option (List Argument)} {w : World E H} {key : FunctionKey}
    (present : w.answer (.userData context) = some key)
    (unregistered : ∀ f, w.registry.find? key ≠ some (.function f)) :
    Refused context count arguments w s!"{key.slot.display} is not registered"
      (w.asked (.userData context)) := by
  obtain ⟨owner, slot⟩ := key
  cases slot with
  | busyHandler => exact .noFunctionSlot present unregistered
  | function name arity =>
    have message : s!"{Slot.display (.function name arity)} is not registered" =
        s!"function {name}/{arity.toInt} is not registered" := rfl
    rw [message]
    exact .noFunction present unregistered

/-- An invocation either is refused or gets as far as its closure. -/
theorem accept_run (context : Context) (count : Int32) (arguments : Option (List Argument))
    (w : World E H) :
    (∃ message w', Refused context count arguments w message w' ∧
      (accept context count arguments).run w = (.error ⟨message⟩, w')) ∨
    ∃ f values w', Accepted context count arguments w f values w' ∧
      (accept context count arguments).run w = (.ok (f, values), w') := by
  have hask : (Bridge.ask (.userData context) : Bridge E H _).run w =
    (w.answer (.userData context), w.asked (.userData context)) := rfl
  simp only [accept]
  rw [Bridge.run_bind_of_run hask]
  cases present : w.answer (.userData context) with
  | none => exact .inl ⟨_, _, .noContext present, rfl⟩
  | some key =>
    have hget : (get : Bridge E H _).run (w.asked (.userData context)) =
      (w.asked (.userData context), w.asked (.userData context)) := rfl
    simp only
    rw [Bridge.run_bind_of_run hget]
    have hregistry : (w.asked (.userData context)).registry = w.registry := rfl
    rw [hregistry]
    split
    · next f registered =>
      rcases readArguments_run 1 (given count arguments) (w.asked (.userData context)) with
        ⟨values, w', hreads, hrun⟩ |
          ⟨before, bad, after, values, cause, w₁, w₂, parts, hreads, hbad, hrun⟩
      · refine .inr ⟨f, values, _, .intro present registered hreads, ?_⟩
        exact Bridge.run_bind_of_run hrun
      · rw [Nat.add_comm] at hrun
        obtain ⟨validUpTo, rfl⟩ := hbad.error_eq
        refine .inl ⟨_, w₂, .badArgument present registered parts hreads hbad, ?_⟩
        exact Bridge.run_bind_of_run hrun
    · next unregistered =>
      exact .inl ⟨_, _, refused_of_unregistered present fun f hf => unregistered f hf, rfl⟩

/-- An invocation is refused after questions only. -/
theorem Refused.inspected {context : Context} {count : Int32} {arguments : Option (List Argument)}
    {w w' : World E H} {message : String} (h : Refused context count arguments w message w') :
    w.Inspected w' := by
  have start : w.Inspected (w.asked (.userData context)) := .asked w trivial
  cases h with
  | noContext => exact start
  | noFunction => exact start
  | noFunctionSlot => exact start
  | badArgument _ _ _ readable unreadable =>
    exact (start.trans readable.inspected).trans unreadable.inspected

/-- No result has been given when a closure is about to run. -/
theorem Accepted.results_eq {context : Context} {count : Int32}
    {arguments : Option (List Argument)} {w w' : World E H} {f : Closure H.Function}
    {values : List Value} (h : Accepted context count arguments w f values w') :
    w'.results context = w.results context := by
  obtain ⟨present, registered, readable⟩ := h
  have start : w.Inspected (w.asked (.userData context)) := .asked w trivial
  rw [← (start.trans readable.inspected).results_eq context]
  simp [World.results, World.record]

/-- Arguments that can be read are read. -/
theorem Reads.readArguments_run {w w' : World E H} {arguments : List Argument}
    {values : List Value} (h : Reads w arguments values w') (position : Nat) :
    (readArguments position arguments).run w = (.ok values, w') := by
  induction h generalizing position with
  | nil => rfl
  | cons first _ ih =>
    unfold readArguments
    rw [Bridge.run_bind_of_run first.run]
    exact Bridge.run_bind_of_run (ih (position + 1))

/-- An invocation that gets as far as its closure is accepted. -/
theorem Accepted.accept_run {context : Context} {count : Int32}
    {arguments : Option (List Argument)} {w w' : World E H} {f : Closure H.Function}
    {values : List Value} (h : Accepted context count arguments w f values w') :
    (accept context count arguments).run w = (.ok (f, values), w') := by
  obtain ⟨present, registered, readable⟩ := h
  have asked : (Bridge.ask (.userData context) : Bridge E H (Option FunctionKey)).run w =
      (some _, w.asked (.userData context)) := Prod.ext present rfl
  have get : (get : Bridge E H _).run (w.asked (.userData context)) =
      (w.asked (.userData context), w.asked (.userData context)) := rfl
  unfold accept
  rw [Bridge.run_bind_of_run asked]
  dsimp only
  rw [Bridge.run_bind_of_run get, show (w.asked (.userData context)).registry.find? _ = _ from
    registered]
  exact Bridge.run_bind_of_run (readable.readArguments_run 1)

/-- A call tells the engine how a closure ended: by the value, by the message of the error, or by
the text of the panic. -/
def Conveys (context : Context) (c : Call) : Outcome (Except CallbackError Value) → Prop
  | .returned (.ok value) => value.Fits → Carries context c value
  | .returned (.error ⟨message⟩) => CarriesError context c message
  | .panicked (.message text) => CarriesError context c ("user function panicked: " ++ text)
  | .panicked .other => CarriesError context c "user function panicked: unknown panic payload"

/-- The world after a closure has ended and a panic, if there was one, has been reported. -/
def ended (outcome : Outcome (Except CallbackError Value)) (w : World E H) : World E H :=
  match outcome with
  | .returned _ => w
  | .panicked (.message text) => w.record (.reported (.functionPanicked text))
  | .panicked .other => w.record (.reported (.functionPanicked "unknown panic payload"))

/-- No result is given by the end of a closure alone. -/
theorem results_ended (outcome : Outcome (Except CallbackError Value)) (w : World E H)
    (context : Context) : (ended outcome w).results context = w.results context := by
  match outcome with
  | .returned _ => rfl
  | .panicked (.message text) => simp [ended, World.results, World.record]
  | .panicked .other => simp [ended, World.results, World.record]

/-- However a closure ends, the engine is told by one call, the last of all. -/
theorem conclude_run (context : Context) (outcome : Outcome (Except CallbackError Value))
    (w : World E H) :
    ∃ c, c.givesResult context = true ∧ Conveys context c outcome ∧
      StateT.run (match outcome with
        | .returned (.ok value) => setResult context value
        | .returned (.error e) => setError context e.message
        | .panicked panic => do
          Bridge.report (.functionPanicked panic.describe)
          setError context s!"user function panicked: {panic.describe}" : Bridge E H Unit) w =
        ((), (ended outcome w).asked c) := by
  match outcome with
  | .returned (.ok value) => exact setResult_run context value w
  | .returned (.error e) =>
    obtain ⟨c, carries, hrun⟩ := setError_run context e.message w
    exact ⟨c, carries.givesResult, carries, hrun⟩
  | .panicked (.message text) =>
    obtain ⟨c, carries, hrun⟩ := setError_run context
      ("user function panicked: " ++ text) (ended (.panicked (.message text)) w)
    exact ⟨c, carries.givesResult, carries, hrun⟩
  | .panicked .other =>
    obtain ⟨c, carries, hrun⟩ := setError_run context
      "user function panicked: unknown panic payload" (ended (.panicked .other) w)
    exact ⟨c, carries.givesResult, carries, hrun⟩

/-- An invocation gets one result, by the last call that is made for it.  If there is no
context, no function or an argument that cannot be read, no closure runs, whatever the
callbacks are, and the result is the first of these errors.  Otherwise the closure runs
once, on one value for each argument, and the result says how that ended. -/
theorem function_gives_one_result (context : Context) (count : Int32)
    (arguments : Option (List Argument)) (w : World E H) :
    (∃ message v c, Refused context count arguments w message v ∧ w.Inspected v ∧
      CarriesError context c message ∧ c.givesResult context = true ∧
      (v.asked c).results context = w.results context + 1 ∧
      ∀ callbacks : Callbacks E H,
        (function callbacks context count arguments).run w = ((), v.asked c)) ∨
    ∃ f values v, Accepted context count arguments w f values v ∧
      v.results context = w.results context ∧
      (arguments = none → values = []) ∧
      (∀ cells, arguments = some cells → count.toInt.toNat ≤ cells.length →
        values.length = count.toInt.toNat) ∧
      ∀ (callbacks : Callbacks E H) outcome v',
        (callbacks.invoke f values).run v = (outcome, v') →
        ∃ c, Conveys context c outcome ∧ c.givesResult context = true ∧
          ((ended outcome v').asked c).results context = v'.results context + 1 ∧
          (function callbacks context count arguments).run w =
            ((), (ended outcome v').asked c) := by
  rcases accept_run context count arguments w with
    ⟨message, v, refused, hrun⟩ | ⟨f, values, v, accepted, hrun⟩
  · obtain ⟨c, carries, hset⟩ := setError_run context message v
    refine .inl ⟨message, v, c, refused, refused.inspected, carries, carries.givesResult, ?_, ?_⟩
    · rw [World.results_asked _ carries.givesResult, refused.inspected.results_eq]
    · intro callbacks
      have hclosure : (run callbacks context count arguments).run w =
          (.returned (.error ⟨message⟩), v) := Bridge.run_bind_of_run hrun
      exact (Bridge.run_bind_of_run hclosure).trans hset
  · refine .inr ⟨f, values, v, accepted, accepted.results_eq, ?_, ?_, ?_⟩
    · rintro rfl
      obtain ⟨-, -, readable⟩ := accepted
      exact List.eq_nil_of_length_eq_zero (by simpa [given] using readable.length_eq)
    · rintro cells rfl hlength
      obtain ⟨-, -, readable⟩ := accepted
      rw [readable.length_eq, length_given hlength]
    · intro callbacks outcome v' hinvoke
      obtain ⟨c, gives, conveys, hconclude⟩ := conclude_run context outcome v'
      refine ⟨c, conveys, gives, ?_, ?_⟩
      · rw [World.results_asked _ gives, results_ended]
      · have hclosure : (run callbacks context count arguments).run w = (outcome, v') :=
          (Bridge.run_bind_of_run hrun).trans hinvoke
        exact (Bridge.run_bind_of_run hclosure).trans hconclude

end Upcall

end EngineBridge
