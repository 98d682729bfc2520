import EngineBridge.Native.Call

/-!
# Engines

What an engine is to the program that uses it: something that answers calls, runs
programs and now and then acts of its own accord.

While it runs a program the engine may call back.  It hands over the control with
its own state, so that the calls made meanwhile can change that state, and goes on
from whatever state it is given back.
-/

set_option autoImplicit false

namespace EngineBridge.Native

/-- What becomes of an engine with states `σ` that is to give an answer in `α`. -/
inductive Reply (σ α : Type) where
  /-- The answer is there. -/
  | done (answer : α) (state : σ)
  /-- A lock is in the way: the busy handler installed with `userData` is asked whether
  to try again, and the engine goes on with what it says. -/
  | busy (userData : Nat) (attempts : Int32) (state : σ) (resume : Int32 → σ → Reply σ α)
  /-- A user function is invoked.  Its result reaches the engine through calls on the
  context. -/
  | function (context : Context) (count : Int32) (arguments : Option (List Argument)) (state : σ)
      (resume : σ → Reply σ α)

namespace Reply

/-- Go on with `next` once the answer is there. -/
def bind {σ α β : Type} : Reply σ α → (α → σ → Reply σ β) → Reply σ β
  | .done answer state, next => next answer state
  | .busy userData attempts state resume, next =>
    .busy userData attempts state fun code s => (resume code s).bind next
  | .function context count arguments state resume, next =>
    .function context count arguments state fun s => (resume s).bind next

end Reply

/-- An engine. -/
structure Engine where
  /-- The states of the engine. -/
  State : Type
  /-- What can move the engine to act of its own accord. -/
  Stimulus : Type
  /-- What is seen of such an act. -/
  Response : Type
  /-- The answer to a call. -/
  answer : State → (c : Call) → c.Answer × State
  /-- The course of an execution, which ends with a result code. -/
  execute : State → Execution → Reply State Int32
  /-- The course of an act of its own accord. -/
  stimulate : State → Stimulus → Reply State Response

end EngineBridge.Native
