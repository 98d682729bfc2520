import EngineBridge.Event
import EngineBridge.Native.Engine
import EngineBridge.Registry

/-!
# The world of a program

All that operations can see and change: the engine, the registry of callbacks, the
interrupt cells of connections, the state of the program itself, and a transcript of
what happened.  Operations are computations in the monad `Bridge`, and those that can
fail in `Fallible`; a failed operation keeps the changes it made.
-/

set_option autoImplicit false

namespace EngineBridge

open Native

/-- A change of the callbacks of a connection. -/
inductive Change where
  | busyTimeout
  | registerBusyHandler (token : Nat)
  | clearBusyHandler
  | registerFunction (name : String) (arity : Int32) (token : Nat)
  | removeFunction (name : String) (arity : Int32)
deriving DecidableEq

/-- Something that happened. -/
inductive Entry where
  /-- A call was made and answered. -/
  | called (call : Call) (answer : call.Answer)
  /-- An execution began. -/
  | began (execution : Execution)
  /-- An execution ended with a result code. -/
  | ended (execution : Execution) (code : Int32)
  | reported (event : Event)
  /-- A busy handler ran. -/
  | handled (token : Nat) (attempts : UInt32)
  /-- A user function ran. -/
  | invoked (token : Nat) (arguments : List Value)
  /-- A change of the callbacks of a connection was asked for. -/
  | requested (id : ConnectionId) (change : Change)
  /-- A change of the callbacks of a connection was made, or failed. -/
  | settled (id : ConnectionId) (change : Change) (result : Except BindError Unit)

/-- The world in which a program with the shape `H` uses the engine `E`. -/
structure World (E : Engine) (H : Host) where
  engine : E.State
  host : H.State
  registry : Registry H := {}
  /-- How many connections there have been. -/
  connections : Nat := 0
  /-- How many closures there have been. -/
  closures : Nat := 0
  /-- What an interrupt of each connection goes to, for those that are armed. -/
  armed : List (ConnectionId × Database) := []
  /-- What happened so far, the latest first. -/
  transcript : List Entry := []

/-- A computation in the world of a program. -/
abbrev Bridge (E : Engine) (H : Host) := StateM (World E H)

/-- A computation that can fail. -/
abbrev Fallible (E : Engine) (H : Host) := ExceptT BindError (Bridge E H)

namespace World

variable {E : Engine} {H : Host}

/-- The world after one more thing has happened. -/
def record (w : World E H) (entry : Entry) : World E H :=
  { w with transcript := entry :: w.transcript }

/-- The answer that the engine gives to a call. -/
def answer (w : World E H) (c : Call) : c.Answer := (E.answer w.engine c).1

/-- The world after the engine has answered a call. -/
def asked (w : World E H) (c : Call) : World E H :=
  { w with engine := (E.answer w.engine c).2 }.record (.called c (w.answer c))

/-- What an interrupt of a connection goes to. -/
def target (w : World E H) (id : ConnectionId) : Option Database :=
  w.armed.lookup id

/-- What happened since the transcript had `length` entries, in order. -/
def since (w : World E H) (length : Nat) : List Entry :=
  (w.transcript.take (w.transcript.length - length)).reverse

end World

namespace Bridge

variable {E : Engine} {H : Host}

/-- A computation goes on from where the one before it ended. -/
theorem run_bind_of_run {α β : Type} {m : Bridge E H α} {f : α → Bridge E H β} {w w' : World E H}
    {a : α} (h : m.run w = (a, w')) : (m >>= f).run w = (f a).run w' := by
  rw [StateT.run_bind, h]
  rfl

/-- Put something into the transcript. -/
def record (entry : Entry) : Bridge E H Unit :=
  modify (·.record entry)

/-- Report an event. -/
def report (event : Event) : Bridge E H Unit :=
  record (.reported event)

/-- Have the engine answer a call. -/
def ask (call : Call) : Bridge E H call.Answer :=
  fun w => (w.answer call, w.asked call)

/-- The number of a connection that is new. -/
def newConnection : Bridge E H ConnectionId :=
  modifyGet fun w => (⟨w.connections + 1⟩, { w with connections := w.connections + 1 })

/-- A closure that is new. -/
def newClosure {Code : Type} (code : Code) (owned : Option Connection) :
    Bridge E H (Closure Code) :=
  modifyGet fun w => (⟨w.closures + 1, code, owned⟩, { w with closures := w.closures + 1 })

/-- Have interrupts of a connection go to an object of the engine. -/
def arm (id : ConnectionId) (database : Database) : Bridge E H Unit :=
  modify fun w => { w with armed := (id, database) :: w.armed.filter (·.1 != id) }

/-- Have interrupts of a connection go nowhere. -/
def disarm (id : ConnectionId) : Bridge E H Unit :=
  modify fun w => { w with armed := w.armed.filter (·.1 != id) }

end Bridge

end EngineBridge
