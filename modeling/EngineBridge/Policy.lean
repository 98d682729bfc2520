import EngineBridge.World

/-!
# Result policies

How the answer to a native call is taken.  A call is announced before it is made.
Where only success will do, a failure is diagnosed at once, by the message of the
connection the call was made on, or by the general text for its code where there is no
connection, before any other call can change that message.
-/

set_option autoImplicit false

namespace EngineBridge

open Native

variable {E : Engine} {H : Host}

/-- A computation that cannot fail, as one that can. -/
def Fallible.lift {α : Type} (computation : Bridge E H α) : Fallible E H α :=
  ExceptT.lift computation

/-- A computation goes on from where the one before it succeeded. -/
theorem Fallible.run_bind_of_run {α β : Type} {m : Fallible E H α} {f : α → Fallible E H β}
    {w w' : World E H} {a : α} (h : m.run.run w = (.ok a, w')) :
    (m >>= f).run.run w = (f a).run.run w' := by
  rw [ExceptT.run_bind]
  exact Bridge.run_bind_of_run h

/-- The outcome of a conversion, as a computation. -/
def Fallible.ofExcept {ε α : Type} (convert : ε → BindError) : Except ε α → Fallible E H α
  | .ok a => pure a
  | .error e => throw (convert e)

namespace Bridge

/-- Announce a call and make it. -/
def call (c : Call) : Bridge E H c.Answer := do
  report (.nativeCall c.symbol)
  ask c

/-- The text that an engine gives for a failure, or a text made from the code where it
gives none that can be read. -/
def diagnosis (code : Int32) (text : Option CString) : String :=
  match CString.decode text with
  | .ok (some message) => message
  | _ => s!"result code {code.toInt}"

/-- The engine error for a failed call, with the message of the connection it was made
on, if there was one. -/
def diagnose (database : Option Database) (symbol : Symbol) (code : Int32) :
    Bridge E H EngineError := do
  let text ← match database with
    | some d => ask (.errmsg d)
    | none => ask (.errstr code)
  let message := diagnosis code text
  report (.callFailed symbol code message)
  pure ⟨code, message⟩

end Bridge

namespace Fallible

open Bridge

/-- Take nothing but success: the answer to a call, unless its result code is another. -/
def checked (database : Option Database) (c : Call) (code : c.Answer → Int32) :
    Fallible E H c.Answer := do
  let answer ← lift (call c)
  match ResultClass.ofCode (code answer) with
  | .ok => pure answer
  | _ => throw (.engine (← lift (diagnose database c.symbol (code answer))))

/-- Take nothing but success from a call that answers with a result code. -/
def succeed (database : Option Database) (c : Call) (code : c.Answer → Int32) :
    Fallible E H Unit := do
  let _ ← checked database c code

/-- Change the callbacks of a connection, with a note of the beginning and of the end. -/
def noted (id : ConnectionId) (change : Change) (operation : Fallible E H Unit) :
    Fallible E H Unit := do
  lift (record (.requested id change))
  let result ← lift operation.run
  lift (record (.settled id change result))
  ofExcept (·) result

/-- Read the string that a call returned; a null pointer is no string. -/
def string (text : Option CString) : Fallible E H (Option String) :=
  ofExcept .ofCodec (CString.decode text)

/-- Read the string that a call returned; there has to be one. -/
def requiredString (symbol : Symbol) (text : Option CString) : Fallible E H String := do
  match ← string text with
  | some s => pure s
  | none => throw (.infrastructure (.nullReturn symbol))

end Fallible

end EngineBridge
