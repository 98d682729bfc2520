import EngineBridge.Connection.Operations

/-!
# Upcalls

What happens when the engine calls back.  An entry point finds the closure in the
registry and runs it; whatever the closure does, the engine gets an answer.  A handler
that panics counts as one that gives up, and a function that fails or panics reports an
error as its result.

The closure runs as it was found, even if its slot is changed while it runs.
-/

set_option autoImplicit false

namespace EngineBridge

open Native

variable {E : Engine} {H : Host}

/-- What a panic carries. -/
inductive Panic where
  | message (text : String)
  /-- Something that is no text. -/
  | other
deriving DecidableEq

/-- The wording of a panic. -/
def Panic.describe : Panic → String
  | .message text => text
  | .other => "unknown panic payload"

/-- How a run of a closure ended. -/
inductive Outcome (α : Type) where
  | returned (result : α)
  | panicked (panic : Panic)

/-- How the closures of a program run. -/
structure Callbacks (E : Engine) (H : Host) where
  /-- Whether to try again after so many attempts. -/
  handle : Closure H.Handler → UInt32 → Bridge E H (Outcome Bool)
  /-- The result of a function for some arguments. -/
  invoke : Closure H.Function → List Value → Bridge E H (Outcome (Except CallbackError Value))

namespace Upcall

/-- The number of attempts that a busy handler is told of. -/
def attemptCount (attempts : Int32) : UInt32 :=
  if attempts < 0 then 0 else attempts.toUInt32

/-- Find the busy handler for a call from the engine, and what it is told. -/
def acceptBusy (userData : Nat) (attempts : Int32) :
    Bridge E H (Option (Closure H.Handler × UInt32)) := do
  match (← get).registry.find? ⟨⟨userData⟩, .busyHandler⟩ with
  | some (.busy handler) =>
    let count := attemptCount attempts
    Bridge.record (.handled handler.token count)
    pure (some (handler, count))
  | _ => pure none

/-- Ask a busy handler whether to try again; one that panics gives up. -/
def consult (callbacks : Callbacks E H) (userData : Nat) (handler : Closure H.Handler)
    (count : UInt32) : Bridge E H Int32 := do
  match ← callbacks.handle handler count with
  | .returned again => pure (if again then 1 else 0)
  | .panicked panic =>
    Bridge.report (.handlerPanicked ⟨userData⟩ panic.describe)
    pure 0

/-- The entry point for busy handlers: one to try again, zero to give up. -/
def busy (callbacks : Callbacks E H) (userData : Nat) (attempts : Int32) : Bridge E H Int32 := do
  match ← acceptBusy userData attempts with
  | none => pure 0
  | some (handler, count) => consult callbacks userData handler count

/-- Read an argument. -/
def readArgument (argument : Argument) : Bridge E H (Except CodecError Value) := do
  match ColumnType.ofCode (← Bridge.ask (.valueType argument)) with
  | .null => pure (.ok .null)
  | .integer => pure (.ok (.integer (← Bridge.ask (.valueInt64 argument))))
  | .float => pure (.ok (.real (← Bridge.ask (.valueDouble argument))))
  | .text =>
    let pointer ← Bridge.ask (.valueText argument)
    let length ← Bridge.ask (.valueBytes argument)
    pure ((decodeText pointer length).map (.ofOption .text))
  | .blob =>
    let pointer ← Bridge.ask (.valueBlob argument)
    let length ← Bridge.ask (.valueBytes argument)
    pure (.ok (.ofOption .blob (decodeBlob pointer length)))

/-- Read arguments in order, up to the first that cannot be read; `position` counts from
one. -/
def readArguments (position : Nat) :
    List Argument → Bridge E H (Except CallbackError (List Value))
  | [] => pure (.ok [])
  | argument :: rest => do
    match ← readArgument argument with
    | .error e => pure (.error ⟨s!"argument {position}: {e.message}"⟩)
    | .ok value =>
      match ← readArguments (position + 1) rest with
      | .error e => pure (.error e)
      | .ok values => pure (.ok (value :: values))

/-- Find the closure for an invocation and read the arguments. -/
def accept (context : Context) (count : Int32) (arguments : Option (List Argument)) :
    Bridge E H (Except CallbackError (Closure H.Function × List Value)) := do
  match ← Bridge.ask (.userData context) with
  | none => pure (.error ⟨"function invoked without registration context"⟩)
  | some key =>
    match (← get).registry.find? key with
    | some (.function function) =>
      let given := (arguments.getD []).take count.toInt.toNat
      match ← readArguments 1 given with
      | .error e => pure (.error e)
      | .ok values =>
        Bridge.record (.invoked function.token values)
        pure (.ok (function, values))
    | _ => pure (.error ⟨s!"{key.slot.display} is not registered"⟩)

/-- Run the closure of an invocation, if it is found and the arguments can be read. -/
def run (callbacks : Callbacks E H) (context : Context) (count : Int32)
    (arguments : Option (List Argument)) :
    Bridge E H (Outcome (Except CallbackError Value)) := do
  match ← accept context count arguments with
  | .error e => pure (.returned (.error e))
  | .ok (function, values) => callbacks.invoke function values

/-- Give an invocation an error as its result. -/
def setError (context : Context) (message : String) : Bridge E H Unit :=
  let bs := Utf8.encode message
  Bridge.ask (.resultError context ⟨bs, Int32.ofNat (min bs.length maxLength)⟩)

/-- Give an invocation a value as its result. -/
def setResult (context : Context) : Value → Bridge E H Unit
  | .null => Bridge.ask (.resultNull context)
  | .integer v =>
    if v.toInt32.toInt64 = v then Bridge.ask (.resultInt context v.toInt32)
    else Bridge.ask (.resultInt64 context v)
  | .real v => Bridge.ask (.resultDouble context v)
  | .text s =>
    match Buffer.ofText s with
    | .ok buffer => Bridge.ask (.resultText context buffer transient)
    | .error e => setError context e.message
  | .blob bs =>
    match Buffer.ofBytes bs with
    | .ok buffer => Bridge.ask (.resultBlob context buffer transient)
    | .error e => setError context e.message

/-- The entry point for user functions. -/
def function (callbacks : Callbacks E H) (context : Context) (count : Int32)
    (arguments : Option (List Argument)) : Bridge E H Unit := do
  match ← run callbacks context count arguments with
  | .returned (.ok value) => setResult context value
  | .returned (.error e) => setError context e.message
  | .panicked panic =>
    Bridge.report (.functionPanicked panic.describe)
    setError context s!"user function panicked: {panic.describe}"

/-- Follow the engine to its answer, serving it whenever it calls back. -/
def serve {α : Type} (callbacks : Callbacks E H) : Reply E.State α → Bridge E H α
  | .done answer state => do
    modify fun w => { w with engine := state }
    pure answer
  | .busy userData attempts state resume => do
    modify fun w => { w with engine := state }
    let code ← busy callbacks userData attempts
    let w ← get
    serve callbacks (resume code w.engine)
  | .function context count arguments state resume => do
    modify fun w => { w with engine := state }
    function callbacks context count arguments
    let w ← get
    serve callbacks (resume w.engine)

/-- Have the engine start to run a program. -/
def start (execution : Execution) : Bridge E H (Reply E.State Int32) := do
  Bridge.report (.nativeCall execution.symbol)
  Bridge.record (.began execution)
  pure (E.execute (← get).engine execution)

/-- Have the engine run a program. -/
def execute (callbacks : Callbacks E H) (execution : Execution) : Bridge E H Int32 := do
  let reply ← start execution
  let code ← serve callbacks reply
  Bridge.record (.ended execution code)
  pure code

/-- Have the engine act of its own accord. -/
def stimulate (callbacks : Callbacks E H) (stimulus : E.Stimulus) : Bridge E H E.Response := do
  let w ← get
  serve callbacks (E.stimulate w.engine stimulus)

end Upcall

/-- Run all statements of a text; their rows are not kept. -/
def Connection.executeBatch (callbacks : Callbacks E H) (conn : Connection) (sql : String) :
    Fallible E H Unit := do
  let database ← conn.live
  let text ← Fallible.ofExcept .ofCodec (CString.ofText sql)
  let code ← Fallible.lift (Upcall.execute callbacks (.exec database text))
  match ResultClass.ofCode code with
  | .ok => pure ()
  | _ => throw (.engine (← Fallible.lift (Bridge.diagnose (some database) .exec code)))

/-- Go on to the next row.  Afterwards the statement has a current row if there was one
left, and is done otherwise, also if the step failed. -/
def Statement.step (callbacks : Callbacks E H) (stmt : Statement) :
    Bridge E H (Except BindError StepOutcome × Statement) := do
  match stmt.handle with
  | none => pure (.error (.state .finalized), stmt)
  | some program =>
    let code ← Upcall.execute callbacks (.step program)
    match ResultClass.ofCode code with
    | .row => pure (.ok .row, { stmt with state := .stepping })
    | .done => pure (.ok .done, { stmt with state := .done })
    | _ =>
      let e ← Bridge.diagnose (some stmt.database) .step code
      pure (.error (.engine e), { stmt with state := .done })

end EngineBridge
