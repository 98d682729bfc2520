import EngineBridge.Connection.Open
import EngineBridge.Statement
import EngineBridge.Text.Blank

/-!
# Operations on connections

Preparing statements, interrupting, installing callbacks and asking for this and that.
Each operation asks for the state of the connection first and does nothing else if the
connection is not open.

The engine's table of functions and the registry are kept in step: a function enters the
registry once the engine has accepted it, and leaves it once the engine has let it go.
-/

set_option autoImplicit false

namespace EngineBridge

open Native

variable {E : Engine} {H : Host}

namespace Connection

/-- The engine's object of an open connection. -/
def live (conn : Connection) : Fallible E H Database :=
  Fallible.ofExcept .state conn.database

/-- A text divided into the part that was prepared and the rest, given where the engine
says the rest begins.  Without such an offset, or with one that is out of range or inside
a character, all of the text counts as prepared. -/
def divide (sql : String) (tail : Option Int) : String × String :=
  let length := (Utf8.encode sql).length
  let used := match tail with
    | none => length
    | some offset => if offset < 0 then length else min offset.toNat length
  match Utf8.splitAt used sql.toList with
  | some (first, rest) => (String.ofList first, String.ofList rest)
  | none => (sql, "")

/-- Prepare the first statement of a text. -/
def prepare (conn : Connection) (sql : String) : Fallible E H Statement := do
  let database ← conn.live
  let text ← Fallible.ofExcept .ofCodec (CString.ofText sql)
  let size ← Fallible.ofExcept .ofCodec <|
    if text.memory.length ≤ maxLength then .ok (Int32.ofNat text.memory.length)
    else .error (.tooLarge (Utf8.encode sql).length)
  let answer ← Fallible.checked (some database) (.prepareV2 database text size) (·.code)
  match answer.program with
  | none => throw (.state .noStatement)
  | some program =>
    let (first, rest) := divide sql answer.tail
    let ignored := Text.trim rest
    if ignored ≠ "" then Fallible.lift (Bridge.report (.restIgnored ignored))
    Fallible.lift (Bridge.report (.prepared conn.id first))
    pure ⟨conn.id, database, some program, .prepared, first⟩

/-- Ask running statements to stop.  Nothing happens unless the connection is open. -/
def interrupt (id : ConnectionId) : Bridge E H Unit := do
  match (← get).target id with
  | none => pure ()
  | some database => Bridge.call (.interrupt database)

/-- How an interrupt handle of a connection is shown. -/
def describeHandle (id : ConnectionId) : Bridge E H String := do
  let armed := ((← get).target id).isSome
  pure ("InterruptHandle \x7b armed: " ++ toString armed ++ " \x7d")

/-- Set the busy timeout; there is no busy handler after that. -/
def setBusyTimeout (conn : Connection) (ms : UInt32) : Fallible E H Unit := do
  let database ← conn.live
  Fallible.succeed (some database) (.busyTimeout database (nativeMilliseconds ms)) (·)
  Fallible.lift (Bridge.release ⟨conn.id, .busyHandler⟩)

/-- Wait for locks up to a time, instead of asking a busy handler. -/
def busyTimeout (conn : Connection) (ms : UInt32) : Fallible E H Unit :=
  Fallible.noted conn.id .busyTimeout (conn.setBusyTimeout ms)

/-- Put a busy handler into its slot and have the engine ask it.  The handler is in the
registry before the engine knows of it, and leaves it again if the engine refuses. -/
def installBusyHandler (conn : Connection) (handler : Closure H.Handler) :
    Fallible E H Unit := do
  let key : FunctionKey := ⟨conn.id, .busyHandler⟩
  match conn.database with
  | .error e =>
    Fallible.lift (Bridge.dispose [.busy handler])
    throw (.state e)
  | .ok database =>
    Fallible.lift (Bridge.register key (.busy handler))
    tryCatch
      (Fallible.succeed (some database) (.busyHandler database true conn.id.number) (·))
      fun e => do
        Fallible.lift (Bridge.release key)
        throw e

/-- Install a busy handler, in place of any other. -/
def registerBusyHandler (conn : Connection) (handler : Closure H.Handler) :
    Fallible E H Unit :=
  Fallible.noted conn.id (.registerBusyHandler handler.token) (conn.installBusyHandler handler)

/-- Have the engine ask no busy handler any more, and empty its slot. -/
def uninstallBusyHandler (conn : Connection) : Fallible E H Unit := do
  let database ← conn.live
  Fallible.succeed (some database) (.busyHandler database false 0) (·)
  Fallible.lift (Bridge.release ⟨conn.id, .busyHandler⟩)

/-- Remove the busy handler. -/
def clearBusyHandler (conn : Connection) : Fallible E H Unit :=
  Fallible.noted conn.id .clearBusyHandler conn.uninstallBusyHandler

/-- Have the engine accept a function, whose context is the slot of its closure. -/
def announceFunction (conn : Connection) (name : String) (arity : Int32)
    (flags : FunctionFlags) : Fallible E H Unit := do
  let database ← conn.live
  let text ← Fallible.ofExcept .ofCodec (CString.ofText name)
  let key : FunctionKey := ⟨conn.id, .ofFunction name arity⟩
  let call : Call := .createFunctionV2 database text arity flags.textRepresentation (some key)
    true false false true
  Fallible.succeed (some database) call (·)

/-- Have the engine accept a function, and then put its closure into its slot; a closure
that is not accepted goes. -/
def installFunction (conn : Connection) (name : String) (arity : Int32) (flags : FunctionFlags)
    (function : Closure H.Function) : Fallible E H Unit := do
  tryCatch (conn.announceFunction name arity flags) fun e => do
    Fallible.lift (Bridge.dispose [.function function])
    throw e
  Fallible.lift (Bridge.register ⟨conn.id, .ofFunction name arity⟩ (.function function))

/-- Register a user function, in place of any other with its name and arity; an arity of
minus one stands for any number of arguments. -/
def registerFunction (conn : Connection) (name : String) (arity : Int32) (flags : FunctionFlags)
    (function : Closure H.Function) : Fallible E H Unit :=
  Fallible.noted conn.id (.registerFunction name arity function.token)
    (conn.installFunction name arity flags function)

/-- Have the engine drop a function, and then empty its slot. -/
def uninstallFunction (conn : Connection) (name : String) (arity : Int32) :
    Fallible E H Unit := do
  let database ← conn.live
  let text ← Fallible.ofExcept .ofCodec (CString.ofText name)
  let call : Call := .createFunctionV2 database text arity
    FunctionFlags.empty.textRepresentation none false false false false
  Fallible.succeed (some database) call (·)
  Fallible.lift (Bridge.release ⟨conn.id, .ofFunction name arity⟩)

/-- Remove a user function. -/
def removeFunction (conn : Connection) (name : String) (arity : Int32) : Fallible E H Unit :=
  Fallible.noted conn.id (.removeFunction name arity) (conn.uninstallFunction name arity)

/-- The engine's last message for the connection. -/
def errmsg (conn : Connection) : Fallible E H String := do
  let database ← conn.live
  let text ← Fallible.lift (Bridge.call (.errmsg database))
  Fallible.requiredString .errmsg text

/-- The rows changed by the last statement that changes rows. -/
def changes (conn : Connection) : Fallible E H Int32 := do
  let database ← conn.live
  Fallible.lift (Bridge.call (.changes database))

/-- The rows changed since the connection was opened. -/
def totalChanges (conn : Connection) : Fallible E H Int32 := do
  let database ← conn.live
  Fallible.lift (Bridge.call (.totalChanges database))

/-- Set a limit and give its previous value; a negative value changes nothing. -/
def limit (conn : Connection) (limit : Limit) (value : Int32) : Fallible E H Int32 := do
  let database ← conn.live
  Fallible.lift (Bridge.call (.limit database limit.number value))

/-- Allow the loading of extensions, or forbid it. -/
def enableLoadExtension (conn : Connection) (on : Bool) : Fallible E H Unit := do
  let database ← conn.live
  Fallible.succeed (some database) (.enableLoadExtension database on) (·)

/-- How many callbacks a connection has. -/
def callbackCount (conn : Connection) : Bridge E H Nat := do
  pure ((← get).registry.count conn.id)

end Connection

namespace Library

/-- The version of the engine. -/
def version : Fallible E H String := do
  let text ← Fallible.lift (Bridge.call .libversion)
  Fallible.requiredString .libversion text

/-- Share caches between connections opened from now on, or stop that. -/
def enableSharedCache (on : Bool) : Fallible E H Unit :=
  Fallible.succeed none (.enableSharedCache on) (·)

end Library

end EngineBridge
