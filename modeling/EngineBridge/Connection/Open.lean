import EngineBridge.Connection.Close
import EngineBridge.Flags

/-!
# Opening connections

A connection is opened as a whole or stays as it was: an object that the engine made on
the way to a failure is closed again before the failure is reported.
-/

set_option autoImplicit false

namespace EngineBridge

open Native

variable {E : Engine} {H : Host}

/-- How a connection is to be opened. -/
structure OpenOptions where
  flags : OpenFlags := .standard
  /-- The file system module, if not the default one. -/
  vfs : Option String := none
  /-- How long to wait for locks, if at all. -/
  busyTimeout : Option UInt32 := none
deriving DecidableEq

/-- A number of milliseconds as the engine takes it: the longest wait that it can be told
stands for all longer ones. -/
def nativeMilliseconds (ms : UInt32) : Int32 :=
  if ms ≤ 2147483647 then ms.toInt32 else 2147483647

namespace Connection

/-- A connection that is not open yet. -/
def create : Bridge E H Connection := do
  let id ← Bridge.newConnection
  pure { id }

/-- The strings that go with a request to open: path first. -/
def openStrings (path : String) (options : OpenOptions) :
    Except CodecError (CString × Option CString) := do
  let file ← CString.ofText path
  match options.vfs with
  | none => pure (file, none)
  | some vfs => pure (file, some (← CString.ofText vfs))

/-- Have the engine open a database.  A failure is diagnosed by the object that was made,
which is then closed, or by its code if none was made. -/
def openDatabase (file : CString) (flags : OpenFlags) (vfs : Option CString) :
    Fallible E H Database := do
  let answer ← Fallible.lift (Bridge.call (.openV2 file flags.bits vfs))
  if answer.code = NamedCode.ok.value then
    match answer.database with
    | some database => pure database
    | none => throw (.infrastructure (.nullReturn .openV2))
  else
    let e ← Fallible.lift (Bridge.diagnose answer.database .openV2 answer.code)
    match answer.database with
    | none => throw (.engine e)
    | some database =>
      let _ ← Fallible.lift (Bridge.call (.closeV2 database))
      throw (.engine e)

/-- Set the busy timeout of a new object; if that fails the object is closed. -/
def applyTimeout (database : Database) (ms : UInt32) : Fallible E H Unit :=
  tryCatch
    (Fallible.succeed (some database) (.busyTimeout database (nativeMilliseconds ms)) (·))
    fun e => do
      let _ ← Fallible.lift (Bridge.call (.closeV2 database))
      throw e

/-- The object for a connection that may be opened. -/
def acquire (conn : Connection) (path : String) (options : OpenOptions) :
    Fallible E H Database := do
  match conn.state with
  | .opened => throw (.state (.alreadyOpen conn.path))
  | .closed => throw (.state .closed)
  | .unopened =>
    let (file, vfs) ← Fallible.ofExcept .ofCodec (openStrings path options)
    let database ← openDatabase file options.flags vfs
    match options.busyTimeout with
    | none => pure ()
    | some ms => applyTimeout database ms
    pure database

/-- Open a connection. -/
def openWith (conn : Connection) (path : String) (options : OpenOptions) :
    Bridge E H (Except BindError Unit × Connection) := do
  match ← (conn.acquire path options).run with
  | .error e => pure (.error e, conn)
  | .ok database =>
    Bridge.arm conn.id database
    Bridge.report (.opened conn.id path)
    pure (.ok (), { conn with state := .opened, handle := some database, path := path })

/-- Create a connection and open it; on failure there is no connection. -/
def connectWith (path : String) (options : OpenOptions) : Fallible E H Connection := do
  let conn ← Fallible.lift create
  match ← Fallible.lift (conn.openWith path options) with
  | (.ok _, conn) => pure conn
  | (.error e, conn) =>
    Fallible.lift conn.drop
    throw e

end Connection

end EngineBridge
