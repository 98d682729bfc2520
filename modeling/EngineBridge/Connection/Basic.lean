import EngineBridge.Error
import EngineBridge.Native.Call
import EngineBridge.Text.Quoted

/-!
# Connections

A connection goes from unopened over open to closed, and never back.
-/

set_option autoImplicit false

namespace EngineBridge

open Native

/-- How far a connection has come. -/
inductive ConnectionState where
  | unopened
  | opened
  | closed
deriving DecidableEq

/-- How a connection state is shown. -/
def ConnectionState.describe : ConnectionState → String
  | .unopened => "Unopened"
  | .opened => "Open"
  | .closed => "Closed"

/-- A connection to a database. -/
structure Connection where
  id : ConnectionId
  state : ConnectionState := .unopened
  /-- The engine's object, while the connection is open. -/
  handle : Option Database := none
  /-- Where the connection was opened to, and empty before that. -/
  path : String := ""
deriving DecidableEq

namespace Connection

/-- The engine's object, or why there is none. -/
def database (conn : Connection) : Except StateError Database :=
  match conn.state, conn.handle with
  | .opened, some database => .ok database
  | .closed, _ => .error .closed
  | _, _ => .error .notOpen

/-- A connection has an object to work with exactly if it is open. -/
theorem database_eq_ok_iff {conn : Connection} {d : Database} :
    conn.database = .ok d ↔ conn.state = .opened ∧ conn.handle = some d := by
  unfold database
  split <;> simp_all

/-- The object that an open connection works with is its handle. -/
theorem handle_of_database {conn : Connection} {d : Database} (h : conn.database = .ok d) :
    conn.handle = some d :=
  (database_eq_ok_iff.mp h).2

/-- How a connection is shown. -/
def describe (conn : Connection) : String :=
  "Connection \x7b id: " ++ conn.id.describe ++ ", state: " ++ conn.state.describe ++
    ", path: " ++ Text.quote conn.path ++ " \x7d"

end Connection

end EngineBridge
