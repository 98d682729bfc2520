import EngineBridge.Policy

/-!
# Closing connections

Closing a connection takes its callbacks out of the registry and then lets their
closures go.  A closure may own a connection, which is closed when the closure goes,
and so on; every step into a connection takes entries out of the registry, so the size
of the registry bounds how far this can reach.
-/

set_option autoImplicit false

namespace EngineBridge

open Native

variable {E : Engine} {H : Host}

namespace Connection

/-- Close a connection, letting its closures go by `dispose`.  A connection that the
engine refuses to close stays as it was. -/
def closeWith (dispose : List (Registration H) → Bridge E H Unit) (conn : Connection) :
    Bridge E H (Except BindError Unit × Connection) := do
  match conn.database with
  | .error e => pure (.error (.state e), conn)
  | .ok database =>
    let code ← Bridge.call (.closeV2 database)
    if code = NamedCode.ok.value then
      Bridge.disarm conn.id
      let released ← modifyGet fun w =>
        (w.registry.ownedBy conn.id, { w with registry := w.registry.eraseOwner conn.id })
      dispose released
      Bridge.report (.closed conn.id released.length)
      pure (.ok (), { conn with state := .closed, handle := none })
    else
      let e ← Bridge.diagnose (some database) .closeV2 code
      pure (.error (.engine e), conn)

/-- Let a connection go: one that is still open is closed, and a failure is only
reported. -/
def dropWith (dispose : List (Registration H) → Bridge E H Unit) (conn : Connection) :
    Bridge E H Unit := do
  if conn.state = .opened then
    match (← closeWith dispose conn).1 with
    | .ok _ => pure ()
    | .error e => Bridge.report (.closeFailed conn.id e)

end Connection

/-- Let closures go, reaching at most `depth` connections deep. -/
def Bridge.disposeTo : Nat → List (Registration H) → Bridge E H Unit
  | 0, _ => pure ()
  | depth + 1, registrations =>
    registrations.forM fun r =>
      match r.owned with
      | none => pure ()
      | some conn => conn.dropWith (disposeTo depth)

/-- Let closures go that are no longer in the registry, and the connections they own. -/
def Bridge.dispose (registrations : List (Registration H)) : Bridge E H Unit := do
  let w ← get
  disposeTo (w.registry.size + 1) registrations

namespace Connection

/-- Close a connection. -/
def close (conn : Connection) : Bridge E H (Except BindError Unit × Connection) :=
  conn.closeWith Bridge.dispose

/-- Let a connection go. -/
def drop (conn : Connection) : Bridge E H Unit :=
  conn.dropWith Bridge.dispose

end Connection

namespace Bridge

/-- Let a closure go that another one has replaced in its slot, if there was one. -/
def supersede (key : FunctionKey) : Option (Registration H) → Bridge E H Unit
  | none => pure ()
  | some r => do
    report (.replaced key.slot key.owner)
    dispose [r]

/-- Put a closure into the registry, letting another one go that was in its place. -/
def register (key : FunctionKey) (registration : Registration H) : Bridge E H Unit := do
  let replaced ← modifyGet fun w =>
    (w.registry.find? key, { w with registry := w.registry.insert key registration })
  supersede key replaced

/-- Take a closure out of the registry and let it go. -/
def release (key : FunctionKey) : Bridge E H Unit := do
  let removed ← modifyGet fun w =>
    (w.registry.find? key, { w with registry := w.registry.erase key })
  dispose removed.toList

end Bridge

end EngineBridge
