import EngineBridge.Config.Reader
import EngineBridge.Library.Installation
import EngineBridge.Scripted.Engine
import EngineBridge.Connection.Operations

/-!
# The life of a process

What a process does about its engine: installing it, asking for it, and using it for a
connection.
-/

set_option autoImplicit false

namespace EngineBridge

/-- Install the engine of a configuration, given as JSON. -/
def Installation.installConfig (loader : Loader) (json : String) (i : Installation) :
    Except SetupError Binding × Installation :=
  match Config.ofJson json with
  | .error e => (.error (.config e), i)
  | .ok config =>
    match i.install loader config.library with
    | (.ok b, i) => (.ok b, i)
    | (.error e, i) => (.error (.operation (.infrastructure e)), i)

/-- Something that a process does. -/
inductive StartupStep where
  | binding
  | install (library : LibrarySource)
  | installConfig (json : String)
  /-- Create a connection, open it in memory and close it. -/
  | connection
  /-- Something that makes no sense. -/
  | invalid

/-- What is seen of it. -/
inductive StartupReport where
  /-- The name of the engine. -/
  | source (name : String)
  /-- The states of the connection on its way. -/
  | states (states : List ConnectionState)
  | infrastructure (cause : InfrastructureError)
  | setup (cause : SetupError)
  | badRequest
deriving DecidableEq

/-- What becomes of a process that installs engines and makes connections. -/
structure Process where
  installation : Installation := {}
  /-- The table that each connection's calls go through, that of the latest one first. -/
  tables : List (SymbolTable Address) := []

namespace Startup

/-- A process that has no state of its own and registers no callbacks. -/
@[reducible] def host : Host where
  State := Unit
  Handler := Empty
  Function := Empty

/-- The states of a connection that is created, opened in memory and closed. -/
def visit {E : Native.Engine} : Bridge E host (List ConnectionState) := do
  let created ← Connection.create
  let (_, opened) ← created.openWith ":memory:" {}
  let (_, closed) ← opened.close
  pure [created.state, opened.state, closed.state]

/-- The world of such a process, with a script for its engine. -/
def world (script : Scripted.Script) : World Scripted.engine host :=
  { engine := { script }, host := () }

/-- Do one thing. -/
def perform (loader : Loader) (p : Process) : StartupStep → StartupReport × Process
  | .binding =>
    match p.installation.binding loader with
    | (.ok b, i) => (.source b.source, { p with installation := i })
    | (.error e, i) => (.infrastructure e, { p with installation := i })
  | .install library =>
    match p.installation.install loader library with
    | (.ok b, i) => (.source b.source, { p with installation := i })
    | (.error e, i) => (.infrastructure e, { p with installation := i })
  | .installConfig json =>
    match p.installation.installConfig loader json with
    | (.ok b, i) => (.source b.source, { p with installation := i })
    | (.error e, i) => (.setup e, { p with installation := i })
  | .connection =>
    match p.installation.binding loader with
    | (.error e, i) => (.infrastructure e, { p with installation := i })
    | (.ok b, i) => (.states (visit.run (world {})).1, ⟨i, b.table :: p.tables⟩)
  | .invalid => (.badRequest, p)

/-- Do one thing after the other, each with the libraries that there are at that time. -/
def course (p : Process) : List (Loader × StartupStep) → List StartupReport × Process
  | [] => ([], p)
  | (loader, step) :: rest =>
    let (report, next) := perform loader p step
    let (reports, last) := course next rest
    (report :: reports, last)

/-- Do one thing after the other, with the same libraries all along. -/
def run (loader : Loader) (p : Process) (steps : List StartupStep) : List StartupReport :=
  (course p (steps.map (loader, ·))).1

end Startup

end EngineBridge
