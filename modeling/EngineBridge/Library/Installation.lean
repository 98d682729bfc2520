import EngineBridge.Config.Basic
import EngineBridge.Event
import EngineBridge.Json.Lexical
import EngineBridge.Library.Source

/-!
# The installed engine

A process uses one engine from the first use on.  It may be installed before that; if it is
not, the built-in engine is.  An attempt that fails leaves nothing behind.
-/

set_option autoImplicit false

namespace EngineBridge

/-- How libraries are loaded: the exports of the library at a path, or why there are none. -/
abbrev Loader := String → Except String (SymbolSource Address)

/-- The usual names of the engine on the platform, in the order in which they are tried. -/
def defaultNames : List String := ["libsqlite3.so.0", "libsqlite3.so"]

namespace Loader

/-- Load a library. -/
def load (loader : Loader) (path : String) :
    Except InfrastructureError (SymbolSource Address) :=
  match loader path with
  | .ok source => .ok { source with description := path }
  | .error reason => .error (.libraryLoad path reason)

/-- Load the first library of a list that can be loaded, or give the reasons why none
can. -/
def loadFirst (loader : Loader) : List String → Except (List String) (SymbolSource Address)
  | [] => .error []
  | name :: rest =>
    match loader.load name with
    | .ok source => .ok source
    | .error e =>
      match loadFirst loader rest with
      | .ok source => .ok source
      | .error reasons => .error (e.message :: reasons)

/-- Load the engine of the platform. -/
def loadDefault (loader : Loader) : Except InfrastructureError (SymbolSource Address) :=
  match loader.loadFirst defaultNames with
  | .ok source => .ok source
  | .error reasons =>
    .error (.libraryLoad (", ".intercalate defaultNames) ("; ".intercalate reasons))

/-- The symbols of a library source. -/
def source (loader : Loader) :
    LibrarySource → Except InfrastructureError (SymbolSource Address)
  | .bundled => .ok bundledEngine
  | .system => loader.loadDefault
  | .path path => loader.load path

end Loader

/-- An engine with all its exports resolved. -/
structure Binding where
  /-- The name of the library. -/
  source : String
  table : SymbolTable Address

namespace Binding

/-- Load an engine and resolve its exports. -/
def load (loader : Loader) (library : LibrarySource) : Except InfrastructureError Binding := do
  let source ← loader.source library
  let table ← SymbolTable.resolve source
  .ok ⟨source.description, table⟩

/-- How a binding is shown. -/
def describe (b : Binding) : String :=
  "NativeBinding \x7b source: " ++ Text.quote b.source ++ ", symbols: " ++
    toString b.table.entries.length ++ " \x7d"

end Binding

/-- How a library is shown. -/
def describeLibrary (source : SymbolSource Address) : String :=
  "DynamicLibrary \x7b name: " ++ Text.quote source.description ++ " \x7d"

/-- The engine that a process uses, if it has one yet, and what was reported about it. -/
structure Installation where
  installed : Option Binding := none
  events : List Event := []

namespace Installation

/-- Install an engine, unless there is one. -/
def install (loader : Loader) (library : LibrarySource) (i : Installation) :
    Except InfrastructureError Binding × Installation :=
  match i.installed with
  | some existing => (.error (.alreadyInstalled existing.source), i)
  | none =>
    match Binding.load loader library with
    | .error e => (.error e, i)
    | .ok b =>
      (.ok b, ⟨some b, i.events ++ [.installed b.source b.table.entries.length]⟩)

/-- The engine to use; the built-in one is installed if there is none. -/
def binding (loader : Loader) (i : Installation) :
    Except InfrastructureError Binding × Installation :=
  match i.installed with
  | some existing => (.ok existing, i)
  | none =>
    match Binding.load loader .bundled with
    | .error e => (.error e, i)
    | .ok b => (.ok b, ⟨some b, i.events ++ [.installedDefault b.source]⟩)

end Installation

/-- Why a configured engine could not be installed. -/
inductive SetupError where
  /-- The configuration could not be read. -/
  | config (cause : Json.Failure)
  | operation (cause : BindError)
deriving DecidableEq

end EngineBridge
