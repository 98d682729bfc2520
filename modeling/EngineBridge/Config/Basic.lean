import EngineBridge.Connection.Open

/-!
# Configurations

Where the engine comes from and how connections are opened.
-/

set_option autoImplicit false

namespace EngineBridge

/-- Where the engine comes from. -/
inductive LibrarySource where
  /-- The engine that is built in. -/
  | bundled
  /-- The engine of the platform, under its usual names. -/
  | system
  /-- A library at a path. -/
  | path (path : String)
deriving DecidableEq

/-- A configuration. -/
structure Config where
  library : LibrarySource := .bundled
  openOptions : OpenOptions := {}
deriving DecidableEq

end EngineBridge
