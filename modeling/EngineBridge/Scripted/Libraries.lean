import EngineBridge.Library.Installation

/-!
# The libraries of the scripted platform

The scripted engine under its own name and under that of the platform's engine, and a
library that lacks most exports.
-/

set_option autoImplicit false

namespace EngineBridge.Scripted

/-- The name of the scripted engine. -/
def engineName : String := "libscripted_engine.so"

/-- The exports of the scripted engine: those that are used, and one to control it. -/
def engineExports : List String := Symbol.names ++ ["engine_control"]

/-- The libraries that can be loaded, with their exports. -/
def libraries : List (String × List String) :=
  [(engineName, engineExports),
   ("libsqlite3.so", engineExports),
   ("libpartial_engine.so",
     [Symbol.openV2.name, Symbol.closeV2.name, Symbol.errmsg.name, Symbol.errstr.name])]

/-- Load a library by its name. -/
def loader : Loader := fun path =>
  match libraries.lookup path with
  | some exports => .ok (.ofExports path exports)
  | none => .error "no such library"

/-- The state of a process that has installed the scripted engine. -/
def installed : Installation :=
  (({} : Installation).install loader (.path engineName)).2

end EngineBridge.Scripted
