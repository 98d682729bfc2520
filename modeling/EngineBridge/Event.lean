import EngineBridge.Error
import EngineBridge.Slot

/-!
# Events

What the library reports while it works, each with a level and a wording.
-/

set_option autoImplicit false

namespace EngineBridge

/-- How much an event matters. -/
inductive Level where
  | warn
  | debug
  | trace
deriving DecidableEq

namespace Level

/-- The levels from the most to the least severe. -/
def rank : Level → Nat
  | .warn => 0
  | .debug => 1
  | .trace => 2

/-- Whether a listener at level `threshold` hears of events at a level. -/
def reaches (level threshold : Level) : Bool := level.rank ≤ threshold.rank

/-- The name of a level. -/
def name : Level → String
  | .warn => "WARN"
  | .debug => "DEBUG"
  | .trace => "TRACE"

end Level

/-- Something that the library reports. -/
inductive Event where
  /-- An engine was installed that has so many exports. -/
  | installed (source : String) (symbols : Nat)
  /-- The built-in engine was installed because there was none yet. -/
  | installedDefault (source : String)
  /-- A native call is about to be made. -/
  | nativeCall (symbol : Symbol)
  /-- A native call failed. -/
  | callFailed (symbol : Symbol) (code : Int32) (message : String)
  | opened (id : ConnectionId) (path : String)
  | closed (id : ConnectionId) (released : Nat)
  /-- A connection went out of use and could not be closed. -/
  | closeFailed (id : ConnectionId) (cause : BindError)
  /-- Only the first statement of a text is prepared; this much follows it. -/
  | restIgnored (rest : String)
  | prepared (id : ConnectionId) (sql : String)
  | finalizing (sql : String)
  /-- A statement went out of use and finalizing it failed. -/
  | finalizeFailed (cause : BindError)
  /-- A closure took the place of another one. -/
  | replaced (slot : Slot) (id : ConnectionId)
  | handlerPanicked (id : ConnectionId) (message : String)
  | functionPanicked (message : String)
deriving DecidableEq

namespace Event

/-- The level of an event. -/
def level : Event → Level
  | .nativeCall .. => .trace
  | .closeFailed .. | .handlerPanicked .. | .functionPanicked .. => .warn
  | _ => .debug

/-- The wording of an event. -/
def message : Event → String
  | .installed source symbols => s!"Installed native binding from {source} ({symbols} symbols)"
  | .installedDefault source => s!"Installed default native binding from {source}"
  | .nativeCall symbol => s!"native call {symbol.name}"
  | .callFailed symbol code message => s!"{symbol.name} failed with code {code.toInt}: {message}"
  | .opened id path => s!"Opened connection {id.display} to {path}"
  | .closed id released =>
    s!"Closed connection {id.display} ({released} callback registrations released)"
  | .closeFailed id cause => s!"Failed to close connection {id.display} on drop: {cause.message}"
  | .restIgnored rest => s!"Ignoring SQL after the first statement: {rest}"
  | .prepared id sql => s!"Prepared statement on connection {id.display}: {sql}"
  | .finalizing sql => s!"Finalizing statement: {sql}"
  | .finalizeFailed cause => s!"Finalize on drop reported: {cause.message}"
  | .replaced slot id => s!"Replaced {slot.display} on connection {id.display}"
  | .handlerPanicked id message => s!"Busy handler on connection {id.display} panicked: {message}"
  | .functionPanicked message => s!"User function panicked: {message}"

end Event

end EngineBridge
