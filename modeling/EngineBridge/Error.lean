import EngineBridge.Code
import EngineBridge.Codec
import EngineBridge.Symbol

/-!
# Errors

The ways in which an operation can fail: the plumbing of a native call, a result
code of the engine, or the state of the handle it was asked of.
-/

set_option autoImplicit false

namespace EngineBridge

/-- A result code other than success, with the engine's own text for it. -/
structure EngineError where
  code : Int32
  message : String
deriving DecidableEq

namespace EngineError

/-- Whether a lock was in the way. -/
def isBusy (e : EngineError) : Bool := primaryCode e.code == NamedCode.busy.value

/-- Whether the run was interrupted. -/
def isInterrupted (e : EngineError) : Bool := primaryCode e.code == NamedCode.interrupt.value

/-- The wording of an engine error. -/
def describe (e : EngineError) : String := s!"engine error {e.code.toInt}: {e.message}"

end EngineError

/-- Failures of the machinery between a program and the engine. -/
inductive InfrastructureError where
  /-- A library could not be loaded. -/
  | libraryLoad (library : String) (reason : String)
  /-- A library lacks an export. -/
  | missingSymbol (symbol : Symbol) (library : String)
  /-- A binding is in place already. -/
  | alreadyInstalled (installed : String)
  /-- A native call returned null where it must not. -/
  | nullReturn (operation : Symbol)
  /-- A value could not cross the boundary. -/
  | marshal (cause : CodecError)
deriving DecidableEq

/-- The wording of an infrastructure error. -/
def InfrastructureError.message : InfrastructureError → String
  | .libraryLoad library reason => s!"failed to load native library '{library}': {reason}"
  | .missingSymbol symbol library => s!"symbol '{symbol.name}' not found in '{library}'"
  | .alreadyInstalled installed => s!"native binding already installed from '{installed}'"
  | .nullReturn operation => s!"'{operation.name}' returned a null pointer"
  | .marshal cause => s!"marshalling failed: {cause.message}"

/-- What the state of a handle rules out. -/
inductive StateError where
  /-- The connection is open already. -/
  | alreadyOpen (path : String)
  /-- The connection was never opened. -/
  | notOpen
  /-- The connection is closed. -/
  | closed
  /-- The statement is finalized. -/
  | finalized
  /-- The statement has no current row. -/
  | noCurrentRow
  /-- The statement has no such column. -/
  | columnOutOfRange (index : Int32) (count : Int32)
  /-- The text holds no statement. -/
  | noStatement
deriving DecidableEq

/-- The wording of a state error. -/
def StateError.message : StateError → String
  | .alreadyOpen path => s!"connection to '{path}' is already open"
  | .notOpen => "connection has not been opened"
  | .closed => "connection is closed"
  | .finalized => "statement has already been finalized"
  | .noCurrentRow => "statement has no current row"
  | .columnOutOfRange index count =>
    s!"column index {index.toInt} out of range (statement has {count.toInt} columns)"
  | .noStatement => "source text contains no SQL statement"

/-- Why an operation failed. -/
inductive BindError where
  | infrastructure (cause : InfrastructureError)
  | engine (cause : EngineError)
  | state (cause : StateError)
deriving DecidableEq

namespace BindError

/-- The wording of a failure. -/
def message : BindError → String
  | .infrastructure cause => s!"native infrastructure failure: {cause.message}"
  | .engine cause => cause.describe
  | .state cause => s!"invalid handle state: {cause.message}"

/-- The wording of the cause by itself. -/
def causeMessage : BindError → String
  | .infrastructure cause => cause.message
  | .engine cause => cause.describe
  | .state cause => cause.message

/-- The engine error, if the failure is one. -/
def asEngine : BindError → Option EngineError
  | .engine cause => some cause
  | _ => none

/-- The state error, if the failure is one. -/
def asState : BindError → Option StateError
  | .state cause => some cause
  | _ => none

/-- A value that could not cross the boundary, as a failure. -/
def ofCodec (cause : CodecError) : BindError := .infrastructure (.marshal cause)

end BindError

/-- The failure that a user function reports. -/
structure CallbackError where
  message : String
deriving DecidableEq

end EngineBridge
