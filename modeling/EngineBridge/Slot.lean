import EngineBridge.Text.Utf8

/-!
# Callback slots

Which callback of which connection: a connection has one place for a busy handler
and one for each function name and arity.
-/

set_option autoImplicit false

namespace EngineBridge

/-- The identity of a connection: connections are counted from one, and no number is
used twice. -/
structure ConnectionId where
  number : Nat
deriving DecidableEq

namespace ConnectionId

/-- How an identity is shown in messages. -/
def display (id : ConnectionId) : String := s!"#{id.number}"

/-- How an identity is shown in descriptions. -/
def describe (id : ConnectionId) : String := s!"ConnectionId({id.number})"

end ConnectionId

/-- A name with its ASCII letters in lower case: the engine takes function names that
differ in nothing else as one. -/
def foldName (name : String) : String :=
  String.ofList (name.toList.map Char.toLower)

/-- A place for a callback. -/
inductive Slot where
  | busyHandler
  | function (name : String) (arity : Int32)
deriving DecidableEq

namespace Slot

/-- The place of a function, whatever the case of its name. -/
def ofFunction (name : String) (arity : Int32) : Slot :=
  .function (foldName name) arity

/-- How a place is shown in messages. -/
def display : Slot → String
  | .busyHandler => "busy handler"
  | .function name arity => s!"function {name}/{arity.toInt}"

end Slot

/-- The context that goes with a registered function. -/
structure FunctionKey where
  owner : ConnectionId
  slot : Slot
deriving DecidableEq

end EngineBridge
