import EngineBridge.World

/-!
# Views of a transcript

The native calls, the events and the runs of busy handlers among the things that
happened.
-/

set_option autoImplicit false

namespace EngineBridge.Transcript

open Native

/-- The native call that an entry stands for: its export and its arguments. -/
def call? : Entry → Option (Symbol × List Operand)
  | .called call _ => some (call.symbol, call.operands)
  | .began execution => some (execution.symbol, execution.operands)
  | _ => none

/-- The event that an entry stands for. -/
def event? : Entry → Option Event
  | .reported event => some event
  | _ => none

/-- The attempts that a busy handler was told of, if an entry stands for its run. -/
def attempts? : Entry → Option UInt32
  | .handled _ attempts => some attempts
  | _ => none

/-- The native calls, in order. -/
def calls (entries : List Entry) : List (Symbol × List Operand) :=
  entries.filterMap call?

/-- The events that a listener at a level hears of, in order. -/
def events (threshold : Level) (entries : List Entry) : List Event :=
  (entries.filterMap event?).filter (·.level.reaches threshold)

/-- What busy handlers were told, in order. -/
def attempts (entries : List Entry) : List UInt32 :=
  entries.filterMap attempts?

end EngineBridge.Transcript
