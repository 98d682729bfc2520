import EngineBridge.Session.State

/-!
# Callbacks of a session

How the handlers and functions that steps register are made and how they run.
-/

set_option autoImplicit false

namespace EngineBridge.Session

open Native

variable {E : Engine}

/-- The connection that a closure is to own, taken out of its slot. -/
def Attempt.owned (slot : String) : Attempt E (Option Connection) := do
  pure (some (← take slot))

/-- The closure of a busy handler. -/
def Attempt.handler (body : HandlerBody E.Stimulus) :
    Attempt E (Closure (HandlerBody E.Stimulus)) := do
  let owned ← match body with
    | .own slot => owned slot
    | .invalid => throw .badRequest
    | _ => pure none
  lift (Bridge.newClosure body owned)

/-- The closure of a user function. -/
def Attempt.function (body : FunctionBody E.Stimulus) :
    Attempt E (Closure (FunctionBody E.Stimulus)) := do
  let owned ← match body with
    | .own slot => owned slot
    | .invalid => throw .badRequest
    | _ => pure none
  lift (Bridge.newClosure body owned)

/-- How a function describes one of its arguments. -/
def describeArgument : Value → String
  | .null => "null"
  | .integer v => s!"int:{v.toInt}"
  | .real x => "real:" ++ Text.hexReal x
  | .text s => "text:" ++ s
  | .blob bs => "blob:" ++ Text.hexOctets bs

/-- The sum of the integers among some values, modulo `2 ^ 64`. -/
def sumOf (values : List Value) : Int64 :=
  (values.filterMap Value.asInt64).foldl (· + ·) 0

/-- How often a closure has been invoked. -/
def invocations (token : Nat) : SessionM E Nat := do
  pure <| (← get).transcript.countP fun
    | .invoked t _ => t == token
    | _ => false

/-- Run steps by `perform`, keeping their reports. -/
def runSteps (perform : Step E.Stimulus → SessionM E (Report E.Response))
    (steps : List (Step E.Stimulus)) : SessionM E Unit :=
  steps.forM fun step => do
    let report ← perform step
    update fun s => { s with nested := report :: s.nested }

/-- How the closures of a session run, if their steps run by `perform`. -/
def callbacks (perform : Step E.Stimulus → SessionM E (Report E.Response)) :
    Callbacks E (host E) where
  handle handler attempts := do
    match handler.code with
    | .whileBelow n => pure (.returned ((attempts.toNat : Int) < n))
    | .panic p => pure (.panicked p)
    | .steps steps again =>
      runSteps perform steps
      pure (.returned again)
    | .own _ | .invalid => pure (.returned false)
  invoke function arguments := do
    let give (v : Value) : SessionM E (Outcome (Except CallbackError Value)) :=
      pure (.returned (.ok v))
    let fail (message : String) : SessionM E (Outcome (Except CallbackError Value)) :=
      pure (.returned (.error ⟨message⟩))
    match function.code with
    | .constant value => give value
    | .argument n =>
      match if n < 0 then none else arguments[n.toNat]? with
      | some value => give value
      | none => fail s!"no argument {n}"
    | .describe => give (.text (",".intercalate (arguments.map describeArgument)))
    | .count => give (.integer (Int64.ofNat arguments.length))
    | .sum => give (.integer (sumOf arguments))
    | .text =>
      match arguments.head?.bind Value.asText with
      | some s => give (.text s)
      | none => fail "expected text"
    | .kinds => give (.text ("/".intercalate (arguments.map fun v => v.columnType.describe)))
    | .error message => fail message
    | .panic p => pure (.panicked p)
    | .runs => give (.integer (Int64.ofNat (← invocations function.token)))
    | .steps steps =>
      runSteps perform steps
      give (arguments.head?.getD .null)
    | .own _ | .invalid =>
      match function.owned with
      | none => give .null
      | some conn =>
        match ← conn.changes.run with
        | .ok n => give (.ofInt32 n)
        | .error e => fail e.message

end EngineBridge.Session
