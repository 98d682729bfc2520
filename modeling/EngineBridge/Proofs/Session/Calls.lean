import EngineBridge.Proofs.Session.Invariants
import EngineBridge.Scripted.Engine

/-!
# The calls of a session

Whatever the steps of a session are, whatever its callbacks do and whatever the engine
answers, no call of the session names an object that the engine has not handed out, or one
that is gone: a connection is gone once the engine has agreed to close it or was told to on
the way to a failure to open it, and a statement once it has been finalized.
-/

set_option autoImplicit false

namespace EngineBridge.Session

open Native

variable {E : Engine}

/-- All calls of a session are lawful, from its first step to its end, if the engine never
hands out an object twice. -/
theorem session_calls_lawful (depth : Nat) (engine : E.State) (steps : List (Step E.Stimulus))
    (faithful : Faithful ((session depth steps).run (begin E engine)).2.transcript) :
    Throughout Lawful ((session depth steps).run (begin E engine)).2.transcript := by
  have turns := session_turns depth engine steps
  have abiding := Turn.preserves (fun _ _ => Throughout.before) (fun _ _ => Turn.abiding) turns
    faithful.fresh (begin_abiding E engine)
  exact abiding.tracked.lawful

/-- A session that interrupts a connection after it has been closed, and closes one while a
statement of it is there. -/
def hastySteps : List (Step Scripted.engine.Stimulus) :=
  [({ connection := some "a" }, .connect "x" {}),
   ({ connection := some "a" }, .keepInterruptHandle "i"),
   ({ connection := some "a", statement := some "s" }, .prepare "q"),
   ({ statement := some "s" }, .step),
   ({ connection := some "a" }, .close),
   ({}, .interruptBy "i"),
   ({ connection := some "b" }, .connect "x" {})]

/-- The transcript of the hasty session. -/
def hastyTranscript : List Entry :=
  ((session 1 hastySteps).run (begin Scripted.engine {})).2.transcript

/-- All calls of the hasty session are lawful. -/
theorem hasty_calls_lawful : Throughout Lawful hastyTranscript := by
  have faithful : Faithful hastyTranscript :=
    ⟨by decide +kernel, by decide +kernel, by decide +kernel⟩
  exact session_calls_lawful (E := Scripted.engine) 1 {} hastySteps faithful

end EngineBridge.Session
