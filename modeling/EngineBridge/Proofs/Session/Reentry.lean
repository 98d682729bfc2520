import EngineBridge.Proofs.Reentry.Performing
import EngineBridge.Proofs.Session.BusyHandler
import EngineBridge.Proofs.Session.Reaching
import EngineBridge.Scripted.Engine

/-!
# Upcalls that re-enter

A closure that the engine calls back may run operations, and these may call the engine, which may
call back again, and so on.  Meanwhile the slot of the closure can be emptied or filled anew.

It makes no difference to the closure that runs: an upcall looks into its slot once, when it
starts, and the engine is told how that closure ended.  The registry, on the other hand, is at all
times what has come of the changes that are complete, one after the other, so an upcall that
starts later finds what they have left.
-/

set_option autoImplicit false

namespace EngineBridge

open Native

variable {E : Engine} {H : Host} {α : Type}

/-! ## Upcalls -/

namespace Native.Reply

/-- The state of an engine that has come as far as this. -/
def state {σ : Type} : Reply σ α → σ
  | .done _ state | .busy _ _ state _ | .function _ _ _ state _ => state

/-- Whether the engine calls back. -/
def isUpcall {σ : Type} : Reply σ α → Bool
  | .done .. => false
  | .busy .. | .function .. => true

end Native.Reply

namespace Upcall

/-- On the way to an answer the engine calls back, with the reply `pending`; the upcall starts in
the world `u`. -/
inductive Arises (cb : Callbacks E H) :
    Reply E.State α → World E H → Reply E.State α → World E H → Prop
  | here {reply : Reply E.State α} {w : World E H} (upcall : reply.isUpcall) :
      Arises cb reply w reply { w with engine := reply.state }
  | afterBusy {userData : Nat} {attempts : Int32} {state : E.State}
      {resume : Int32 → E.State → Reply E.State α} {pending : Reply E.State α} {code : Int32}
      {w w' u : World E H}
      (answered : (busy cb userData attempts).run { w with engine := state } = (code, w'))
      (arises : Arises cb (resume code w'.engine) w' pending u) :
      Arises cb (.busy userData attempts state resume) w pending u
  | afterFunction {context : Context} {count : Int32} {arguments : Option (List Argument)}
      {state : E.State} {resume : E.State → Reply E.State α} {pending : Reply E.State α}
      {w w' u : World E H}
      (answered : (function cb context count arguments).run { w with engine := state } = ((), w'))
      (arises : Arises cb (resume w'.engine) w' pending u) :
      Arises cb (.function context count arguments state resume) w pending u

end Upcall

namespace Session

variable {w v u : World E (host E)} {cb : Callbacks E (host E)}

/-! ## From rest to rest -/

/-- If the session rests in the first world, it rests in the second one, and what has happened in
between accounts for what has become of the registry. -/
def Told (w v : World E (host E)) : Prop := Poised w → Poised v ∧ w.Recounts v

namespace Told

/-- Stretches that tell what they do may follow each other. -/
theorem trans (h : Told w v) (h' : Told v u) : Told w u := by
  intro poised
  obtain ⟨poised', told⟩ := h poised
  obtain ⟨poised'', told'⟩ := h' poised'
  exact ⟨poised'', told.trans told'⟩

/-- Quiet times have nothing to tell. -/
theorem of_quiet (quiet : w.Quiet v) : Told w v :=
  fun poised => ⟨poised.quiet quiet, .of_quiet quiet⟩

/-- A tame computation that tells what it does has been run. -/
theorem of_run {m : SessionM E α} {a : α} (tame : Tame m) (retells : Retells m)
    (run : m.run w = (a, v)) : Told w v := by
  obtain rfl : (m w).2 = v := congrArg Prod.snd run
  exact fun poised => ⟨poised.run tame, retells w poised⟩

end Told

/-- All is told up to where an upcall starts. -/
theorem told_of_arises (tame : TameCallbacks cb) (retelling : RetellingCallbacks cb)
    {reply pending : Reply E.State α} (arises : Upcall.Arises cb reply w pending u) :
    Told w u := by
  have resumed (w : World E (host E)) (state : E.State) : Told w { w with engine := state } :=
    .of_quiet (quiet_resume w state)
  induction arises with
  | here => exact resumed _ _
  | afterBusy answered _ ih =>
    have ran := Told.of_run (tame_busy tame _ _) (retells_busy retelling _ _) answered
    exact ((resumed _ _).trans ran).trans ih
  | afterFunction answered _ ih =>
    have ran := Told.of_run (tame_function tame _ _ _) (retells_function retelling _ _ _) answered
    exact ((resumed _ _).trans ran).trans ih

/-- A closure that starts to run does so in an upcall. -/
theorem arises_of_enters {reply : Reply E.State α} (enters : Upcall.Enters cb reply w v) :
    ∃ pending u, Upcall.Arises cb reply w pending u ∧ u.Quiet v := by
  induction enters with
  | @busy userData attempts state resume handler count w v accepted =>
    have quiet := quiet_acceptBusy userData attempts { w with engine := state }
    rw [accepted] at quiet
    exact ⟨_, _, .here rfl, quiet⟩
  | @function context count arguments state resume f values w v accepted =>
    have quiet := quiet_accept context count arguments { w with engine := state }
    rw [accepted] at quiet
    exact ⟨_, _, .here rfl, quiet⟩
  | afterBusy answered _ ih =>
    obtain ⟨pending, u, arises, quiet⟩ := ih
    exact ⟨pending, u, .afterBusy answered arises, quiet⟩
  | afterFunction answered _ ih =>
    obtain ⟨pending, u, arises, quiet⟩ := ih
    exact ⟨pending, u, .afterFunction answered arises, quiet⟩

/-! ## Upcalls of a session -/

/-- While a step of a session is performed in the world `w`, the engine calls back, with the reply
`pending`; the upcall starts in the world `u`. -/
inductive Arises (cb : Callbacks E (host E)) (t : Target) : {α : Type} →
    Action E.Stimulus → World E (host E) → Reply E.State α → World E (host E) → Prop
  | executeBatch {sql : String} {conn : Connection} {d : Database} {text : CString}
      {reply pending : Reply E.State Int32} {w w' u : World E (host E)}
      (found : w.host.connections.get? t.connectionSlot = some conn)
      (database : conn.database = .ok d) (named : CString.ofText sql = .ok text)
      (started : (Upcall.start (.exec d text)).run (engaging w conn.id) = (reply, w'))
      (arises : Upcall.Arises cb reply w' pending u) :
      Arises cb t (.executeBatch sql) w pending u
  | step {stmt : Statement} {p : Program} {reply pending : Reply E.State Int32}
      {w w' u : World E (host E)} (found : w.host.statements.get? t.statementSlot = some stmt)
      (unused : t.statementSlot ∉ w.host.stepping) (handle : stmt.handle = some p)
      (started : (Upcall.start (.step p)).run
        (engaging (stepping w t.statementSlot) stmt.connection) = (reply, w'))
      (arises : Upcall.Arises cb reply w' pending u) : Arises cb t .step w pending u
  | stimulate {stimulus : E.Stimulus} {pending : Reply E.State E.Response}
      {w u : World E (host E)}
      (arises : Upcall.Arises cb (E.stimulate w.engine stimulus) w pending u) :
      Arises cb t (.stimulate stimulus) w pending u

/-- A closure that starts to run during a step does so in an upcall. -/
theorem Interrupts.arises {t : Target} {action : Action E.Stimulus}
    (interrupts : Interrupts cb t action w v) :
    ∃ (α : Type) (pending : Reply E.State α) (u : World E (host E)),
      Arises cb t action w pending u ∧ u.Quiet v := by
  cases interrupts with
  | executeBatch found database named starts =>
    obtain ⟨reply, w', started, enters⟩ := starts
    obtain ⟨pending, u, arises, quiet⟩ := arises_of_enters enters
    exact ⟨_, pending, u, .executeBatch found database named started arises, quiet⟩
  | step found unused handle starts =>
    obtain ⟨reply, w', started, enters⟩ := starts
    obtain ⟨pending, u, arises, quiet⟩ := arises_of_enters enters
    exact ⟨_, pending, u, .step found unused handle started arises, quiet⟩
  | stimulate enters =>
    obtain ⟨pending, u, arises, quiet⟩ := arises_of_enters enters
    exact ⟨_, pending, u, .stimulate arises, quiet⟩

variable {t : Target} {action : Action E.Stimulus} {pending : Reply E.State α}

/-- All is told up to where an upcall starts during a step. -/
theorem Arises.told (tame : TameCallbacks cb) (retelling : RetellingCallbacks cb)
    (arises : Arises cb t action w pending u) : Told w u := by
  have begun {w w' : World E (host E)} {execution : Execution} {reply : Reply E.State Int32}
      (started : (Upcall.start execution).run w = (reply, w')) : Told w w' := by
    have quiet := quiet_start execution w
    rw [started] at quiet
    exact .of_quiet quiet
  cases arises with
  | @executeBatch sql conn d text reply pending w w' u found database named started arises =>
    have engaged : Told w (engaging w conn.id) :=
      fun poised => ⟨poised.engaging conn.id, .of_eq rfl rfl⟩
    exact (engaged.trans (begun started)).trans (told_of_arises tame retelling arises)
  | @step stmt p reply pending w w' u found unused handle started arises =>
    have engaged : Told w (engaging (stepping w t.statementSlot) stmt.connection) :=
      fun poised => ⟨poised.advancing found, .of_eq rfl rfl⟩
    exact (engaged.trans (begun started)).trans (told_of_arises tame retelling arises)
  | stimulate arises => exact told_of_arises tame retelling arises

/-- The callbacks of a session are tame and tell what they do, however deep they nest. -/
theorem callbacks_tell (E : Engine) (depth : Nat) :
    TameCallbacks (callbacks (perform (E := E) depth)) ∧
      RetellingCallbacks (callbacks (perform (E := E) depth)) :=
  ⟨tame_callbacks (tame_perform depth),
    retelling_callbacks (tame_perform depth) (retells_perform depth)⟩

/-- All is told from one world between operations to any that comes after it. -/
theorem Continues.told (h : Continues w v) : Told w v := by
  induction h with
  | refl => exact fun poised => ⟨poised, .refl w⟩
  | perform depth step _ ih =>
    exact ih.trans (.of_run (tame_perform depth step) (retells_perform depth step) rfl)
  | @nested v reports _ ih =>
    apply ih.trans
    intro poised
    exact ⟨poised.of_turns poised.guarded (.single (.host _)), .of_eq rfl rfl⟩
  | interrupt depth t action _ interrupts ih =>
    obtain ⟨tame, retelling⟩ := callbacks_tell E depth
    obtain ⟨α, pending, u, arises, quiet⟩ := interrupts.arises
    exact (ih.trans (arises.told tame retelling)).trans (.of_quiet quiet)

/-- Between operations a session rests. -/
theorem Reachable.poised (h : Reachable w) : Poised w := by
  obtain ⟨engine, continues⟩ := h.continues
  have begun : Poised (Session.begin E engine) := by
    constructor
    · exact nofun
    · exact begin_coherent E engine
  exact (continues.told begun).1

end Session

end EngineBridge
