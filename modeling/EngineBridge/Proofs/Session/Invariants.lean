import EngineBridge.Proofs.Custody.BusySlot
import EngineBridge.Proofs.Custody.Functions
import EngineBridge.Proofs.Custody.Tracking
import EngineBridge.Proofs.Session.Running

/-!
# Invariants of sessions

What moves keep, and changes of the session's own state keep, holds wherever turns lead
from the beginning of a session.  An assumption about the engine is one about the
transcript, and has to hold of the transcript at the end only.
-/

set_option autoImplicit false

namespace EngineBridge

open Native Relation

variable {E : Engine} {H : Host} {s s' : Stage E H}

/-- A move adds at most one entry to the transcript. -/
theorem Move.transcript (move : Move s s') :
    s'.world.transcript = s.world.transcript ∨
      ∃ entry, s'.world.transcript = entry :: s.world.transcript := by
  cases move with
  | note | call | began | allocate | abandon | adopt | close | refuseClose | prepare | reset
  | step | finalize | installFunction | removeFunction | settle | refuseBusy =>
    exact .inr ⟨_, rfl⟩
  | _ => exact .inl rfl

/-- What holds of the transcript after a turn held of it before. -/
theorem Turn.before (turn : Turn s s') {assumed : List Entry → Prop}
    (earlier : ∀ entry log, assumed (entry :: log) → assumed log)
    (h : assumed s'.world.transcript) : assumed s.world.transcript := by
  cases turn with
  | host => exact h
  | move move =>
    rcases move.transcript with heq | ⟨entry, heq⟩
    · exact heq ▸ h
    · exact earlier entry _ (heq ▸ h)

/-- What is kept by single turns, if an assumption about the transcript holds, is kept by any
number of turns. -/
theorem Turn.preserves {assumed : List Entry → Prop} {kept : Stage E H → Prop}
    (earlier : ∀ entry log, assumed (entry :: log) → assumed log)
    (turn : ∀ s s', Turn s s' → assumed s'.world.transcript → kept s → kept s')
    (turns : ReflTransGen Turn s s') (h : assumed s'.world.transcript) (begun : kept s) :
    kept s' := by
  induction turns with
  | refl => exact begun
  | tail _ last ih => exact turn _ _ last h (ih (last.before earlier h))

/-! ## Changes of the busy handler -/

/-- Connections are as they should be, and so are their busy slots. -/
structure Stage.Answering (s : Stage E H) : Prop where
  coherent : s.Coherent
  owned : s.Owned
  consulted : s.Consulted

/-- Turns keep connections and busy slots as they should be. -/
theorem Turn.answering (turn : Turn s s') (h : s.Answering) : s'.Answering := by
  obtain ⟨coherent, owned, consulted⟩ := h
  cases turn with
  | move move =>
    exact ⟨move.shifts.coherent coherent, move.owned coherent owned,
      move.consulted coherent owned consulted⟩
  | host =>
    obtain ⟨distinct, counted, armed, opened, target⟩ := coherent
    obtain ⟨handler, settling, begun⟩ := consulted
    exact ⟨⟨distinct, counted, armed, opened, target⟩, owned, ⟨handler, settling, begun⟩⟩

/-! ## Definitions of functions -/

/-- Connections are as they should be, and so are their functions. -/
structure Stage.Defining (s : Stage E H) : Prop where
  coherent : s.Coherent
  owned : s.Owned
  apart : s.Apart
  defined : s.Defined

/-- Turns keep connections and functions as they should be, if the engine hands out no object
that is in use. -/
theorem Turn.defining (turn : Turn s s') (allotting : Throughout Allotting s'.world.transcript)
    (h : s.Defining) : s'.Defining := by
  obtain ⟨coherent, owned, apart, defined⟩ := h
  cases turn with
  | move move =>
    exact ⟨move.shifts.coherent coherent, move.owned coherent owned,
      move.apart coherent allotting apart, move.defined coherent owned allotting apart defined⟩
  | host =>
    obtain ⟨distinct, counted, armed, opened, target⟩ := coherent
    obtain ⟨armed', opening, fresh, distinct'⟩ := apart
    obtain ⟨functions, opening'⟩ := defined
    exact ⟨⟨distinct, counted, armed, opened, target⟩, owned,
      ⟨armed', opening, fresh, distinct'⟩, ⟨functions, opening'⟩⟩

/-! ## Lifetimes -/

/-- All calls so far were lawful, and connections and statements are as they should be. -/
structure Stage.Abiding (s : Stage E H) : Prop where
  coherent : s.Coherent
  apart : s.Apart
  backed : s.Backed
  tracked : s.Tracked

/-- Turns make lawful calls only, if the engine hands out new objects only. -/
theorem Turn.abiding (turn : Turn s s') (fresh : Throughout Fresh s'.world.transcript)
    (h : s.Abiding) : s'.Abiding := by
  obtain ⟨coherent, apart, backed, tracked⟩ := h
  cases turn with
  | move move =>
    have allotting := fresh.imp fun _ _ => Fresh.allotting
    exact ⟨move.shifts.coherent coherent, move.apart coherent allotting apart,
      move.backed backed, move.tracked coherent apart backed fresh tracked⟩
  | host =>
    obtain ⟨distinct, counted, armed, opened, target⟩ := coherent
    obtain ⟨armed', opening, fresh', distinct'⟩ := apart
    obtain ⟨⟨unspoiled, unspoiled'⟩, ⟨opening', live, distinct'', accounted⟩, lawful⟩ := tracked
    exact ⟨⟨distinct, counted, armed, opened, target⟩, ⟨armed', opening, fresh', distinct'⟩,
      backed, ⟨⟨unspoiled, unspoiled'⟩, ⟨opening', live, distinct'', accounted⟩, lawful⟩⟩

namespace Session

variable (E) (engine : E.State)

/-- Before a session there are no connections. -/
theorem begin_coherent : Stage.Coherent ⟨{}, begin E engine⟩ :=
  ⟨Multiset.nodup_zero, nofun, nofun, nofun, nofun⟩

/-- Before a session there are no closures. -/
theorem begin_owned : Stage.Owned ⟨{}, begin E engine⟩ := nofun

/-- Before a session the engine has handed out nothing. -/
theorem begin_apart : Stage.Apart ⟨{}, begin E engine⟩ := ⟨nofun, nofun, nofun, nofun⟩

/-- Before a session no busy handler is registered or expected. -/
theorem begin_answering : Stage.Answering ⟨{}, begin E engine⟩ :=
  ⟨begin_coherent E engine, begin_owned E engine, ⟨nofun, nofun, fun _ h => absurd rfl h⟩⟩

/-- Before a session no function is defined. -/
theorem begin_defining : Stage.Defining ⟨{}, begin E engine⟩ :=
  ⟨begin_coherent E engine, begin_owned E engine, begin_apart E engine, ⟨nofun, nofun⟩⟩

/-- Before a session no call was made, so none was unlawful. -/
theorem begin_abiding : Stage.Abiding ⟨{}, begin E engine⟩ := by
  refine ⟨begin_coherent E engine, begin_apart E engine, nofun, ⟨nofun, nofun⟩, ?_, .nil⟩
  constructor
  · exact fun _ h => nomatch h
  · exact fun _ _ h => absurd h (Multiset.notMem_zero _)
  · exact Multiset.nodup_zero
  · exact fun _ h => absurd h List.not_mem_nil

end Session

end EngineBridge
