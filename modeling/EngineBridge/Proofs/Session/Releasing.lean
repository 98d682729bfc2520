import EngineBridge.Proofs.Custody.Releasing
import EngineBridge.Proofs.Session.Reaching
import EngineBridge.Scripted.Engine

/-!
# What a session releases

Whatever the engine answers, an object behind a statement is let go once, and not before the
statement is finalized or goes out of use; an object behind a connection is told to be closed
by the time the connection goes out of use or the attempt to open it has failed, and never
again once the engine has agreed.
-/

set_option autoImplicit false

namespace EngineBridge

open Native Relation

variable {E : Engine} {H : Host}

/-- What has become of the objects that the engine has handed out, if those behind statements
are still needed that are `alive`, and those behind connections that are `owned`. -/
structure Releases (alive : Program → Prop) (owned : Database → Prop) (log : List Entry) :
    Prop where
  statements : ∀ entry ∈ log, ∀ p d, entry.prepares = some (p, d) →
    alive p ∧ finalizations p log = 0 ∨ ¬ alive p ∧ finalizations p log = 1
  connections : ∀ entry ∈ log, ∀ d, entry.allots = some d → owned d ∨ ToldToClose d log
  closes : Throughout ClosesOnce log

/-- Releases count the same for the same statements and at least those connections. -/
theorem Releases.congr {alive alive' : Program → Prop} {owned owned' : Database → Prop}
    {log : List Entry} (h : Releases alive owned log) (alive_iff : ∀ p, alive p ↔ alive' p)
    (imp : ∀ d, owned d → owned' d) : Releases alive' owned' log := by
  constructor
  · intro entry he p d prepares
    rw [← alive_iff]
    exact h.statements entry he p d prepares
  · intro entry he d allots
    exact (h.connections entry he d allots).imp_left (imp d)
  · exact h.closes

/-- All calls so far were lawful, and no object is forgotten. -/
structure Stage.Caring (s : Stage E H) : Prop where
  abiding : s.Abiding
  remembers : s.Remembers

/-- Turns forget no object, if the engine hands out new objects only. -/
theorem Turn.caring {s s' : Stage E H} (turn : Turn s s')
    (fresh : Throughout Fresh s'.world.transcript) (h : s.Caring) : s'.Caring := by
  refine ⟨turn.abiding fresh h.abiding, ?_⟩
  cases turn with
  | move move => exact move.remembers h.remembers
  | host => exact h.remembers

/-- What is in hand is all that is not released. -/
theorem Stage.Caring.releases {s : Stage E H} (h : s.Caring) (idle : s.custody.opening = none) :
    Releases (fun p => ∃ t ∈ s.custody.statements, t.handle = some p)
      (fun d => ∃ x ∈ s.held, x.handle = some d) s.world.transcript := by
  obtain ⟨⟨coherent, apart, backed, unspoiled, accounted, lawful⟩, remembers⟩ := h
  constructor
  · intro entry he p d prepares
    by_cases alive : ∃ t ∈ s.custody.statements, t.handle = some p
    · obtain ⟨t, ht, handle⟩ := alive
      have live := accounted.live p t.database (Stage.mem_programs ht handle)
      exact .inl ⟨⟨t, ht, handle⟩, finalizations_eq_zero_iff.mpr live.2⟩
    · refine .inr ⟨alive, ?_⟩
      rcases accounted.accounted entry he p d prepares with ⟨last, hl, finalizes⟩ | live
      · exact finalizations_eq_one lawful hl finalizes
      · obtain ⟨t, ht, handle, -⟩ := Stage.exists_of_mem_programs live
        exact absurd ⟨t, ht, handle⟩ alive
  · intro entry he d allots
    rcases remembers entry he d allots with opening | ⟨x, hx, database⟩ | told
    · cases idle.symm.trans opening
    · exact .inl ⟨x, hx, Connection.handle_of_database database⟩
    · exact .inr told
  · exact lawful.imp fun _ _ => Lawful.closesOnce

namespace Session

/-- Before a session there is nothing to forget. -/
theorem begin_caring (engine : E.State) : Stage.Caring ⟨{}, begin E engine⟩ := by
  refine ⟨begin_abiding E engine, ?_⟩
  intro entry he
  cases he

/-- Between operations the statements in the slots and the connections there are bear all that
is not released; at the end of a session nothing is left but what closures own that are still
in the registry.  Failures to open a connection leave nothing behind. -/
theorem objects_released_once :
    (∀ w : World E (host E), Reachable w → Faithful w.transcript →
      Releases (fun p => ∃ slot t, w.host.statements.get? slot = some t ∧ t.handle = some p)
        (fun d => ∃ x, Has w x ∧ x.handle = some d) w.transcript) ∧
      (∀ (depth : Nat) (engine : E.State) (steps : List (Step E.Stimulus))
          (w : World E (host E)), ((session depth steps).run (begin E engine)).2 = w →
        Faithful w.transcript →
        Releases (fun _ => False) (fun d => ∃ x ∈ w.registry.captured, x.handle = some d)
          w.transcript) ∧
      (∀ (conn after : Connection) path options e (w w' : World E (host E)),
        (conn.openWith path options).run w = ((.error e, after), w') → w.Leaves none w') ∧
      ∀ path options e (w w' : World E (host E)),
        (Connection.connectWith path options).run.run w = (.error e, w') → w.Leaves none w' := by
  have caring {s : Stage E (host E)} {engine : E.State}
      (turns : ReflTransGen Turn ⟨{}, begin E engine⟩ s) (faithful : Faithful s.world.transcript) :
      s.Caring :=
    Turn.preserves (fun _ _ => Throughout.before) (fun _ _ => Turn.caring) turns faithful.fresh
      (begin_caring engine)
  refine ⟨?_, ?_, ?_, ?_⟩
  · intro w reachable faithful
    obtain ⟨-, engine, turns⟩ := reachable.turns
    refine ((caring turns faithful).releases rfl).congr (fun p => ?_) ?_
    · constructor
      · rintro ⟨t, ht, handle⟩
        obtain ⟨slot, found⟩ := Slots.mem_values_iff.mp ht
        exact ⟨slot, t, found, handle⟩
      · rintro ⟨slot, t, found, handle⟩
        exact ⟨t, Slots.mem_values_iff.mpr ⟨slot, found⟩, handle⟩
    · rintro d ⟨x, hx, handle⟩
      exact ⟨x, has_of_held hx, handle⟩
  · rintro depth engine steps w rfl faithful
    have turns := session_turns depth engine steps
    refine ((caring turns faithful).releases rfl).congr (fun p => ?_) ?_
    · constructor
      · rintro ⟨t, ht, -⟩
        exact absurd ht (Multiset.notMem_zero t)
      · exact False.elim
    · rintro d ⟨x, hx, handle⟩
      -- at the end no connection is in a slot or in hand, so closures own the ones that are left
      have captured :
          x ∈ 0 + 0 + (((session depth steps).run (begin E engine)).2).registry.captured := hx
      rw [add_zero, zero_add] at captured
      exact ⟨x, captured, handle⟩
  · intro conn after path options e w w' run
    exact Connection.leaves_openWith_error run
  · intro path options e w w' run
    exact Connection.leaves_connectWith_error run

/-- An engine that makes an object although it cannot open it, reports an error as it lets a
statement go, and refuses once to close a connection. -/
def grudgingEngine : Scripted.State :=
  { script := ⟨[(.openV2, .number 14), (.finalize, .number 1), (.closeV2, .number 0),
      (.closeV2, .number 5)]⟩ }

/-- A connection that is opened at the second attempt, two statements of it, of which one is
finalized twice and the other one never, and an attempt to close it in between. -/
def grudgingSteps : List (Step Scripted.engine.Stimulus) :=
  [({ connection := some "a" }, .connect "x" {}),
   ({ connection := some "a" }, .connect "x" {}),
   ({ connection := some "a", statement := some "s" }, .prepare "q"),
   ({ statement := some "s" }, .finalize),
   ({ statement := some "s" }, .finalize),
   ({ connection := some "a" }, .close),
   ({ connection := some "a", statement := some "t" }, .prepare "q")]

/-- The world after these steps. -/
def grudgingWorld : World Scripted.engine (host Scripted.engine) :=
  ((grudgingSteps.mapM (next 1)).run (begin Scripted.engine grudgingEngine)).2

/-- The world at the end of the session. -/
def grudgingEnd : World Scripted.engine (host Scripted.engine) :=
  ((session 1 grudgingSteps).run (begin Scripted.engine grudgingEngine)).2

/-- After the steps the first statement has been let go once, and the second one has not; at the
end it has been let go as well, and both objects behind connections were told to be closed. -/
theorem grudging_session_releases :
    (finalizations ⟨1⟩ grudgingWorld.transcript = 1 ∧
        finalizations ⟨2⟩ grudgingWorld.transcript = 0) ∧
      finalizations ⟨2⟩ grudgingEnd.transcript = 1 ∧
      ToldToClose ⟨1⟩ grudgingEnd.transcript ∧ ToldToClose ⟨2⟩ grudgingEnd.transcript := by
  have faithful : Faithful grudgingWorld.transcript :=
    ⟨by decide +kernel, by decide +kernel, by decide +kernel⟩
  have faithful' : Faithful grudgingEnd.transcript :=
    ⟨by decide +kernel, by decide +kernel, by decide +kernel⟩
  have between := (objects_released_once (E := Scripted.engine)).1 grudgingWorld
    ((Reachable.begin _).steps 1 _) faithful
  have after := (objects_released_once (E := Scripted.engine)).2.1 1 grudgingEngine
    grudgingSteps grudgingEnd rfl faithful'
  have finalized : ∀ entry ∈ grudgingWorld.host.statements.entries,
      entry.2.handle ≠ some ⟨1⟩ := by decide +kernel
  have kept : (grudgingWorld.host.statements.get? "t").map (·.handle) = some (some ⟨2⟩) := by
    decide +kernel
  have prepared : ∃ entry ∈ grudgingWorld.transcript,
      entry.prepares = some (⟨1⟩, ⟨2⟩) := by decide +kernel
  have prepared' : ∃ entry ∈ grudgingWorld.transcript,
      entry.prepares = some (⟨2⟩, ⟨2⟩) := by decide +kernel
  have prepared'' : ∃ entry ∈ grudgingEnd.transcript,
      entry.prepares = some (⟨2⟩, ⟨2⟩) := by decide +kernel
  have allotted : ∃ entry ∈ grudgingEnd.transcript, entry.allots = some ⟨1⟩ := by decide +kernel
  have allotted' : ∃ entry ∈ grudgingEnd.transcript, entry.allots = some ⟨2⟩ := by decide +kernel
  have captured : grudgingEnd.registry.captured = 0 := by decide +kernel
  have told {d : Database} (h : ∃ entry ∈ grudgingEnd.transcript, entry.allots = some d) :
      ToldToClose d grudgingEnd.transcript := by
    obtain ⟨entry, he, allots⟩ := h
    rcases after.connections entry he d allots with ⟨x, hx, -⟩ | told
    · rw [captured] at hx
      exact absurd hx (Multiset.notMem_zero x)
    · exact told
  refine ⟨⟨?_, ?_⟩, ?_, told allotted, told allotted'⟩
  · obtain ⟨entry, he, prepares⟩ := prepared
    rcases between.statements entry he _ _ prepares with ⟨⟨slot, t, found, handle⟩, -⟩ | ⟨-, once⟩
    · exact absurd handle (finalized _ (Slots.mem_entries_iff.mpr found))
    · exact once
  · obtain ⟨t, found, handle⟩ := Option.map_eq_some_iff.mp kept
    obtain ⟨entry, he, prepares⟩ := prepared'
    rcases between.statements entry he _ _ prepares with ⟨-, never⟩ | ⟨gone, -⟩
    · exact never
    · exact absurd ⟨"t", t, found, handle⟩ gone
  · obtain ⟨entry, he, prepares⟩ := prepared''
    rcases after.statements entry he _ _ prepares with ⟨alive, -⟩ | ⟨-, once⟩
    · exact alive.elim
    · exact once

end Session

end EngineBridge
