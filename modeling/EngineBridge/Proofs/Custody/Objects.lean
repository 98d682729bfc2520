import EngineBridge.Proofs.Custody.History
import EngineBridge.Proofs.Custody.Holding

/-!
# Objects of the engine

An engine may hand out an object again once it has agreed to close it.  As long as it
hands out none that is still in use, the objects behind the connections that are open are
all different from each other, and different from one that is just being opened.
-/

set_option autoImplicit false

namespace EngineBridge

open Native

variable {E : Engine} {H : Host}

/-- An entry by which the engine hands out no object behind a connection, takes back none
and defines no function. -/
structure Entry.Neutral (entry : Entry) : Prop where
  allots : entry.allots = none
  closes : entry.closes = none
  defines : entry.defines = none

namespace Entry

/-- A note says nothing about the engine. -/
theorem IsNote.neutral {entry : Entry} (h : entry.IsNote) : entry.Neutral := by
  cases entry with
  | called => exact h.elim
  | _ => exact ⟨rfl, rfl, rfl⟩

/-- The beginning of an execution is neutral. -/
theorem neutral_began (x : Execution) : (Entry.began x).Neutral := ⟨rfl, rfl, rfl⟩

/-- The end of an execution is neutral. -/
theorem neutral_ended (x : Execution) (code : Int32) : (Entry.ended x code).Neutral :=
  ⟨rfl, rfl, rfl⟩

/-- The outcome of a change is neutral. -/
theorem neutral_settled (id : ConnectionId) (change : Change) (result : Except BindError Unit) :
    (Entry.settled id change result).Neutral :=
  ⟨rfl, rfl, rfl⟩

end Entry

/-- Calls that the moves keep no account of are neutral. -/
theorem Native.Call.IsPlain.neutral {c : Call} {a : c.Answer} (h : c.IsPlain a) :
    (Entry.called c a).Neutral := by
  cases c with
  | openV2 => exact h.elim
  | closeV2 => exact h.elim
  | createFunctionV2 => exact ⟨rfl, rfl, if_neg h⟩
  | _ => exact ⟨rfl, rfl, rfl⟩

/-- An object stays in use until the engine has agreed to close it. -/
theorem InUse.cons {d : Database} {log : List Entry} (h : InUse d log) {entry : Entry}
    (kept : entry.closes ≠ some (d, 0)) : InUse d (entry :: log) :=
  .inr ⟨kept, h⟩

/-- The objects that a program has are in use, and all different. -/
structure Stage.Apart (s : Stage E H) : Prop where
  armed : ∀ id d, s.world.target id = some d → InUse d s.world.transcript
  opening : ∀ d, s.custody.opening = some d → InUse d s.world.transcript
  fresh : ∀ id d, s.custody.opening = some d → s.world.target id ≠ some d
  distinct : ∀ id other d, s.world.target id = some d → s.world.target other = some d → id = other

namespace Stage.Apart

variable {s s' : Stage E H}

/-- Objects stay apart as long as none is handed out, passed on or closed. -/
theorem append (h : s.Apart) {entry : Entry}
    (opening : s'.custody.opening = s.custody.opening)
    (target : ∀ id, s'.world.target id = s.world.target id)
    (transcript : s'.world.transcript = entry :: s.world.transcript)
    (closes : ∀ d, entry.closes = some (d, 0) →
      s.custody.opening ≠ some d ∧ ∀ id, s.world.target id ≠ some d) : s'.Apart where
  armed id d hd := by
    rw [target] at hd
    rw [transcript]
    exact (h.armed id d hd).cons fun hc => (closes d hc).2 id hd
  opening d hd := by
    rw [opening] at hd
    rw [transcript]
    exact (h.opening d hd).cons fun hc => (closes d hc).1 hd
  fresh id d hd := by
    rw [opening] at hd
    rw [target]
    exact h.fresh id d hd
  distinct id other d hd hd' := by
    rw [target] at hd hd'
    exact h.distinct id other d hd hd'

/-- Neutral entries keep objects apart. -/
theorem neutral (h : s.Apart) {entry : Entry} (hn : entry.Neutral)
    (opening : s'.custody.opening = s.custody.opening)
    (target : s'.world.target = s.world.target)
    (transcript : s'.world.transcript = entry :: s.world.transcript) : s'.Apart :=
  h.append opening (fun id => by rw [target]) transcript fun d hd => by
    cases hn.closes.symm.trans hd

end Stage.Apart

/-- Moves keep objects apart if the engine hands out none that is in use. -/
theorem Move.apart {s s' : Stage E H} (move : Move s s') (coherent : s.Coherent)
    (allotting : Throughout Allotting s'.world.transcript) (h : s.Apart) : s'.Apart := by
  cases move with
  | note hn => exact h.neutral hn.neutral rfl rfl rfl
  | call plain => exact h.neutral plain.neutral rfl rfl rfl
  | began => exact h.neutral (Entry.neutral_began _) rfl rfl rfl
  | @allocate κ w path flags vfs idle =>
    have unused : ∀ d, (w.answer (.openV2 path flags vfs)).database = some d →
        ¬ InUse d w.transcript := allotting.now
    constructor
    · exact fun id d hd => (h.armed id d hd).cons nofun
    · exact fun d hd => .inl hd
    · exact fun id d hd harmed => unused d hd (h.armed id d harmed)
    · exact h.distinct
  | @abandon κ w d opening =>
    constructor
    · intro id other hother
      refine (h.armed id other hother).cons fun hc => ?_
      obtain rfl : d = other := congrArg Prod.fst (Option.some.inj hc)
      exact h.fresh id d opening hother
    · exact nofun
    · exact nofun
    · exact h.distinct
  | @adopt κ w x rest d path opening hand unopened =>
    constructor
    · intro id other hother
      rcases w.of_target_arm x.id d hother with ⟨-, rfl⟩ | ⟨-, hother⟩
      · exact (h.opening _ opening).cons nofun
      · exact (h.armed id other hother).cons nofun
    · exact nofun
    · exact nofun
    · -- no connection led to the object before it was adopted
      intro id id' other hother hother'
      rcases w.of_target_arm x.id d hother with ⟨hid, heq⟩ | ⟨-, hother⟩ <;>
        rcases w.of_target_arm x.id d hother' with ⟨hid', heq'⟩ | ⟨-, hother'⟩
      · rw [hid, hid']
      · exact absurd (heq ▸ hother') (h.fresh id' _ opening)
      · exact absurd (heq' ▸ hother) (h.fresh id _ opening)
      · exact h.distinct id id' other hother hother'
  | @close κ w x rest d hand database done =>
    have live : w.target x.id = some d :=
      coherent.target_of_exclusive (hand ▸ Multiset.mem_cons_self x rest) database
    have target {id : ConnectionId} {other : Database}
        (hother : (Bridge.disarm x.id (w.asked (.closeV2 d))).2.target id = some other) :
        id ≠ x.id ∧ w.target id = some other := World.of_target_disarm _ x.id hother
    constructor
    · intro id other hother
      obtain ⟨hid, hother⟩ := target hother
      refine (h.armed id other hother).cons fun hc => hid ?_
      obtain rfl : d = other := congrArg Prod.fst (Option.some.inj hc)
      exact h.distinct id x.id d hother live
    · intro other hother
      refine (h.opening other hother).cons fun hc => ?_
      obtain rfl : d = other := congrArg Prod.fst (Option.some.inj hc)
      exact h.fresh x.id d hother live
    · exact fun id other hother htarget => h.fresh id other hother (target htarget).2
    · exact fun id id' other hother hother' =>
        h.distinct id id' other (target hother).2 (target hother').2
  | @refuseClose κ w x d hand database failed =>
    refine h.append rfl (fun _ => rfl) rfl fun other hc => ?_
    exact absurd (congrArg Prod.snd (Option.some.inj hc)) failed
  | prepare => exact h.append rfl (fun _ => rfl) rfl nofun
  | reset => exact h.append rfl (fun _ => rfl) rfl nofun
  | step => exact h.neutral (Entry.neutral_ended _ _) rfl rfl rfl
  | finalize => exact h.append rfl (fun _ => rfl) rfl nofun
  | installFunction => exact h.append rfl (fun _ => rfl) rfl nofun
  | removeFunction => exact h.append rfl (fun _ => rfl) rfl nofun
  | settle => exact h.neutral (Entry.neutral_settled _ _ _) rfl rfl rfl
  | refuseBusy => exact h.neutral (Entry.neutral_settled _ _ _) rfl rfl rfl
  | _ => exact ⟨h.armed, h.opening, h.fresh, h.distinct⟩

end EngineBridge
