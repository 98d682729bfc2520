import EngineBridge.Proofs.Custody.Tracking

/-!
# What statements have been through

How a statement stands is told by the calls that were made on its object.  The latest call that
moved it decides, and once the engine was told to let the object go, the statement is finalized
for good.

The engine may hand out an object again that a statement has left behind, so only what has
happened since the object was handed out counts.  That it hands out none that is still in use is
the one thing that has to be assumed of it (`Lending`).
-/

set_option autoImplicit false

namespace EngineBridge

open Native

variable {E : Engine} {H : Host}

/-- How a call that moves a statement leaves it, if the statement has this object.  A reset leaves
it as it was prepared, even one that fails. -/
def Entry.leaves? (p : Program) : Entry → Option StatementState
  | .ended (.step q) code => if q = p then some (.afterStep code) else none
  | .called (.reset q) _ => if q = p then some .prepared else none
  | _ => none

/-- How a statement stands that is not finalized: as the latest call has left it that moved it. -/
def standing (p : Program) (log : List Entry) : StatementState :=
  (log.findSome? (Entry.leaves? p)).getD .prepared

/-- The engine has handed out an object for a statement of a connection, and `later` has happened
since. -/
def GivenOut (p : Program) (d : Database) (later log : List Entry) : Prop :=
  ∃ entry earlier, log = later ++ entry :: earlier ∧ entry.prepares = some (p, d)

/-- The engine has handed out an object for a statement, and has not been told to let it go
since. -/
def Lent (p : Program) : List Entry → Prop
  | [] => False
  | entry :: earlier =>
    (∃ d, entry.prepares = some (p, d)) ∨ entry.finalizes ≠ some p ∧ Lent p earlier

/-- The engine hands out no object for a statement that is still in use. -/
def Lending (entry : Entry) (earlier : List Entry) : Prop :=
  ∀ p d, entry.prepares = some (p, d) → ¬ Lent p earlier

/-- A call that moves the statement that has this object. -/
def Entry.moves (p : Program) : Entry → Bool
  | .ended (.step q) _ | .called (.reset q) _ => q = p
  | _ => false

/-- The latest call that has moved the statement with this object. -/
def latestMove (p : Program) (log : List Entry) : Option Entry := log.find? (Entry.moves p)

/-- The latest call that has moved a statement tells how the statement stands that is not
finalized: a row is current exactly if that was a step which gave one, the statement is done
exactly if it was any other step, and otherwise it is as it was prepared, or it has been reset. -/
structure StatementState.LeftBy (state : StatementState) (p : Program) (log : List Entry) :
    Prop where
  stepping : state = .stepping ↔ latestMove p log = some (.ended (.step p) NamedCode.row.value)
  done : state = .done ↔
    ∃ code ≠ NamedCode.row.value, latestMove p log = some (.ended (.step p) code)
  prepared : state = .prepared ↔
    latestMove p log = none ∨ ∃ code, latestMove p log = some (.called (.reset p) code)

/-- An entry that moves no statement and finalizes none. -/
structure Entry.Rests (entry : Entry) : Prop where
  moves : ∀ p, entry.leaves? p = none
  finalizes : entry.finalizes = none

section

variable {p : Program} {d : Database} {entry : Entry} {later more log : List Entry}

/-- An entry that leaves a statement alone leaves its standing. -/
theorem standing_cons_of_none (h : entry.leaves? p = none) :
    standing p (entry :: log) = standing p log := by
  simp [standing, h]

/-- An entry that leaves a statement in a state makes that its standing. -/
theorem standing_cons_of_some {state : StatementState} (h : entry.leaves? p = some state) :
    standing p (entry :: log) = state := by
  simp [standing, h]

/-- What moves no statement leaves all of them standing as they were. -/
theorem standing_append_of_rests (rests : ∀ entry ∈ more, entry.Rests) :
    standing p (more ++ log) = standing p log := by
  induction more with
  | nil => rfl
  | cons entry more ih =>
    obtain ⟨first, others⟩ := List.forall_mem_cons.mp rests
    rw [List.cons_append, standing_cons_of_none (first.moves p), ih others]

/-- A step leaves a statement with a row current just if it ended with a row. -/
theorem StatementState.afterStep_eq_ite (code : Int32) :
    afterStep code = if code = NamedCode.row.value then .stepping else .done := by
  simp only [afterStep, ResultClass.ofCode_eq_row_iff]

/-- A step leaves its statement in the state that its code tells. -/
theorem Entry.leaves?_step (p : Program) (code : Int32) :
    (Entry.ended (.step p) code).leaves? p = some (.afterStep code) :=
  if_pos rfl

/-- A reset leaves its statement prepared, whatever its code is. -/
theorem Entry.leaves?_reset (p : Program) (code : Int32) :
    (Entry.called (.reset p) code).leaves? p = some .prepared :=
  if_pos rfl

/-- A call moves a statement, or it leaves it as it is. -/
theorem Entry.moves_cases (p : Program) (entry : Entry) :
    (entry.moves p = false ∧ entry.leaves? p = none) ∨
      (∃ code, entry = .ended (.step p) code) ∨ ∃ code, entry = .called (.reset p) code := by
  cases entry with
  | ended execution code =>
    cases execution with
    | step q =>
      by_cases same : q = p
      · exact .inr (.inl ⟨code, by rw [same]⟩)
      · exact .inl ⟨decide_eq_false same, if_neg same⟩
    | exec => exact .inl ⟨rfl, rfl⟩
  | called c a =>
    cases c with
    | reset q =>
      by_cases same : q = p
      · subst same
        exact .inr (.inr ⟨a, rfl⟩)
      · exact .inl ⟨decide_eq_false same, if_neg same⟩
    | _ => exact .inl ⟨rfl, rfl⟩
  | _ => exact .inl ⟨rfl, rfl⟩

/-- How a statement stands is told by the latest call that has moved it. -/
theorem standing_leftBy (p : Program) (log : List Entry) : (standing p log).LeftBy p log := by
  -- an entry that moves the statement decides, and any other one is passed over
  induction log with
  | nil => constructor <;> simp [standing, latestMove]
  | cons entry log ih =>
    rcases entry.moves_cases p with ⟨still, leaves⟩ | ⟨code, rfl⟩ | ⟨code, rfl⟩
    · have same : latestMove p (entry :: log) = latestMove p log := by
        simp [latestMove, still]
      rw [standing_cons_of_none leaves]
      exact ⟨same ▸ ih.stepping, same ▸ ih.done, same ▸ ih.prepared⟩
    · have latest : latestMove p (.ended (.step p) code :: log) =
          some (.ended (.step p) code) := by
        simp [latestMove, Entry.moves]
      rw [standing_cons_of_some (Entry.leaves?_step p code), StatementState.afterStep_eq_ite]
      by_cases row : code = NamedCode.row.value
      · subst row
        rw [if_pos rfl]
        constructor <;> simp [latest]
      · rw [if_neg row]
        constructor <;> simp [latest, row]
    · have latest : latestMove p (.called (.reset p) code :: log) =
          some (.called (.reset p) code) := by
        simp [latestMove, Entry.moves]
      rw [standing_cons_of_some (Entry.leaves?_reset p code)]
      constructor <;> simp [latest]

/-- No entry leaves a statement finalized. -/
theorem standing_ne_finalized : standing p log ≠ .finalized := by
  induction log with
  | nil => exact nofun
  | cons entry log ih =>
    rcases entry.moves_cases p with ⟨-, leaves⟩ | ⟨code, rfl⟩ | ⟨code, rfl⟩
    · rw [standing_cons_of_none leaves]
      exact ih
    · rw [standing_cons_of_some (Entry.leaves?_step p code), StatementState.afterStep_eq_ite]
      split <;> exact nofun
    · rw [standing_cons_of_some (Entry.leaves?_reset p code)]
      exact nofun

/-- An object that was given out is still given out when something else has happened. -/
theorem GivenOut.append (h : GivenOut p d later log) (more : List Entry) :
    GivenOut p d (more ++ later) (more ++ log) := by
  obtain ⟨entry, earlier, rfl, prepares⟩ := h
  exact ⟨entry, earlier, (List.append_assoc ..).symm, prepares⟩

/-- An object that has been handed out is in use until the engine is told to let it go. -/
theorem GivenOut.lent (h : GivenOut p d later log)
    (kept : ∀ entry ∈ later, entry.finalizes ≠ some p) : Lent p log := by
  obtain ⟨first, earlier, rfl, prepares⟩ := h
  induction later with
  | nil => exact .inl ⟨d, prepares⟩
  | cons entry later ih =>
    obtain ⟨now, before⟩ := List.forall_mem_cons.mp kept
    exact .inr ⟨now, ih before⟩

/-- An object that is lent was prepared. -/
theorem Lent.prepared (h : Lent p log) : ∃ entry ∈ log, ∃ d, entry.prepares = some (p, d) := by
  induction log with
  | nil => exact h.elim
  | cons entry log ih =>
    rcases h with ⟨d, prepares⟩ | ⟨-, before⟩
    · exact ⟨entry, List.mem_cons_self, d, prepares⟩
    · obtain ⟨other, mem, prepares⟩ := ih before
      exact ⟨other, List.mem_cons_of_mem _ mem, prepares⟩

/-- An object that is new is not in use. -/
theorem Fresh.lending (h : Fresh entry log) : Lending entry log := by
  intro p d prepares lent
  obtain ⟨other, mem, d', before⟩ := lent.prepared
  exact h.prepares p d prepares other mem d' before

end

/-! ## Statements on record -/

/-- What has happened since the engine handed out the object of a statement fits how the statement
stands. -/
inductive Statement.Fits (t : Statement) (p : Program) (later : List Entry) : Prop
  | live (handle : t.handle = some p) (kept : ∀ entry ∈ later, entry.finalizes ≠ some p)
      (state : t.state = standing p later)
  | gone (handle : t.handle = none) (state : t.state = .finalized)
      (finalized : ∃ entry ∈ later, entry.finalizes = some p)

/-- A statement stands as the calls have left it that were made on its object. -/
def Statement.OnRecord (t : Statement) (log : List Entry) : Prop :=
  ∃ p later, GivenOut p t.database later log ∧ t.Fits p later

namespace Statement

variable {t : Statement} {p : Program} {entry : Entry} {later log : List Entry}

/-- A statement is finalized if the engine was told so, and stands as the latest call has left it
otherwise. -/
theorem Fits.state (h : t.Fits p later) :
    (t.state = .finalized ↔ ∃ entry ∈ later, entry.finalizes = some p) ∧
      (t.state ≠ .finalized → t.handle = some p ∧ t.state = standing p later) := by
  cases h with
  | live handle kept state =>
    have unfinalized : t.state ≠ .finalized := state ▸ standing_ne_finalized
    refine ⟨⟨fun finalized => absurd finalized unfinalized, ?_⟩, fun _ => ⟨handle, state⟩⟩
    rintro ⟨entry, mem, finalizes⟩
    exact absurd finalizes (kept entry mem)
  | gone handle state finalized =>
    exact ⟨⟨fun _ => finalized, fun _ => state⟩, fun live => absurd state live⟩

/-- What happens to other objects says nothing about a statement. -/
theorem OnRecord.cons (h : t.OnRecord log)
    (other : ∀ q, t.handle = some q → entry.leaves? q = none ∧ entry.finalizes ≠ some q) :
    t.OnRecord (entry :: log) := by
  obtain ⟨p, later, given, fits⟩ := h
  refine ⟨p, entry :: later, given.append [entry], ?_⟩
  cases fits with
  | live handle kept state =>
    obtain ⟨moves, finalizes⟩ := other p handle
    refine .live handle (List.forall_mem_cons.mpr ⟨finalizes, kept⟩) ?_
    rw [standing_cons_of_none moves, state]
  | gone handle state finalized =>
    obtain ⟨first, mem, finalizes⟩ := finalized
    exact .gone handle state ⟨first, List.mem_cons_of_mem _ mem, finalizes⟩

/-- A call on the object of a statement leaves the statement as the call says. -/
theorem OnRecord.moved {state : StatementState} (h : t.OnRecord log) (handle : t.handle = some p)
    (moves : entry.leaves? p = some state) (kept : entry.finalizes ≠ some p) :
    ({ t with state } : Statement).OnRecord (entry :: log) := by
  obtain ⟨q, later, given, fits⟩ := h
  cases fits with
  | gone none => cases none.symm.trans handle
  | live handle' before =>
    obtain rfl : q = p := Option.some.inj (handle'.symm.trans handle)
    refine ⟨q, entry :: later, given.append [entry], ?_⟩
    exact .live handle (List.forall_mem_cons.mpr ⟨kept, before⟩) (standing_cons_of_some moves).symm

/-- A statement is finalized with its object. -/
theorem OnRecord.finalized (h : t.OnRecord log) (handle : t.handle = some p)
    (finalizes : entry.finalizes = some p) :
    ({ t with handle := none, state := .finalized } : Statement).OnRecord (entry :: log) := by
  obtain ⟨q, later, given, fits⟩ := h
  cases fits with
  | gone none => cases none.symm.trans handle
  | live handle' =>
    obtain rfl : q = p := Option.some.inj (handle'.symm.trans handle)
    refine ⟨q, entry :: later, given.append [entry], ?_⟩
    exact .gone rfl rfl ⟨entry, List.mem_cons_self, finalizes⟩

/-- A statement that is on record is lent its object. -/
theorem OnRecord.lent (h : t.OnRecord log) (handle : t.handle = some p) : Lent p log := by
  obtain ⟨q, later, given, fits⟩ := h
  cases fits with
  | gone none => cases none.symm.trans handle
  | live handle' kept =>
    obtain rfl : q = p := Option.some.inj (handle'.symm.trans handle)
    exact given.lent kept

end Statement

namespace Stage

/-- All statements in hand are on record, and no two of them have the same object. -/
structure Documented (s : Stage E H) : Prop where
  recorded : ∀ t ∈ s.custody.statements, t.OnRecord s.world.transcript
  distinct : (s.custody.statements.filterMap Statement.handle).Nodup

namespace Documented

variable {s s' : Stage E H} {entry : Entry}

/-- Resting entries leave all statements as they are documented. -/
theorem rests (h : s.Documented) (rests : entry.Rests)
    (statements : s'.custody.statements = s.custody.statements)
    (transcript : s'.world.transcript = entry :: s.world.transcript) : s'.Documented := by
  constructor
  · intro t ht
    rw [transcript]
    rw [statements] at ht
    have other (q : Program) (_ : t.handle = some q) :
        entry.leaves? q = none ∧ entry.finalizes ≠ some q :=
      ⟨rests.moves q, by rw [rests.finalizes]; exact nofun⟩
    exact (h.recorded t ht).cons other
  · rw [statements]
    exact h.distinct

/-- A call on the object of one statement leaves the others on record. -/
theorem others (h : s.Documented) {t : Statement} {rest : Multiset Statement} {p : Program}
    (hand : s.custody.statements = t ::ₘ rest) (handle : t.handle = some p)
    (only : ∀ q ≠ p, entry.leaves? q = none ∧ entry.finalizes ≠ some q) :
    ∀ u ∈ rest, u.OnRecord (entry :: s.world.transcript) := by
  intro u hu
  have distinct := h.distinct
  rw [hand, Multiset.filterMap_cons_some _ _ _ handle, Multiset.nodup_cons] at distinct
  refine (h.recorded u (hand ▸ Multiset.mem_cons_of_mem hu)).cons fun q hq => only q ?_
  rintro rfl
  exact distinct.1 ((Multiset.mem_filterMap _ _).mpr ⟨u, hu, hq⟩)

/-- One statement is moved by a call on its object. -/
theorem moved (h : s.Documented) {t : Statement} {rest : Multiset Statement} {p : Program}
    {state : StatementState} (hand : s.custody.statements = t ::ₘ rest)
    (handle : t.handle = some p) (moves : entry.leaves? p = some state)
    (only : ∀ q ≠ p, entry.leaves? q = none) (kept : entry.finalizes = none)
    (statements : s'.custody.statements = { t with state } ::ₘ rest)
    (transcript : s'.world.transcript = entry :: s.world.transcript) : s'.Documented := by
  have unfinalized (q : Program) : entry.finalizes ≠ some q := by
    rw [kept]
    exact nofun
  have others := h.others hand handle fun q other => ⟨only q other, unfinalized q⟩
  have own := (h.recorded t (hand ▸ Multiset.mem_cons_self t rest)).moved handle moves
    (unfinalized p)
  constructor
  · rw [statements, transcript]
    exact Multiset.forall_mem_cons.mpr ⟨own, others⟩
  · have distinct := h.distinct
    rw [hand, Multiset.filterMap_cons_some _ _ _ handle] at distinct
    rw [statements, Multiset.filterMap_cons_some _ _ _ (show ({ t with state } : Statement).handle =
      some p from handle)]
    exact distinct

end Documented

end Stage

/-! ## Moves -/

/-- A note leaves all objects at rest. -/
theorem Entry.IsNote.rests {entry : Entry} (h : entry.IsNote) : entry.Rests := by
  refine ⟨fun p => ?_, h.finalizes⟩
  cases entry with
  | called => exact h.elim
  | ended execution code =>
    cases execution with
    | step => exact h.elim
    | exec => rfl
  | _ => rfl

/-- A plain call leaves all objects at rest. -/
theorem Native.Call.IsPlain.rests {c : Call} {a : c.Answer} (h : c.IsPlain a) :
    (Entry.called c a).Rests := by
  refine ⟨fun p => ?_, h.finalizes⟩
  cases c with
  | reset => exact h.elim
  | _ => rfl

/-- Moves keep statements on record, if the engine hands out no object that is still in use. -/
theorem Move.documented {s s' : Stage E H} (move : Move s s')
    (lending : Throughout Lending s'.world.transcript) (h : s.Documented) : s'.Documented := by
  cases move with
  | note hn => exact h.rests hn.rests rfl rfl
  | call plain => exact h.rests plain.rests rfl rfl
  | began => exact h.rests ⟨fun _ => rfl, rfl⟩ rfl rfl
  | allocate => exact h.rests ⟨fun _ => rfl, rfl⟩ rfl rfl
  | abandon => exact h.rests ⟨fun _ => rfl, rfl⟩ rfl rfl
  | adopt => exact h.rests ⟨fun _ => rfl, rfl⟩ rfl rfl
  | close => exact h.rests ⟨fun _ => rfl, rfl⟩ rfl rfl
  | refuseClose => exact h.rests ⟨fun _ => rfl, rfl⟩ rfl rfl
  | @prepare κ w x d text size p sql hand database done made =>
    let entry : Entry := .called (.prepareV2 d text size) (w.answer (.prepareV2 d text size))
    have prepares : entry.prepares = some (p, d) := by
      simp only [entry, Entry.prepares, made, Option.map_some]
    -- the objects of the statements in hand are lent, so none of them is the new one
    have unused : ¬ Lent p w.transcript := lending.now p d prepares
    have rests : entry.Rests := ⟨fun _ => rfl, rfl⟩
    have before : Stage.Documented ⟨κ, w.asked (.prepareV2 d text size)⟩ :=
      h.rests rests rfl rfl
    constructor
    · refine Multiset.forall_mem_cons.mpr ⟨?_, before.recorded⟩
      refine ⟨p, [], ⟨entry, w.transcript, rfl, prepares⟩, ?_⟩
      exact .live rfl (List.forall_mem_nil _) rfl
    · have handles : (⟨x.id, d, some p, .prepared, sql⟩ ::ₘ κ.statements).filterMap
          Statement.handle = p ::ₘ κ.statements.filterMap Statement.handle :=
        Multiset.filterMap_cons_some _ _ _ rfl
      rw [show _ = _ from handles, Multiset.nodup_cons]
      refine ⟨fun mem => unused ?_, h.distinct⟩
      obtain ⟨t, ht, handle⟩ := (Multiset.mem_filterMap _ _).mp mem
      exact (h.recorded t ht).lent handle
  | @reset κ w t rest p hand handle =>
    have only (q : Program) (other : q ≠ p) :
        (Entry.called (.reset p) (w.answer (.reset p))).leaves? q = none :=
      if_neg other.symm
    exact h.moved hand handle (Entry.leaves?_reset p _) only rfl rfl rfl
  | @step κ w t rest p code hand handle =>
    have only (q : Program) (other : q ≠ p) :
        (Entry.ended (.step p) code).leaves? q = none :=
      if_neg other.symm
    exact h.moved hand handle (Entry.leaves?_step p code) only rfl rfl rfl
  | @finalize κ w t rest p hand handle =>
    have only (q : Program) (other : q ≠ p) :
        (Entry.called (.finalize p) (w.answer (.finalize p))).leaves? q = none ∧
          (Entry.called (.finalize p) (w.answer (.finalize p))).finalizes ≠ some q :=
      ⟨rfl, fun same => other (Option.some.inj same).symm⟩
    have finalizes : (Entry.called (.finalize p) (w.answer (.finalize p))).finalizes = some p := rfl
    have own := (h.recorded t (hand ▸ Multiset.mem_cons_self t rest)).finalized handle finalizes
    constructor
    · exact Multiset.forall_mem_cons.mpr ⟨own, h.others hand handle only⟩
    · have distinct := h.distinct
      rw [show _ = _ from hand, Multiset.filterMap_cons_some _ _ _ handle,
        Multiset.nodup_cons] at distinct
      rw [Multiset.filterMap_cons_none _ _ rfl]
      exact distinct.2
  | @forget κ w t rest hand handle =>
    have recorded := h.recorded
    have distinct := h.distinct
    rw [show _ = _ from hand] at recorded distinct
    rw [Multiset.filterMap_cons_none _ _ handle] at distinct
    exact ⟨(Multiset.forall_mem_cons.mp recorded).2, distinct⟩
  | installFunction => exact h.rests ⟨fun _ => rfl, rfl⟩ rfl rfl
  | removeFunction => exact h.rests ⟨fun _ => rfl, rfl⟩ rfl rfl
  | settle => exact h.rests ⟨fun _ => rfl, rfl⟩ rfl rfl
  | refuseBusy => exact h.rests ⟨fun _ => rfl, rfl⟩ rfl rfl
  | _ => exact ⟨h.recorded, h.distinct⟩

end EngineBridge
