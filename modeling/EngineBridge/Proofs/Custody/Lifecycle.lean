import EngineBridge.Proofs.Custody.Releasing

/-!
# The life of a connection

A connection is opened at most once and closed at most once, and nothing else ever happens to
it.  What interrupts of it go to is its object at any time, also when the connection itself is
not there any more.
-/

set_option autoImplicit false

namespace EngineBridge

open Native

variable {E : Engine} {H : Host}

/-- The paths to which a connection has been opened, the latest first. -/
def openings (id : ConnectionId) (log : List Entry) : List String :=
  log.filterMap fun
    | .reported (.opened other path) => if other = id then some path else none
    | _ => none

namespace Connection

/-- What has become of a connection while some entries joined the transcript, the latest first:
it was opened where the transcript says so, closed where the engine has agreed to close its
object, and left alone otherwise. -/
inductive Advances (x : Connection) : Connection → List Entry → Prop
  | start : Advances x x []
  | stays {y : Connection} {log : List Entry} {entry : Entry} (h : Advances x y log)
      (other : ∀ path, entry ≠ .reported (.opened x.id path)) : Advances x y (entry :: log)
  | opened {y : Connection} {log : List Entry} {d : Database} {path : String}
      (h : Advances x y log) (unopened : y.state = .unopened) :
      Advances x { y with state := .opened, handle := some d, path := path }
        (.reported (.opened x.id path) :: log)
  | closed {y : Connection} {log : List Entry} {d : Database} (h : Advances x y log)
      (database : y.database = .ok d) :
      Advances x { y with state := .closed, handle := none }
        (.called (.closeV2 d) (0 : Int32) :: log)

namespace Advances

variable {x y : Connection} {log : List Entry}

/-- A connection keeps its identity. -/
theorem id_eq (h : x.Advances y log) : y.id = x.id := by
  induction h with
  | start => rfl
  | stays _ _ ih => exact ih
  | opened _ _ ih => exact ih
  | closed _ _ ih => exact ih

/-- Without an opening, and as long as there is nothing to close, a connection stays as it is. -/
theorem of_silent (h : ∀ path, Entry.reported (.opened x.id path) ∉ log) : x.Advances x log := by
  induction log with
  | nil => exact .start
  | cons entry earlier ih =>
    refine .stays (ih fun path hmem => h path (List.mem_cons_of_mem _ hmem)) ?_
    rintro path rfl
    exact h path List.mem_cons_self

/-- A connection is as it was, or it has been opened once, or it had been opened before and has
been closed. -/
theorem cases_state (h : x.Advances y log) :
    y = x ∧ openings x.id log = [] ∨
      x.state = .unopened ∧ y.state ≠ .unopened ∧ openings x.id log = [y.path] ∨
      (∃ d, x.database = .ok d ∧ .called (.closeV2 d) (0 : Int32) ∈ log) ∧
        y = { x with state := .closed, handle := none } ∧ openings x.id log = [] := by
  induction h with
  | start => exact .inl ⟨rfl, rfl⟩
  | @stays y log entry h other ih =>
    have same : openings x.id (entry :: log) = openings x.id log := by
      unfold openings
      rw [List.filterMap_cons_none]
      split
      · next id path =>
        refine if_neg ?_
        rintro rfl
        exact other path rfl
      · rfl
    rw [same]
    refine ih.imp_right (Or.imp_right ?_)
    rintro ⟨⟨d, database, hmem⟩, rest⟩
    exact ⟨⟨d, database, List.mem_cons_of_mem _ hmem⟩, rest⟩
  | @opened y log d path h unopened ih =>
    have more : openings x.id (.reported (.opened x.id path) :: log) =
        path :: openings x.id log := by
      unfold openings
      rw [List.filterMap_cons_some]
      exact if_pos rfl
    rw [more]
    rcases ih with ⟨rfl, none⟩ | ⟨-, begun, -⟩ | ⟨-, rfl, -⟩
    · rw [none]
      exact .inr (.inl ⟨unopened, by simp, rfl⟩)
    · exact absurd unopened begun
    · cases unopened
  | @closed y log d h database ih =>
    have same : openings x.id (.called (.closeV2 d) (0 : Int32) :: log) = openings x.id log :=
      rfl
    rw [same]
    rcases ih with ⟨rfl, none⟩ | ⟨unopened, -, paths⟩ | ⟨-, rfl, -⟩
    · exact .inr (.inr ⟨⟨d, database, List.mem_cons_self⟩, rfl, none⟩)
    · exact .inr (.inl ⟨unopened, by simp, paths⟩)
    · cases (Connection.database_eq_ok_iff.mp database).1

end Advances

end Connection

namespace Stage

/-- A connection has become what there is of it now, if it is still there, and what interrupts
of it go to has become its object; one that went out of use while it was open had been told to
be closed. -/
def Follows (x : Connection) (base : List Entry) (s : Stage E H) : Prop :=
  ∃ y more, s.world.transcript = more ++ base ∧ x.Advances y more ∧
    s.world.target x.id = y.handle ∧ (y.state = .opened ↔ y.handle.isSome) ∧
    (y ∈ s.held ∨
      (∀ z ∈ s.held, z.id ≠ x.id) ∧ ∀ d, y.database = .ok d → ToldToClose d s.world.transcript)

/-- Every connection that there has ever been has been followed from the beginning, and no
other one has been opened. -/
structure Chronicled (s : Stage E H) : Prop where
  follows : ∀ id : ConnectionId, id.number ≤ s.world.connections → s.Follows { id } []
  silent : ∀ id : ConnectionId, s.world.connections < id.number →
    ∀ path, Entry.reported (.opened id path) ∉ s.world.transcript

end Stage

section Moves

variable {s s' : Stage E H} {x : Connection} {base : List Entry}

/-- An opening is not one of another connection. -/
theorem Entry.opened_ne {id other : ConnectionId} {path : String} (h : other ≠ id)
    (path' : String) :
    Entry.reported (.opened other path) ≠ .reported (.opened id path') := by
  rintro heq
  cases heq
  exact h rfl

/-- What happens to another connection makes no difference. -/
theorem Stage.Follows.frame {z z' : Connection} {rest : Multiset Connection} {entry : Entry}
    (h : s.Follows x base) (other : z.id ≠ x.id) (before : s.held = z ::ₘ rest)
    (held : s'.held = z' ::ₘ rest) (same : z'.id = z.id)
    (target : s'.world.target x.id = s.world.target x.id)
    (transcript : s'.world.transcript = entry :: s.world.transcript)
    (quiet : ∀ path, entry ≠ .reported (.opened x.id path)) : s'.Follows x base := by
  obtain ⟨y, more, heq, advances, armed, live, there⟩ := h
  refine ⟨y, entry :: more, by rw [transcript, heq]; rfl, advances.stays quiet,
    target.trans armed, live, ?_⟩
  rw [held, transcript]
  rw [before] at there
  rcases there with hy | ⟨gone, told⟩
  · rcases Multiset.mem_cons.mp hy with rfl | hy
    · exact absurd advances.id_eq other
    · exact .inl (Multiset.mem_cons_of_mem hy)
  · refine .inr ⟨fun u hu => ?_, fun d hd => (told d hd).mono (List.subset_cons_self _ _)⟩
    rcases Multiset.mem_cons.mp hu with rfl | hu
    · rw [same]
      exact other
    · exact gone u (Multiset.mem_cons_of_mem hu)

/-- Connections are not lost from sight. -/
theorem Move.follows (move : Move s s') (coherent : s.Coherent)
    (known : x.id.number ≤ s.world.connections) (h : s.Follows x base) : s'.Follows x base := by
  have follows := h
  obtain ⟨y, more, transcript, advances, target, live, there⟩ := h
  -- a connection that is held and has the number is the one that is followed
  have found {z : Connection} (hz : z ∈ s.held) (same : z.id = x.id) : y = z := by
    rcases there with hy | ⟨gone, -⟩
    · exact coherent.eq_of_id hy hz (advances.id_eq.trans same.symm)
    · exact absurd same (gone z hz)
  cases move.evolves with
  | same held connections target' silent =>
    have there' {log : List Entry} (sub : s.world.transcript ⊆ log) : y ∈ s'.held ∨
        (∀ z ∈ s'.held, z.id ≠ x.id) ∧ ∀ d, y.database = .ok d → ToldToClose d log := by
      rw [held]
      exact there.imp_right fun ⟨gone, told⟩ => ⟨gone, fun d hd => (told d hd).mono sub⟩
    rcases silent with heq | ⟨entry, quiet, heq⟩
    · exact ⟨y, more, heq.trans transcript, advances, by rw [target', target], live,
        there' (heq ▸ List.Subset.refl _)⟩
    · refine ⟨y, entry :: more, by rw [heq, transcript]; rfl, advances.stays ?_,
        by rw [target', target], live, there' (heq ▸ List.subset_cons_self _ _)⟩
      rintro path rfl
      exact quiet trivial
  | created held connections target' heq =>
    refine ⟨y, more, heq.trans transcript, advances, by rw [target', target], live, ?_⟩
    rw [held, heq]
    rcases there with hy | ⟨gone, told⟩
    · exact .inl (Multiset.mem_cons_of_mem hy)
    · refine .inr ⟨fun z hz => ?_, told⟩
      rcases Multiset.mem_cons.mp hz with rfl | hz
      · rintro heq
        rw [← heq] at known
        exact Nat.not_succ_le_self _ known
      · exact gone z hz
  | @opened z rest d path before unopened held connections target' heq =>
    by_cases same : z.id = x.id
    · obtain rfl := found (before ▸ Multiset.mem_cons_self z rest) same
      refine ⟨_, .reported (.opened x.id path) :: more, ?_, advances.opened (d := d) unopened, ?_,
        by simp, ?_⟩
      · rw [heq, transcript, same]
        rfl
      · rw [target', if_pos same.symm]
      · exact .inl (held ▸ Multiset.mem_cons_self _ _)
    · exact follows.frame same before held rfl (by rw [target', if_neg (Ne.symm same)]) heq
        (Entry.opened_ne same)
  | @closed z rest d before database held connections target' heq =>
    by_cases same : z.id = x.id
    · obtain rfl := found (before ▸ Multiset.mem_cons_self z rest) same
      refine ⟨_, _ :: more, ?_, advances.closed database, ?_, by simp, ?_⟩
      · rw [heq, transcript]
        rfl
      · rw [target', if_pos same.symm]
      · exact .inl (held ▸ Multiset.mem_cons_self _ _)
    · exact follows.frame same before held rfl (by rw [target', if_neg (Ne.symm same)]) heq
        (by simp)
  | @discarded z before tried connections target' heq =>
    refine ⟨y, more, heq.trans transcript, advances, by rw [target', target], live, ?_⟩
    have distinct := coherent.distinct
    rw [before, Multiset.map_cons, Multiset.nodup_cons] at distinct
    rw [heq]
    by_cases same : z.id = x.id
    · obtain rfl := found (before ▸ Multiset.mem_cons_self z _) same
      refine .inr ⟨fun other hother heq => ?_, tried⟩
      exact distinct.1 (Multiset.mem_map.mpr ⟨other, hother, heq.trans same.symm⟩)
    · rw [before] at there
      refine there.imp (fun hy => ?_) fun ⟨gone, told⟩ =>
        ⟨fun other hother => gone other (Multiset.mem_cons_of_mem hother), told⟩
      rcases Multiset.mem_cons.mp hy with rfl | hy
      · exact absurd advances.id_eq same
      · exact hy

/-- The number of connections never goes down. -/
theorem Move.connections_le (move : Move s s') :
    s.world.connections ≤ s'.world.connections := by
  cases move.evolves with
  | created _ connections => exact connections ▸ Nat.le_succ _
  | same _ connections => exact connections.ge
  | opened _ _ _ connections => exact connections.ge
  | closed _ _ _ connections => exact connections.ge
  | discarded _ _ connections => exact connections.ge

/-- Moves keep the chronicle. -/
theorem Move.chronicled (move : Move s s') (coherent : s.Coherent) (h : s.Chronicled) :
    s'.Chronicled := by
  have old (id : ConnectionId) (known : id.number ≤ s.world.connections) : s'.Follows { id } [] :=
    move.follows coherent known (h.follows id known)
  have quiet {id : ConnectionId} {entry : Entry} (unknown : s.world.connections < id.number)
      (ne : ∀ path, entry ≠ .reported (.opened id path)) (path : String) :
      Entry.reported (.opened id path) ∉ entry :: s.world.transcript :=
    List.not_mem_cons_of_ne_of_not_mem (Ne.symm (ne path)) (h.silent id unknown path)
  cases move.evolves with
  | same held connections target silent =>
    refine ⟨fun id known => old id (connections ▸ known), fun id unknown path => ?_⟩
    rw [connections] at unknown
    rcases silent with heq | ⟨entry, silent, heq⟩
    · rw [heq]
      exact h.silent id unknown path
    · rw [heq]
      refine quiet unknown ?_ path
      rintro path rfl
      exact silent trivial
  | created held connections target heq =>
    refine ⟨fun id known => ?_, fun id unknown path => ?_⟩
    · by_cases hid : id.number ≤ s.world.connections
      · exact old id hid
      · rw [connections] at known
        obtain rfl : id = ⟨s.world.connections + 1⟩ := by
          cases id
          simp only [ConnectionId.mk.injEq]
          simp only at known hid
          omega
        have silent := h.silent ⟨s.world.connections + 1⟩ (Nat.lt_succ_self _)
        refine ⟨_, s'.world.transcript, (List.append_nil _).symm, .of_silent ?_, ?_, by simp,
          .inl (held ▸ Multiset.mem_cons_self _ _)⟩
        · rw [heq]
          exact silent
        · rw [target]
          refine Option.eq_none_iff_forall_ne_some.mpr fun d hd => ?_
          exact Nat.not_succ_le_self _ (coherent.armed _ d hd)
    · rw [heq]
      exact h.silent id (by omega) path
  | @opened z rest d path before unopened held connections target heq =>
    refine ⟨fun id known => old id (connections ▸ known), fun id unknown path' => ?_⟩
    rw [connections] at unknown
    have counted := coherent.counted z (before ▸ Multiset.mem_cons_self z rest)
    rw [heq]
    refine quiet unknown (Entry.opened_ne ?_) path'
    rintro rfl
    omega
  | closed before database held connections target heq =>
    refine ⟨fun id known => old id (connections ▸ known), fun id unknown path => ?_⟩
    rw [heq]
    exact quiet (connections ▸ unknown) (by simp) path
  | discarded before tried connections target heq =>
    refine ⟨fun id known => old id (connections ▸ known), fun id unknown path => ?_⟩
    rw [heq]
    exact h.silent id (connections ▸ unknown) path

end Moves

/-- The world after an interrupt that goes to an object, or nowhere. -/
def World.interrupted (w : World E H) : Option Database → World E H
  | some d => w.called (.interrupt d)
  | none => w

/-- What interrupts go to is interrupted, and nothing else is done. -/
theorem Connection.interrupt_run (id : ConnectionId) (w : World E H) :
    (Connection.interrupt id : Bridge E H Unit).run w = ((), w.interrupted (w.target id)) := by
  unfold Connection.interrupt
  rw [StateT.run_bind, StateT.run_get, pure_bind]
  cases w.target id <;> rfl

end EngineBridge
