import EngineBridge.Proofs.Custody.Lifetimes
import EngineBridge.Proofs.Custody.Plain

/-!
# Objects in hand

Whatever a program can name in a call has been handed out and is not gone, so that all
calls are lawful, as long as the engine never hands out an object twice.
-/

set_option autoImplicit false

namespace EngineBridge

open Native

variable {E : Engine} {H : Host}

namespace Stage

/-- The objects of connections in hand are not gone. -/
structure Unspoiled (s : Stage E H) : Prop where
  armed : ∀ id d, s.world.target id = some d →
    ¬ Gone d s.world.transcript ∧ ¬ Pending d s.world.transcript
  opening : ∀ d, s.custody.opening = some d → ¬ Gone d s.world.transcript

/-- The objects that were handed out for statements are in hand until they are finalized, and
only then. -/
structure Accounted (s : Stage E H) : Prop where
  opening : ∀ d, s.custody.opening = some d →
    ∀ other ∈ s.world.transcript, ∀ p, other.prepares ≠ some (p, d)
  live : ∀ p d, (p, d) ∈ s.programs →
    (∃ other ∈ s.world.transcript, other.prepares = some (p, d)) ∧
      ∀ other ∈ s.world.transcript, other.finalizes ≠ some p
  distinct : (s.programs.map Prod.fst).Nodup
  accounted : ∀ other ∈ s.world.transcript, ∀ p d, other.prepares = some (p, d) →
    (∃ last ∈ s.world.transcript, last.finalizes = some p) ∨ (p, d) ∈ s.programs

/-- All calls so far were lawful, and those to come will be if they name what is in hand. -/
structure Tracked (s : Stage E H) : Prop where
  unspoiled : s.Unspoiled
  accounted : s.Accounted
  lawful : Throughout Lawful s.world.transcript

variable {s s' : Stage E H}

/-- Objects stay unspoiled as long as others are closed. -/
theorem Unspoiled.append (h : s.Unspoiled) {entry : Entry}
    (target : ∀ id d, s'.world.target id = some d →
      s.world.target id = some d ∧ entry.allots ≠ some d ∧ ∀ code, entry.closes = some (d, code) →
        code ≠ 0)
    (opening : ∀ d, s'.custody.opening = some d →
      s.custody.opening = some d ∧ ∀ code, entry.closes ≠ some (d, code))
    (transcript : s'.world.transcript = entry :: s.world.transcript) : s'.Unspoiled where
  armed id d hd := by
    obtain ⟨hd, allots, closes⟩ := target id d hd
    obtain ⟨kept, settled⟩ := h.armed id d hd
    rw [transcript]
    exact ⟨not_gone_cons kept fun code hc => ⟨closes code hc, settled⟩,
      not_pending_cons settled allots⟩
  opening d hd := by
    obtain ⟨hd, closes⟩ := opening d hd
    rw [transcript]
    exact not_gone_cons (h.opening d hd) fun code hc => absurd hc (closes code)

/-- Objects stay unspoiled if none is handed out, passed on or closed. -/
theorem Unspoiled.quiet (h : s.Unspoiled) {entry : Entry} (allots : entry.allots = none)
    (closes : entry.closes = none) (target : s'.world.target = s.world.target)
    (opening : s'.custody.opening = s.custody.opening)
    (transcript : s'.world.transcript = entry :: s.world.transcript) : s'.Unspoiled :=
  h.append (fun id d hd => ⟨by rw [← target]; exact hd, by simp [allots], by simp [closes]⟩)
    (fun d hd => ⟨by rw [← opening]; exact hd, by simp [closes]⟩) transcript

/-- Objects of statements stay accounted for if none is handed out or let go. -/
theorem Accounted.append (h : s.Accounted) {entry : Entry}
    (prepares : entry.prepares = none) (finalizes : entry.finalizes = none)
    (opening : ∀ d, s'.custody.opening = some d → s.custody.opening = some d)
    (programs : s'.programs = s.programs)
    (transcript : s'.world.transcript = entry :: s.world.transcript) : s'.Accounted := by
  constructor
  · intro d hd
    rw [transcript]
    exact List.forall_mem_cons.mpr ⟨by simp [prepares], h.opening d (opening d hd)⟩
  · intro p d hp
    rw [programs] at hp
    obtain ⟨⟨other, ho, hprepares⟩, unfinalized⟩ := h.live p d hp
    rw [transcript]
    exact ⟨⟨other, List.mem_cons_of_mem _ ho, hprepares⟩,
      List.forall_mem_cons.mpr ⟨by simp [finalizes], unfinalized⟩⟩
  · rw [programs]
    exact h.distinct
  · intro other ho p d hp
    rw [transcript] at ho ⊢
    rw [programs]
    rcases List.mem_cons.mp ho with rfl | ho
    · exact nomatch prepares.symm.trans hp
    · refine (h.accounted other ho p d hp).imp_left ?_
      rintro ⟨last, hl, hlast⟩
      exact ⟨last, List.mem_cons_of_mem _ hl, hlast⟩

/-- An object that is handed out for a statement is accounted for, if it is new. -/
theorem Accounted.prepare (h : s.Accounted) {entry : Entry} {p : Program} {d : Database}
    (prepares : entry.prepares = some (p, d)) (finalizes : entry.finalizes = none)
    (new : ∀ other ∈ s.world.transcript, ∀ d', other.prepares ≠ some (p, d'))
    (unfinalized : ∀ other ∈ s.world.transcript, other.finalizes ≠ some p)
    (apart : s.custody.opening ≠ some d) (opening : s'.custody.opening = s.custody.opening)
    (programs : s'.programs = (p, d) ::ₘ s.programs)
    (transcript : s'.world.transcript = entry :: s.world.transcript) : s'.Accounted := by
  constructor
  · intro other hother
    rw [opening] at hother
    rw [transcript]
    refine List.forall_mem_cons.mpr ⟨fun p' hp => ?_, h.opening other hother⟩
    obtain ⟨-, rfl⟩ := Prod.mk.inj (Option.some.inj (prepares.symm.trans hp))
    exact apart hother
  · intro p' d' hp
    rw [programs] at hp
    rw [transcript]
    rcases Multiset.mem_cons.mp hp with heq | hp
    · obtain ⟨rfl, rfl⟩ := Prod.mk.inj heq
      exact ⟨⟨entry, List.mem_cons_self, prepares⟩,
        List.forall_mem_cons.mpr ⟨by simp [finalizes], unfinalized⟩⟩
    · obtain ⟨⟨other, ho, hprepares⟩, kept⟩ := h.live p' d' hp
      exact ⟨⟨other, List.mem_cons_of_mem _ ho, hprepares⟩,
        List.forall_mem_cons.mpr ⟨by simp [finalizes], kept⟩⟩
  · rw [programs, Multiset.map_cons, Multiset.nodup_cons]
    refine ⟨fun hp => ?_, h.distinct⟩
    obtain ⟨⟨_, d'⟩, hmem, rfl⟩ := Multiset.mem_map.mp hp
    obtain ⟨other, ho, hprepares⟩ := (h.live _ d' hmem).1
    exact new other ho d' hprepares
  · intro other ho p' d' hp
    rw [transcript] at ho ⊢
    rw [programs]
    rcases List.mem_cons.mp ho with rfl | ho
    · exact .inr (Multiset.mem_cons.mpr (.inl (Option.some.inj (hp.symm.trans prepares))))
    · refine (h.accounted other ho p' d' hp).imp ?_ Multiset.mem_cons_of_mem
      rintro ⟨last, hl, hlast⟩
      exact ⟨last, List.mem_cons_of_mem _ hl, hlast⟩

/-- An object that is let go is accounted for, and no longer in hand. -/
theorem Accounted.finalize (h : s.Accounted) {entry : Entry} {p : Program} {d : Database}
    (prepares : entry.prepares = none) (finalizes : entry.finalizes = some p)
    (opening : s'.custody.opening = s.custody.opening)
    (programs : s.programs = (p, d) ::ₘ s'.programs)
    (transcript : s'.world.transcript = entry :: s.world.transcript) : s'.Accounted := by
  have distinct := h.distinct
  rw [programs, Multiset.map_cons, Multiset.nodup_cons] at distinct
  constructor
  · intro other hother
    rw [opening] at hother
    rw [transcript]
    exact List.forall_mem_cons.mpr ⟨by simp [prepares], h.opening other hother⟩
  · intro p' d' hp
    have hbefore : (p', d') ∈ s.programs := programs ▸ Multiset.mem_cons_of_mem hp
    obtain ⟨⟨other, ho, hprepares⟩, unfinalized⟩ := h.live p' d' hbefore
    rw [transcript]
    refine ⟨⟨other, List.mem_cons_of_mem _ ho, hprepares⟩,
      List.forall_mem_cons.mpr ⟨fun hfinalizes => ?_, unfinalized⟩⟩
    obtain rfl : p = p' := Option.some.inj (finalizes.symm.trans hfinalizes)
    exact distinct.1 (Multiset.mem_map.mpr ⟨(p, d'), hp, rfl⟩)
  · exact distinct.2
  · intro other ho p' d' hp
    rw [transcript] at ho ⊢
    rcases List.mem_cons.mp ho with rfl | ho
    · exact nomatch prepares.symm.trans hp
    · rcases h.accounted other ho p' d' hp with ⟨last, hl, hlast⟩ | hmem
      · exact .inl ⟨last, List.mem_cons_of_mem _ hl, hlast⟩
      · rw [programs] at hmem
        rcases Multiset.mem_cons.mp hmem with heq | hmem
        · obtain ⟨rfl, -⟩ := Prod.mk.inj heq
          exact .inl ⟨entry, List.mem_cons_self, finalizes⟩
        · exact .inr hmem

/-- What is within reach of a program has been handed out and is not gone. -/
theorem Tracked.alive (h : s.Tracked) (coherent : s.Coherent) (apart : s.Apart)
    (backed : s.Backed) {d : Database} (reach : s.Reaches (.database d)) :
    (∃ other ∈ s.world.transcript, other.allots = some d) ∧ ¬ Gone d s.world.transcript := by
  have of_target {id : ConnectionId} (live : s.world.target id = some d) :
      (∃ other ∈ s.world.transcript, other.allots = some d) ∧ ¬ Gone d s.world.transcript :=
    ⟨(apart.armed id d live).allotted, (h.unspoiled.armed id d live).1⟩
  rcases reach with ⟨x, hx, handle⟩ | ⟨t, ht, rfl⟩ | opening | ⟨id, live⟩
  · exact of_target ((coherent.target x hx).trans handle)
  · obtain ⟨x, hx, -, database⟩ := backed t ht
    exact of_target (coherent.target_of_shared hx database)
  · exact ⟨(apart.opening d opening).allotted, h.unspoiled.opening d opening⟩
  · exact of_target live

/-- A call is lawful if what it names is within reach. -/
theorem Tracked.lawful_of_reaches (h : s.Tracked) (coherent : s.Coherent) (apart : s.Apart)
    (backed : s.Backed) {entry : Entry} (reach : ∀ o ∈ entry.operands, s.Reaches o)
    (ordered : ∀ d, entry.closes = some (d, 0) → ∀ p, (p, d) ∉ s.programs) :
    Lawful entry s.world.transcript where
  allotted d hd := (h.alive coherent apart backed (reach _ hd)).1
  kept d hd := (h.alive coherent apart backed (reach _ hd)).2
  prepared p hp := by
    obtain ⟨t, ht, handle⟩ := reach _ hp
    obtain ⟨other, ho, hprepares⟩ := (h.accounted.live p t.database (mem_programs ht handle)).1
    exact ⟨other, ho, t.database, hprepares⟩
  unfinalized p hp := by
    obtain ⟨t, ht, handle⟩ := reach _ hp
    exact (h.accounted.live p t.database (mem_programs ht handle)).2
  ordered d hd other ho p hprepares :=
    (h.accounted.accounted other ho p d hprepares).resolve_right (ordered d hd p)

end Stage

/-! ## Moves -/

namespace Entry

variable {entry : Entry}

/-- A note names no object. -/
theorem IsNote.operands (h : entry.IsNote) : entry.operands = [] := by
  cases entry with
  | called => exact h.elim
  | began => exact h.elim
  | _ => rfl

/-- A note prepares nothing. -/
theorem IsNote.prepares (h : entry.IsNote) : entry.prepares = none := by
  cases entry with
  | called => exact h.elim
  | _ => rfl

/-- A note finalizes nothing. -/
theorem IsNote.finalizes (h : entry.IsNote) : entry.finalizes = none := by
  cases entry with
  | called => exact h.elim
  | _ => rfl

end Entry

/-- A plain call hands out no object for a statement, if the engine is faithful. -/
theorem Native.Call.IsPlain.prepares {c : Call} {a : c.Answer} {earlier : List Entry}
    (h : c.IsPlain a) (fresh : Fresh (.called c a) earlier) :
    (Entry.called c a).prepares = none := by
  cases c with
  | prepareV2 d text size =>
    refine Option.map_eq_none_iff.mpr (Option.not_isSome_iff_eq_none.mp fun hsome => h ?_)
    have sound : (a.program.isNone || a.code == 0) = true := fresh.sound
    rw [Option.isNone_eq_false_iff.mpr hsome, Bool.false_or, beq_iff_eq] at sound
    exact ⟨sound, hsome⟩
  | _ => rfl

/-- A plain call lets no statement go. -/
theorem Native.Call.IsPlain.finalizes {c : Call} {a : c.Answer} (h : c.IsPlain a) :
    (Entry.called c a).finalizes = none := by
  cases c with
  | finalize => exact h.elim
  | _ => rfl

/-- Moves close objects only once they are not in hand any more. -/
theorem Move.unspoiled {s s' : Stage E H} (move : Move s s') (coherent : s.Coherent)
    (apart : s.Apart) (lawful : Throughout Lawful s.world.transcript)
    (fresh : Throughout Fresh s'.world.transcript) (h : s.Unspoiled) : s'.Unspoiled := by
  cases move with
  | note hn => exact h.quiet hn.neutral.allots hn.neutral.closes rfl rfl rfl
  | call plain => exact h.quiet plain.neutral.allots plain.neutral.closes rfl rfl rfl
  | began => exact h.quiet rfl rfl rfl rfl rfl
  | @allocate κ w path flags vfs idle =>
    -- no object is handed out a second time, so none that is known can be the new one
    have new : ∀ d, (w.answer (.openV2 path flags vfs)).database = some d →
        ∀ other ∈ w.transcript, other.allots ≠ some d := fresh.now.allots
    constructor
    · intro id d hd
      obtain ⟨kept, settled⟩ := h.armed id d hd
      refine ⟨not_gone_cons kept nofun, not_pending_cons settled fun hd' => ?_⟩
      obtain ⟨other, ho, hallots⟩ := (apart.armed id d hd).allotted
      exact new d hd' other ho hallots
    · intro d hd
      refine not_gone_cons (fun gone => ?_) nofun
      obtain ⟨other, ho, hallots⟩ := allotted_of_gone lawful gone
      exact new d hd other ho hallots
  | @abandon κ w d opening =>
    refine h.append (fun id other hother => ⟨hother, by nofun, fun code hc => ?_⟩)
      (fun _ hd => nomatch hd) rfl
    obtain ⟨rfl, -⟩ := Prod.mk.inj (Option.some.inj hc)
    exact absurd hother (apart.fresh id d opening)
  | @adopt κ w x rest d path opening hand unopened =>
    refine ⟨fun id other hother => ?_, nofun⟩
    refine ⟨not_gone_cons ?_ nofun, fun pending => pending.1 trivial⟩
    rcases w.of_target_arm x.id d hother with ⟨-, rfl⟩ | ⟨-, hother⟩
    · exact h.opening other opening
    · exact (h.armed id other hother).1
  | @close κ w x rest d hand database done =>
    have live : w.target x.id = some d :=
      coherent.target_of_exclusive (hand ▸ Multiset.mem_cons_self x rest) database
    refine h.append (fun id other hother => ?_) (fun other hother => ⟨hother, fun code hc => ?_⟩)
      rfl
    · obtain ⟨hid, hother⟩ := (w.asked (.closeV2 d)).of_target_disarm x.id hother
      refine ⟨hother, nofun, fun code hc => ?_⟩
      obtain ⟨rfl, -⟩ := Prod.mk.inj (Option.some.inj hc)
      exact absurd (apart.distinct id x.id d hother live) hid
    · obtain ⟨rfl, -⟩ := Prod.mk.inj (Option.some.inj hc)
      exact apart.fresh x.id d hother live
  | @refuseClose κ w x d hand database failed =>
    have live : w.target x.id = some d := coherent.target_of_exclusive hand database
    refine h.append (fun id other hother => ⟨hother, by nofun, fun code hc => ?_⟩)
      (fun other hother => ⟨hother, fun code hc => ?_⟩) rfl
    · obtain ⟨-, rfl⟩ := Prod.mk.inj (Option.some.inj hc)
      exact failed
    · obtain ⟨rfl, -⟩ := Prod.mk.inj (Option.some.inj hc)
      exact apart.fresh x.id d hother live
  | prepare => exact h.quiet rfl rfl rfl rfl rfl
  | reset => exact h.quiet rfl rfl rfl rfl rfl
  | step => exact h.quiet rfl rfl rfl rfl rfl
  | finalize => exact h.quiet rfl rfl rfl rfl rfl
  | installFunction => exact h.quiet rfl rfl rfl rfl rfl
  | removeFunction => exact h.quiet rfl rfl rfl rfl rfl
  | settle => exact h.quiet rfl rfl rfl rfl rfl
  | refuseBusy => exact h.quiet rfl rfl rfl rfl rfl
  | _ => exact ⟨h.armed, h.opening⟩

/-- Moves keep account of the objects of statements. -/
theorem Move.accounted {s s' : Stage E H} (move : Move s s')
    (lawful : Throughout Lawful s.world.transcript) (apart : s.Apart) (coherent : s.Coherent)
    (fresh : Throughout Fresh s'.world.transcript) (h : s.Accounted) : s'.Accounted := by
  -- a statement that keeps its object counts as before
  have changed {κ : Custody} {w w' : World E H} {t t' : Statement} {rest : Multiset Statement}
      (hand : κ.statements = t ::ₘ rest)
      (same : t'.handle = t.handle ∧ t'.database = t.database) :
      (Stage.mk { κ with statements := t' ::ₘ rest } w').programs = (Stage.mk κ w).programs := by
    simp only [Stage.programs, hand, Multiset.filterMap_cons, same.1, same.2]
  cases move with
  | note hn => exact h.append hn.prepares hn.finalizes (fun _ hd => hd) rfl rfl
  | call plain =>
    exact h.append (plain.prepares fresh.now) plain.finalizes (fun _ hd => hd) rfl rfl
  | began => exact h.append rfl rfl (fun _ hd => hd) rfl rfl
  | @allocate κ w path flags vfs idle =>
    have new : ∀ d, (w.answer (.openV2 path flags vfs)).database = some d →
        ∀ other ∈ w.transcript, other.allots ≠ some d := fresh.now.allots
    have kept : Stage.Accounted ⟨{ κ with opening := none }, w.asked (.openV2 path flags vfs)⟩ :=
      h.append rfl rfl (fun _ hd => nomatch hd) rfl rfl
    refine ⟨fun d hd => ?_, kept.live, kept.distinct, kept.accounted⟩
    refine List.forall_mem_cons.mpr ⟨nofun, fun other ho p hp => ?_⟩
    obtain ⟨first, hf, hallots⟩ := allotted_of_prepares lawful ho hp
    exact new d hd first hf hallots
  | abandon => exact h.append rfl rfl nofun rfl rfl
  | adopt => exact h.append rfl rfl nofun rfl rfl
  | close => exact h.append rfl rfl (fun _ hd => hd) rfl rfl
  | refuseClose => exact h.append rfl rfl (fun _ hd => hd) rfl rfl
  | @prepare κ w x d text size p sql hand database done made =>
    let t : Statement := ⟨x.id, d, some p, .prepared, sql⟩
    have programs : (Stage.mk { κ with statements := t ::ₘ κ.statements }
        (w.asked (.prepareV2 d text size))).programs = (p, d) ::ₘ (Stage.mk κ w).programs :=
      Multiset.filterMap_cons_some _ _ _ rfl
    have prepares : (Entry.called (.prepareV2 d text size)
        (w.answer (.prepareV2 d text size))).prepares = some (p, d) := by
      simp only [Entry.prepares, made, Option.map_some]
    have new : ∀ other ∈ w.transcript, ∀ d', other.prepares ≠ some (p, d') :=
      fresh.now.prepares p d prepares
    have live : w.target x.id = some d := coherent.target_of_shared hand database
    refine h.prepare prepares rfl new (fun other ho hfinalizes => ?_)
      (fun hd => apart.fresh x.id d hd live) rfl programs rfl
    obtain ⟨first, hf, d', hprepares⟩ := prepared_of_finalizes lawful ho hfinalizes
    exact new first hf d' hprepares
  | reset hand => exact h.append rfl rfl (fun _ hd => hd) (changed hand ⟨rfl, rfl⟩) rfl
  | step hand => exact h.append rfl rfl (fun _ hd => hd) (changed hand ⟨rfl, rfl⟩) rfl
  | @finalize κ w t rest p hand handle =>
    let t' : Statement := { t with handle := none, state := .finalized }
    have programs : (Stage.mk κ w).programs = (p, t.database) ::ₘ
        (Stage.mk { κ with statements := t' ::ₘ rest } (w.asked (.finalize p))).programs := by
      simp only [Stage.programs, hand]
      rw [Multiset.filterMap_cons_some _ _ _ (by rw [handle]; rfl),
        Multiset.filterMap_cons_none t' rest rfl]
    exact h.finalize rfl rfl rfl programs rfl
  | @forget κ w t rest hand handle =>
    have programs : (Stage.mk { κ with statements := rest } w).programs =
        (Stage.mk κ w).programs := by
      simp only [Stage.programs, hand]
      rw [Multiset.filterMap_cons_none]
      rw [handle]
      rfl
    exact ⟨h.opening, programs ▸ h.live, programs ▸ h.distinct, programs ▸ h.accounted⟩
  | installFunction => exact h.append rfl rfl (fun _ hd => hd) rfl rfl
  | removeFunction => exact h.append rfl rfl (fun _ hd => hd) rfl rfl
  | settle => exact h.append rfl rfl (fun _ hd => hd) rfl rfl
  | refuseBusy => exact h.append rfl rfl (fun _ hd => hd) rfl rfl
  | _ => exact ⟨h.opening, h.live, h.distinct, h.accounted⟩

/-- An entry that names no object is lawful. -/
theorem Lawful.of_operands_nil {entry : Entry} (h : entry.operands = []) (earlier : List Entry) :
    Lawful entry earlier := by
  constructor
  · exact fun d hd => by simp [h] at hd
  · exact fun d hd => by simp [h] at hd
  · exact fun p hp => by simp [h] at hp
  · exact fun p hp => by simp [h] at hp
  · exact fun d hd => by simpa [h] using mem_operands_of_closes hd

/-- Moves make lawful calls only. -/
theorem Move.tracked {s s' : Stage E H} (move : Move s s') (coherent : s.Coherent)
    (apart : s.Apart) (backed : s.Backed) (fresh : Throughout Fresh s'.world.transcript)
    (h : s.Tracked) : s'.Tracked := by
  refine ⟨move.unspoiled coherent apart h.lawful fresh h.unspoiled,
    move.accounted h.lawful apart coherent fresh h.accounted, ?_⟩
  have lawful {entry : Entry} (reach : ∀ o ∈ entry.operands, s.Reaches o)
      (ordered : ∀ d, entry.closes = some (d, 0) → ∀ p, (p, d) ∉ s.programs) :
      Throughout Lawful (entry :: s.world.transcript) :=
    .cons (h.lawful_of_reaches coherent apart backed reach ordered) h.lawful
  have silent {entry : Entry} (hn : entry.operands = []) :
      Throughout Lawful (entry :: s.world.transcript) :=
    .cons (.of_operands_nil hn _) h.lawful
  cases move with
  | note hn => exact silent hn.operands
  | call plain reach =>
    exact lawful reach fun d hd => nomatch plain.neutral.closes.symm.trans hd
  | began reach => exact lawful reach nofun
  | @allocate κ w path flags vfs idle =>
    refine lawful ?_ nofun
    cases vfs <;> exact Stage.reaches_none rfl
  | @abandon κ w d opening =>
    have reach : Stage.Reaches ⟨κ, w⟩ (.database d) := .inr (.inr (.inl opening))
    refine lawful (Stage.reaches_all reach rfl) fun other hc p hp => ?_
    obtain ⟨rfl, -⟩ := Prod.mk.inj (Option.some.inj hc)
    obtain ⟨entry, he, hprepares⟩ := (h.accounted.live p d hp).1
    exact h.accounted.opening d opening entry he p hprepares
  | adopt => exact silent rfl
  | @close κ w x rest d hand database done =>
    have hand' : x ∈ κ.exclusive := hand ▸ Multiset.mem_cons_self x rest
    have live : w.target x.id = some d := coherent.target_of_exclusive hand' database
    have reach : Stage.Reaches ⟨κ, w⟩ (.database d) :=
      Custody.reaches_exclusive hand' (Connection.handle_of_database database)
    refine lawful (Stage.reaches_all reach rfl) fun other hc p hp => ?_
    obtain ⟨rfl, -⟩ := Prod.mk.inj (Option.some.inj hc)
    -- a statement on this object would be of a connection in a slot, but this one is in none
    obtain ⟨t, ht, -, rfl⟩ := Stage.exists_of_mem_programs hp
    obtain ⟨y, hy, -, hdatabase⟩ := backed t ht
    have same : y.id = x.id :=
      apart.distinct y.id x.id _ (coherent.target_of_shared hy hdatabase) live
    exact coherent.id_ne hy hand' same
  | @refuseClose κ w x d hand database failed =>
    have reach : Stage.Reaches ⟨κ, w⟩ (.database d) :=
      Custody.reaches_exclusive hand (Connection.handle_of_database database)
    refine lawful (Stage.reaches_all reach rfl) fun other hc p hp => ?_
    exact absurd (congrArg Prod.snd (Option.some.inj hc)) failed
  | @prepare κ w x d text size p sql hand database done made =>
    have reach : Stage.Reaches ⟨κ, w⟩ (.database d) :=
      Custody.reaches_shared hand (Connection.handle_of_database database)
    exact lawful (Stage.reaches_all reach rfl) nofun
  | @reset κ w t rest p hand handle =>
    have reach : Stage.Reaches ⟨κ, w⟩ (.program p) :=
      ⟨t, hand ▸ Multiset.mem_cons_self t rest, handle⟩
    exact lawful (Stage.reaches_all reach rfl) nofun
  | step => exact silent rfl
  | @finalize κ w t rest p hand handle =>
    have reach : Stage.Reaches ⟨κ, w⟩ (.program p) :=
      ⟨t, hand ▸ Multiset.mem_cons_self t rest, handle⟩
    exact lawful (Stage.reaches_all reach rfl) nofun
  | @installFunction κ w x d text name arity rep function rest earlier hand database =>
    have reach : Stage.Reaches ⟨κ, w⟩ (.database d) :=
      Custody.reaches_shared hand (Connection.handle_of_database database)
    exact lawful (Stage.reaches_all reach rfl) nofun
  | @removeFunction κ w x d text name arity rep hand database =>
    have reach : Stage.Reaches ⟨κ, w⟩ (.database d) :=
      Custody.reaches_shared hand (Connection.handle_of_database database)
    exact lawful (Stage.reaches_all reach rfl) nofun
  | settle => exact silent rfl
  | refuseBusy => exact silent rfl
  | _ => exact h.lawful

end EngineBridge
