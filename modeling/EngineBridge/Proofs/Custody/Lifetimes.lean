import EngineBridge.Proofs.Custody.Objects

/-!
# Lifetimes of objects

What a transcript says about the objects that it names, if all calls in it were lawful.
A statement that is in hand has a connection that is open and that others may use.
-/

set_option autoImplicit false

namespace EngineBridge

open Native

variable {E : Engine} {H : Host}

/-! ## What single entries mean -/

namespace Native

variable {d : Database} {entry : Entry} {log : List Entry}

/-- An object that was not gone is gone only if it is closed for good now. -/
theorem not_gone_cons (kept : ¬ Gone d log)
    (h : ∀ code, entry.closes = some (d, code) → code ≠ 0 ∧ ¬ Pending d log) :
    ¬ Gone d (entry :: log) := by
  rintro (⟨code, hcloses, rfl | pending⟩ | gone)
  · exact (h _ hcloses).1 rfl
  · exact (h code hcloses).2 pending
  · exact kept gone

/-- An object is pending after an entry only if it was before or has just been handed out. -/
theorem not_pending_cons (settled : ¬ Pending d log) (h : entry.allots ≠ some d) :
    ¬ Pending d (entry :: log) := by
  rintro ⟨-, hallots | pending⟩
  · exact h hallots
  · exact settled pending

/-- An object that is closed is named in the call. -/
theorem mem_operands_of_closes {code : Int32} (h : entry.closes = some (d, code)) :
    .database d ∈ entry.operands := by
  cases entry with
  | called c a =>
    cases c with
    | closeV2 => obtain ⟨rfl, -⟩ := Prod.mk.inj (Option.some.inj h); exact List.mem_cons_self
    | _ => cases h
  | _ => cases h

/-- The object of the connection is named in the call by which a statement is made. -/
theorem mem_operands_of_prepares {p : Program} (h : entry.prepares = some (p, d)) :
    .database d ∈ entry.operands := by
  cases entry with
  | called c a =>
    cases c with
    | prepareV2 =>
      obtain ⟨_, -, heq⟩ := Option.map_eq_some_iff.mp h
      obtain ⟨-, rfl⟩ := Prod.mk.inj heq
      exact List.mem_cons_self
    | _ => cases h
  | _ => cases h

/-- An object that is finalized is named in the call. -/
theorem mem_operands_of_finalizes {p : Program} (h : entry.finalizes = some p) :
    .program p ∈ entry.operands := by
  cases entry with
  | called c a =>
    cases c with
    | finalize => obtain rfl := Option.some.inj h; exact List.mem_cons_self
    | _ => cases h
  | _ => cases h

/-- A statement is made on an object that was handed out. -/
theorem allotted_of_prepares {p : Program} (lawful : Throughout Lawful log) (hmem : entry ∈ log)
    (h : entry.prepares = some (p, d)) : ∃ other ∈ log, other.allots = some d := by
  obtain ⟨earlier, hsub, fits⟩ := lawful.of_mem hmem
  obtain ⟨other, ho, hallots⟩ := fits.allotted d (mem_operands_of_prepares h)
  exact ⟨other, hsub ho, hallots⟩

/-- What is gone was handed out. -/
theorem allotted_of_gone (lawful : Throughout Lawful log) (h : Gone d log) :
    ∃ other ∈ log, other.allots = some d := by
  induction log with
  | nil => exact h.elim
  | cons entry earlier ih =>
    have earlier_allots : ∃ other ∈ earlier, other.allots = some d := by
      rcases h with ⟨code, hcloses, -⟩ | h
      · exact lawful.now.allotted d (mem_operands_of_closes hcloses)
      · exact ih lawful.before h
    obtain ⟨other, ho, hallots⟩ := earlier_allots
    exact ⟨other, List.mem_cons_of_mem _ ho, hallots⟩

/-- What is finalized was handed out. -/
theorem prepared_of_finalizes {p : Program} (lawful : Throughout Lawful log) (hmem : entry ∈ log)
    (h : entry.finalizes = some p) : ∃ other ∈ log, ∃ d, other.prepares = some (p, d) := by
  obtain ⟨earlier, hsub, fits⟩ := lawful.of_mem hmem
  obtain ⟨other, ho, hprepares⟩ := fits.prepared p (mem_operands_of_finalizes h)
  exact ⟨other, hsub ho, hprepares⟩

end Native

/-! ## Statements and their connections -/

namespace Stage

/-- The objects behind the statements in hand, each with that behind its connection. -/
def programs (s : Stage E H) : Multiset (Program × Database) :=
  s.custody.statements.filterMap fun t => t.handle.map (·, t.database)

/-- Every statement in hand is one of a connection that is open and that others may use. -/
def Backed (s : Stage E H) : Prop :=
  ∀ t ∈ s.custody.statements, ∃ x ∈ s.custody.shared,
    x.id = t.connection ∧ x.database = .ok t.database

/-- A statement that has an object is among those that have one. -/
theorem mem_programs {s : Stage E H} {t : Statement} {p : Program}
    (hand : t ∈ s.custody.statements) (handle : t.handle = some p) :
    (p, t.database) ∈ s.programs :=
  (Multiset.mem_filterMap _ _).mpr ⟨t, hand, by rw [handle]; rfl⟩

/-- An object of a statement is that of a statement in hand. -/
theorem exists_of_mem_programs {s : Stage E H} {p : Program} {d : Database}
    (h : (p, d) ∈ s.programs) :
    ∃ t ∈ s.custody.statements, t.handle = some p ∧ t.database = d := by
  obtain ⟨t, hand, heq⟩ := (Multiset.mem_filterMap _ _).mp h
  obtain ⟨p', handle, hpair⟩ := Option.map_eq_some_iff.mp heq
  obtain ⟨rfl, rfl⟩ := Prod.mk.inj hpair
  exact ⟨t, hand, handle, rfl⟩

end Stage

/-- Moves keep the connections of statements open. -/
theorem Move.backed {s s' : Stage E H} (move : Move s s') (h : s.Backed) : s'.Backed := by
  -- a statement that is changed stays one of its connection
  have changed {κ : Custody} {w w' : World E H} {t t' : Statement} {rest : Multiset Statement}
      (hand : κ.statements = t ::ₘ rest) (h : Stage.Backed ⟨κ, w⟩)
      (same : t'.connection = t.connection ∧ t'.database = t.database) :
      Stage.Backed ⟨{ κ with statements := t' ::ₘ rest }, w'⟩ := by
    intro other hother
    rcases Multiset.mem_cons.mp hother with rfl | hother
    · rw [same.1, same.2]
      exact h t (hand ▸ Multiset.mem_cons_self t rest)
    · exact h other (hand ▸ Multiset.mem_cons_of_mem hother)
  cases move with
  | @reserve κ w x rest hand free =>
    intro t ht
    obtain ⟨y, hy, hid, database⟩ := h t ht
    rw [hand] at hy
    rcases Multiset.mem_cons.mp hy with rfl | hy
    · exact absurd hid.symm (free t ht)
    · exact ⟨y, hy, hid, database⟩
  | share =>
    intro t ht
    obtain ⟨y, hy, hid, database⟩ := h t ht
    exact ⟨y, Multiset.mem_cons_of_mem hy, hid, database⟩
  | @prepare κ w x d text size p sql hand database =>
    intro t ht
    rcases Multiset.mem_cons.mp ht with rfl | ht
    · exact ⟨x, hand, rfl, database⟩
    · exact h t ht
  | reset hand => exact changed hand h ⟨rfl, rfl⟩
  | step hand => exact changed hand h ⟨rfl, rfl⟩
  | finalize hand => exact changed hand h ⟨rfl, rfl⟩
  | @forget κ w t rest hand =>
    exact fun other hother => h other (hand ▸ Multiset.mem_cons_of_mem hother)
  | _ => exact h

end EngineBridge
