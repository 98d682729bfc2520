import EngineBridge.Proofs.Custody.Installing

/-!
# Statements as moves

A statement is prepared on a connection that is shared, and is finalized before it goes
out of use.
-/

set_option autoImplicit false

namespace EngineBridge

open Native

variable {E : Engine} {H : Host} {κ : Custody} {w : World E H}

namespace Connection

variable {conn : Connection}

/-- The engine either prepares a statement for a shared connection, or makes none. -/
theorem leads_prepareV2 {d : Database} {text : CString} {size : Int32} (sql : String)
    (hand : conn ∈ κ.shared) (database : conn.database = .ok d) :
    Leads Move (Fallible.checked (some d) (.prepareV2 d text size) (·.code)).run κ w
      fun r κ' _ => match r with
        | .ok answer => κ' = match answer.program with
          | some p => { κ with statements :=
            ⟨conn.id, d, some p, .prepared, (divide sql answer.tail).1⟩ ::ₘ κ.statements }
          | none => κ
        | .error _ => κ' = κ := by
  have reach (κ' : Custody) (w' : World E H) (same : κ'.shared = κ.shared) :
      Stage.Reaches ⟨κ', w'⟩ (.database d) :=
    Custody.reaches_shared (same ▸ hand) (handle_of_database database)
  obtain ⟨answer, hanswer⟩ : ∃ answer, answer =
    (w.announced (.prepareV2 d text size)).answer (.prepareV2 d text size) := ⟨_, rfl⟩
  by_cases made : answer.code = 0 ∧ answer.program.isSome
  · obtain ⟨done, some⟩ := made
    obtain ⟨p, hp⟩ := Option.isSome_iff_exists.mp some
    have prepare := Move.prepare (divide sql answer.tail).1 hand database
      (hanswer ▸ done) (hanswer ▸ hp)
    subst hanswer
    refine Leads.run_checked prepare (reach _ _ rfl) (fun _ => ?_) fun h => absurd done h
    simp only [hp]
  · subst hanswer
    refine Leads.run_checked (.call made (Stage.reaches_all (reach _ _ rfl) rfl)) (reach _ _ rfl)
      (fun done => ?_) fun _ _ _ _ => rfl
    have none := not_and.mp made done
    rw [Option.not_isSome_iff_eq_none] at none
    simp only [none]

/-- Either there is a new statement of the connection, or there is none. -/
theorem leads_prepare (sql : String) (hand : conn ∈ κ.shared) :
    Leads Move (conn.prepare sql : Fallible E H Statement).run κ w fun r κ' _ =>
      match r with
      | .ok stmt => κ' = { κ with statements := stmt ::ₘ κ.statements }
      | .error _ => κ' = κ := by
  refine leads_live (fun _ _ => rfl) fun d database => ?_
  refine Leads.run_ofExcept_bind (fun _ _ => rfl) fun text _ => ?_
  refine Leads.run_ofExcept_bind (fun _ _ => rfl) fun size _ => ?_
  refine Leads.run_bind (leads_prepareV2 sql hand database) ?_ fun _ _ _ h => h
  rintro ⟨code, program, tail⟩ _ w₁ rfl
  cases program with
  | none => exact Leads.pure rfl
  | some p =>
    simp only
    split
    · exact Leads.run_record_bind trivial (Leads.run_record_bind trivial (Leads.pure rfl))
    · exact Leads.run_record_bind trivial (Leads.pure rfl)

/-- An interrupt goes to an object that interrupts go to, or nowhere. -/
theorem leads_interrupt (id : ConnectionId) :
    Leads Move (interrupt id : Bridge E H Unit) κ w fun _ κ' _ => κ' = κ := by
  refine Leads.get_bind ?_
  cases target : w.target id with
  | none => exact Leads.pure rfl
  | some d =>
    have reach : Stage.Reaches ⟨κ, w.announced (.interrupt d)⟩ (.database d) :=
      .inr (.inr (.inr ⟨id, target⟩))
    exact Leads.call (.call trivial (Stage.reaches_all reach rfl)) rfl

end Connection

namespace Statement

variable {stmt : Statement} {rest : Multiset Statement}

/-- A statement is rewound, whatever the engine says to that. -/
theorem leads_reset (hand : κ.statements = stmt ::ₘ rest) :
    Leads Move (stmt.reset : Bridge E H _) κ w fun r κ' _ =>
      r.2.connection = stmt.connection ∧ κ' = { κ with statements := r.2 ::ₘ rest } := by
  unfold reset
  cases handle : stmt.handle with
  | none => exact Leads.pure ⟨rfl, by rw [← hand]⟩
  | some p =>
    have called : Leads Move (Fallible.succeed (some stmt.database) (.reset p) (·)).run κ w
        fun _ κ₁ _ => κ₁ = { κ with statements := { stmt with state := .prepared } ::ₘ rest } :=
      Leads.run_succeed (.reset hand handle)
        (.inr (.inl ⟨_, Multiset.mem_cons_self _ _, rfl⟩)) (fun _ => rfl) fun _ _ _ _ => rfl
    refine Leads.bind called ?_
    rintro _ _ w₁ rfl
    exact Leads.pure ⟨rfl, by rw [← handle]⟩

/-- A statement is finalized, whatever the engine says to that. -/
theorem leads_finalize (hand : κ.statements = stmt ::ₘ rest) :
    Leads Move (stmt.finalize : Bridge E H _) κ w fun r κ' _ =>
      r.2.connection = stmt.connection ∧ r.2.handle = none ∧
        κ' = { κ with statements := r.2 ::ₘ rest } := by
  unfold finalize
  cases handle : stmt.handle with
  | none => exact Leads.pure ⟨rfl, handle, by rw [← hand]⟩
  | some p =>
    have called (w : World E H) :
        Leads Move (Fallible.succeed (some stmt.database) (.finalize p) (·)).run κ w
          fun _ κ₁ _ => κ₁ =
            { κ with statements := { stmt with handle := none, state := .finalized } ::ₘ rest } :=
      Leads.run_succeed (.finalize hand handle)
        (.inr (.inl ⟨_, Multiset.mem_cons_self _ _, rfl⟩)) (fun _ => rfl) fun _ _ _ _ => rfl
    refine Leads.record_bind trivial (Leads.bind (called _) ?_)
    rintro _ _ w₁ rfl
    exact Leads.pure ⟨rfl, rfl, rfl⟩

/-- A statement goes out of use, and is finalized by then. -/
theorem leads_drop (hand : κ.statements = stmt ::ₘ rest) :
    Leads Move (stmt.drop : Bridge E H Unit) κ w fun _ κ' _ =>
      κ' = { κ with statements := rest } := by
  unfold drop
  split
  · refine Leads.bind (leads_finalize hand) ?_
    rintro ⟨result, other⟩ _ w₁ ⟨-, gone, rfl⟩
    cases result with
    | ok => exact Leads.before (.forget rfl gone) (Leads.pure rfl)
    | error e => exact Leads.before (.forget rfl gone) (Leads.record trivial rfl)
  · next h =>
    exact Leads.before (.forget hand (by simpa using h)) (Leads.pure rfl)

end Statement

end EngineBridge
