import EngineBridge.Proofs.Isolation.Acting

/-!
# Parties perform steps

Steps set off callbacks, which perform steps of the same party one level deeper; the induction
is on the levels.
-/

set_option autoImplicit false

namespace EngineBridge.Session

open Native

variable {E : Engine} {S : Setting E} {θ : Ties} {w w' : World E (host E)}

/-! ## How often functions have run -/

section Runs

variable {past past' : List Entry} {token token' : Nat}
  (h : List.Forall₂ (Entry.Tied θ) past past')

include h

/-- A function that a party does not know is not run. -/
theorem countP_runs_left (unknown : token ∉ θ.left.tokens) :
    past.countP (Entry.Runs token) = 0 := by
  induction h with
  | nil => rfl
  | @cons entry _ _ _ both _ ih =>
    have other : ¬ Entry.Runs token entry := by
      cases both with
      | @invoked t _ arguments ht =>
        intro runs
        obtain rfl : t = token := beq_iff_eq.mp runs
        exact unknown (Ties.mem_left_tokens ht)
      | _ => exact Bool.false_ne_true
    rw [List.countP_cons_of_neg other, ih]

/-- What is not known on the right has not run there before. -/
theorem countP_runs_right (unknown : token' ∉ θ.right.tokens) :
    past'.countP (Entry.Runs token') = 0 := by
  induction h with
  | nil => rfl
  | @cons _ entry' _ _ both _ ih =>
    have other : ¬ Entry.Runs token' entry' := by
      cases both with
      | @invoked _ t' arguments ht =>
        intro runs
        obtain rfl : t' = token' := beq_iff_eq.mp runs
        exact unknown (Ties.mem_right_tokens ht)
      | _ => exact Bool.false_ne_true
    rw [List.countP_cons_of_neg other, ih]

/-- Functions that are tied run equally often. -/
theorem countP_runs_tied (tokens : OneToOne θ.tokens) (tied : (token, token') ∈ θ.tokens) :
    past.countP (Entry.Runs token) = past'.countP (Entry.Runs token') := by
  induction h with
  | nil => rfl
  | @cons entry entry' _ _ both _ ih =>
    have same : Entry.Runs token entry = Entry.Runs token' entry' := by
      cases both with
      | @invoked t t' arguments ht => exact decide_eq_decide.mpr (tokens (t, t') ht _ tied)
      | _ => rfl
    rw [List.countP_cons, List.countP_cons, ih, same]

end Runs

namespace Alike

variable (h : Alike S θ w w') {token token' : Nat}

include h

/-- A function that is not known on the left has run as often as at the start. -/
theorem runs_left (unknown : token ∉ θ.left.tokens) : w.runs token = S.left.runs token := by
  obtain ⟨past, past', hw, -, both⟩ := h.past
  unfold World.runs
  rw [hw, List.countP_append, countP_runs_left both unknown, Nat.zero_add]

/-- A function that is not known on the right has run as often as at the start. -/
theorem runs_right (unknown : token' ∉ θ.right.tokens) : w'.runs token' = S.right.runs token' := by
  obtain ⟨past, past', -, hw', both⟩ := h.past
  unfold World.runs
  rw [hw', List.countP_append, countP_runs_right both unknown, Nat.zero_add]

/-- A closure that has been made meanwhile had not run before. -/
theorem runs_before (tied : (token, token') ∈ θ.tokens) :
    S.left.runs token = S.right.runs token' := by
  -- known in one of the runs means tied before, since nothing has two partners
  rcases (h.left.tokens token (Ties.mem_left_tokens tied)).2 with known | new
  · obtain ⟨partner, hpartner⟩ := Ties.exists_of_mem_left_tokens known
    obtain rfl : partner = token' := (h.tokens _ (h.le.2 hpartner) _ tied).mp rfl
    exact S.runs _ hpartner
  · rcases (h.right.tokens token' (Ties.mem_right_tokens tied)).2 with known | new'
    · obtain ⟨partner, hpartner⟩ := Ties.exists_of_mem_right_tokens known
      obtain rfl : partner = token := (h.tokens _ (h.le.2 hpartner) _ tied).mpr rfl
      exact S.runs _ hpartner
    · rw [S.leftSettled.runs token new, S.rightSettled.runs token' new']

/-- Functions that are tied have run equally often. -/
theorem runs (tied : (token, token') ∈ θ.tokens) : w.runs token = w'.runs token' := by
  have before := h.runs_before tied
  obtain ⟨past, past', hw, hw', both⟩ := h.past
  unfold World.runs at before ⊢
  rw [hw, hw', List.countP_append, List.countP_append, countP_runs_tied both h.tokens tied, before]

end Alike

/-! ## The closures of a party -/

section Closures

variable {perform : Step E.Stimulus → SessionM E (Report E.Response)}

/-- Functions that are tied have run as often. -/
theorem agrees_invocations {token token' : Nat} (tied : (token, token') ∈ θ.tokens) :
    Agrees S θ (invocations (E := E) token) (invocations token') fun _ a b => a = b := by
  refine .get_bind fun w w' alike => .pure ?_
  have counts (w : World E (host E)) (token : Nat) : w.runs token =
      (invocations (E := E) token w).1 := by
    refine List.countP_congr fun entry _ => ?_
    cases entry <;> rfl
  exact (counts w token).symm.trans ((alike.runs tied).trans (counts w' token'))

/-- Lists of steps that agree one by one agree. -/
theorem agrees_runSteps {steps : List (Step E.Stimulus)}
    (h : ∀ step ∈ steps, ∀ θ, Agrees S θ (perform step) (perform step) ReportTied) :
    Agrees S θ (runSteps perform steps) (runSteps perform steps) Anything := by
  have same : List.Forall₂ (fun step step' => step = step' ∧ step ∈ steps) steps steps :=
    List.forall₂_same.mpr fun step hstep => ⟨rfl, hstep⟩
  refine Agrees.forM (R := fun _ step step' => step = step' ∧ step ∈ steps)
    (fun _ _ _ _ _ h => h) ?_ same
  rintro θ₁ step _ ⟨rfl, hstep⟩
  refine (h step hstep θ₁).bind fun θ₂ report report' _ tied => ?_
  exact fun w w' alike => ⟨θ₂, le_refl θ₂, alike.keepReport tied, trivial⟩

/-- What a function gives that has come to own a connection. -/
theorem agrees_ownedChanges {token token' : Nat} {code : FunctionBody E.Stimulus}
    {owned owned' : Option Connection} (arguments : List Value)
    (owns : (∃ slot, code = .own slot) ∨ code = .invalid)
    (tied : Option.Rel (Connection.Tied θ) owned owned') :
    Agrees S θ ((callbacks perform).invoke ⟨token, code, owned⟩ arguments)
      ((callbacks perform).invoke ⟨token', code, owned'⟩ arguments) fun _ a b => a = b := by
  have asked : ∀ conn conn', conn.Tied θ conn' →
      Agrees S θ ((callbacks perform).invoke ⟨token, .invalid, some conn⟩ arguments)
        ((callbacks perform).invoke ⟨token', .invalid, some conn'⟩ arguments)
        fun _ a b => a = b := by
    intro conn conn' h
    obtain ⟨id', -, rfl⟩ := h.exists_eq
    refine (Connection.repeats_changes θ).bind fun θ₁ result _ _ heq => ?_
    subst heq
    cases result with
    | ok n => exact .pure rfl
    | error e => exact .pure rfl
  obtain ⟨slot, rfl⟩ | rfl := owns
  · cases tied with
    | none => exact .pure rfl
    | some h => exact asked _ _ h
  · cases tied with
    | none => exact .pure rfl
    | some h => exact asked _ _ h

/-- Closures of a party run in the same way if the steps do that they run. -/
theorem heeds_callbacks
    (h : ∀ step, Step.Within S.party step → ∀ θ,
      Agrees S θ (perform step) (perform step) ReportTied) :
    Heeds S (callbacks perform) where
  handle θ c c' attempts tied := by
    obtain ⟨token, code, owned⟩ := c
    obtain ⟨token', _, owned'⟩ := c'
    obtain ⟨-, rfl, within, -⟩ := tied
    cases within with
    | whileBelow n => exact .pure rfl
    | panic panic => exact .pure rfl
    | steps again targets actions =>
      refine .bind (agrees_runSteps fun step hstep => ?_) fun _ _ _ _ _ => .pure rfl
      exact h step ⟨targets step hstep, actions step hstep⟩
    | own within => exact .pure rfl
    | invalid => exact .pure rfl
  invoke θ c c' arguments tied := by
    obtain ⟨token, code, owned⟩ := c
    obtain ⟨token', _, owned'⟩ := c'
    obtain ⟨tokens, rfl, within, owned⟩ := tied
    cases within with
    | constant value => exact .pure rfl
    | argument n =>
      simp only [callbacks]
      split <;> exact .pure rfl
    | describe => exact .pure rfl
    | count => exact .pure rfl
    | sum => exact .pure rfl
    | text =>
      simp only [callbacks]
      split <;> exact .pure rfl
    | kinds => exact .pure rfl
    | error message => exact .pure rfl
    | panic panic => exact .pure rfl
    | runs =>
      refine (agrees_invocations tokens).bind fun θ₁ n _ _ heq => ?_
      subst heq
      exact .pure rfl
    | steps targets actions =>
      refine .bind (agrees_runSteps fun step hstep => ?_) fun _ _ _ _ _ => .pure rfl
      exact h step ⟨targets step hstep, actions step hstep⟩
    | own within => exact agrees_ownedChanges arguments (.inl ⟨_, rfl⟩) owned
    | invalid => exact agrees_ownedChanges arguments (.inr rfl) owned

end Closures

/-! ## Steps -/

/-- The connection of a step of a party stands in the same way in both worlds. -/
theorem agrees_connectionStatus {t : Target} (within : t.Within S.party) :
    Agrees S θ (connectionStatus (E := E) t) (connectionStatus t) fun _ a b => a = b := by
  obtain ⟨connection, statement⟩ := t
  cases statement with
  | some slot =>
    cases connection with
    | none => exact .pure rfl
    | some slot => exact .pure rfl
  | none =>
    cases connection with
    | none => exact .pure rfl
    | some slot =>
      refine .get_bind fun w w' alike => ?_
      have both := alike.connection slot (within.1 slot rfl)
      generalize w.host.connections.get? slot = found at both ⊢
      generalize w'.host.connections.get? slot = found' at both ⊢
      cases both with
      | none => exact .pure rfl
      | @some conn conn' h =>
        refine (Connection.agrees_callbackCount h).bind fun θ₁ count _ _ heq => ?_
        subst heq
        obtain ⟨id', -, rfl⟩ := h.exists_eq
        exact .pure rfl

/-- The status of a statement of the party is the same in both worlds. -/
theorem agrees_statementStatus {t : Target} (within : t.Within S.party) :
    Agrees S θ (statementStatus (E := E) t) (statementStatus t) fun _ a b => a = b := by
  obtain ⟨connection, statement⟩ := t
  cases statement with
  | none => exact .pure rfl
  | some slot =>
    refine .get_bind fun w w' alike => ?_
    have both := alike.statement slot (within.2 slot rfl)
    have stepping := alike.mem_stepping_iff (within.2 slot rfl)
    generalize w.host.statements.get? slot = found at both ⊢
    generalize w'.host.statements.get? slot = found' at both ⊢
    simp only [stepping]
    split
    · exact .pure rfl
    · cases both with
      | none => exact .pure rfl
      | some h =>
        obtain ⟨id', -, rfl⟩ := h.exists_eq
        exact .pure rfl

/-- A step of the party ends with reports that are tied. -/
theorem agrees_conclude {t : Target} (within : t.Within S.party)
    {result result' : Except Failure (Payload E.Response)}
    (tied : ResultTied (PayloadTied θ) result result') :
    Agrees S θ (conclude t result) (conclude t result') ReportTied := by
  refine (agrees_connectionStatus within).bind fun θ₁ connection _ le heq => ?_
  subst heq
  refine (agrees_statementStatus within).bind fun θ₂ statement _ le₂ heq => ?_
  subst heq
  exact .pure
    { result := tied.mono fun _ _ h => h.mono (le.trans le₂)
      connection := rfl
      statement := rfl }

/-- A step of a party does the same in two worlds that are alike.  The induction is on the
levels that callbacks go down. -/
theorem agrees_perform (depth : Nat) {step : Step E.Stimulus} (within : step.Within S.party) :
    Agrees S θ (perform depth step) (perform depth step) ReportTied := by
  obtain ⟨t, action⟩ := step
  obtain ⟨target, within⟩ := within
  induction depth generalizing θ t action with
  | zero => exact agrees_conclude target (.error Failure.tooDeep)
  | succ depth ih =>
    have heeds : Heeds S (callbacks (perform depth)) :=
      heeds_callbacks fun step hstep θ => ih step.1 step.2 hstep.1 hstep.2
    exact (acts_act heeds within).bind fun θ₁ result result' _ tied => agrees_conclude target tied

end EngineBridge.Session
