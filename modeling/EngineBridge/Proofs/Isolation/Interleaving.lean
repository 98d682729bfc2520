import EngineBridge.Proofs.Isolation.Resting
import EngineBridge.Proofs.Isolation.ScriptedCourses
import Mathlib.Logic.Function.Basic

/-!
# Parties that take turns

Several parties use one process: the connections have their identities from one counter, the
closures their numbers from another, and all closures are in one registry.  To each party the
engine answers by the calls of this party alone; so it stands for each party as if it had
served no other.

Whatever the turns are, each party sees what it would see if it were alone.
-/

set_option autoImplicit false

namespace EngineBridge

/-- Two parties know different connections and closures. -/
structure Known.Apart (k k₁ : Known) : Prop where
  ids : ∀ id ∈ k.ids, id ∉ k₁.ids
  tokens : ∀ token ∈ k.tokens, token ∉ k₁.tokens

/-- Who knows nothing in common with another, the other knows nothing in common with. -/
theorem Known.Apart.symm {k k₁ : Known} (h : k.Apart k₁) : k₁.Apart k where
  ids id hid known := h.ids id known hid
  tokens token htoken known := h.tokens token known htoken

namespace Session

open Native

variable {E : Engine} {ι α β : Type}

/-- Who has which slot. -/
structure Division (ι : Type) where
  connections : String → ι
  statements : String → ι
  interrupts : String → ι

/-- The slots of one of the parties. -/
def Division.party (D : Division ι) (p : ι) : Party where
  connections slot := D.connections slot = p
  statements slot := D.statements slot = p
  interrupts slot := D.interrupts slot = p

/-- The world that the parties have in common, and how the engine stands for each of them: it
answers a call of a party by what this party has called before, and by nothing else. -/
structure Joint (E : Engine) (ι : Type) where
  world : World E (host E)
  engines : ι → E.State

namespace Joint

/-- The world as it is for a party. -/
def view (j : Joint E ι) (p : ι) : World E (host E) := { j.world with engine := j.engines p }

/-- The beginning, with one of the parties at the engine. -/
def begin (engines : ι → E.State) (first : ι) : Joint E ι where
  world := Session.begin E (engines first)
  engines := engines

end Joint

section Turns

variable [DecidableEq ι]

/-- A party takes its next step. -/
def turn (depth : Nat) (t : ι × Step E.Stimulus) : StateM (Joint E ι) (ι × Record E.Response) :=
  fun j =>
    let taken := next depth t.2 (j.view t.1)
    ((t.1, taken.1),
      { world := taken.2, engines := Function.update j.engines t.1 taken.2.engine })

/-- The parties take their turns, which leaves a record of each step. -/
def interleave (depth : Nat) (turns : List (ι × Step E.Stimulus)) :
    StateM (Joint E ι) (List (ι × Record E.Response)) :=
  turns.mapM (turn depth)

/-- What one party has of all that the parties have. -/
def shareOf (p : ι) (xs : List (ι × α)) : List α :=
  (xs.filter (·.1 = p)).map (·.2)

/-- The share of a party begins with its own turn. -/
theorem shareOf_cons_self (p : ι) (x : α) (xs : List (ι × α)) :
    shareOf p ((p, x) :: xs) = x :: shareOf p xs := by
  unfold shareOf
  rw [List.filter_cons_of_pos (by simp), List.map_cons]

/-- The turns of others are not in the share of a party. -/
theorem shareOf_cons_of_ne {p q : ι} (h : q ≠ p) (x : α) (xs : List (ι × α)) :
    shareOf p ((q, x) :: xs) = shareOf p xs := by
  unfold shareOf
  rw [List.filter_cons_of_neg (by simpa using h)]

/-- A party takes its steps alone. -/
def solo (depth : Nat) (p : ι) (turns : List (ι × Step E.Stimulus)) :
    SessionM E (List (Record E.Response)) :=
  (shareOf p turns).mapM (next depth)

/-! ## One turn more -/

/-- A list is worked through by its first element and then the rest. -/
theorem mapM_cons_run {σ : Type} (f : α → StateM σ β) (x : α) (xs : List α) (s : σ) :
    (x :: xs).mapM f s =
      (((f x s).1 :: (xs.mapM f (f x s).2).1), (xs.mapM f (f x s).2).2) := by
  rw [List.mapM_cons]
  rfl

variable {depth : Nat} {p q : ι} {step : Step E.Stimulus} {rest : List (ι × Step E.Stimulus)}

/-- An interleaving is its first turn and then the rest. -/
theorem interleave_cons (t : ι × Step E.Stimulus) (j : Joint E ι) :
    interleave depth (t :: rest) j =
      ((turn depth t j).1 :: (interleave depth rest (turn depth t j).2).1,
        (interleave depth rest (turn depth t j).2).2) :=
  mapM_cons_run _ _ _ _

/-- The party whose turn it is takes its step alone, too. -/
theorem solo_cons_self (w : World E (host E)) :
    solo depth p ((p, step) :: rest) w =
      ((next depth step w).1 :: (solo depth p rest (next depth step w).2).1,
        (solo depth p rest (next depth step w).2).2) := by
  unfold solo
  rw [shareOf_cons_self]
  exact mapM_cons_run _ _ _ _

/-- A turn of another is no turn of a party that is alone. -/
theorem solo_cons_of_ne (ne : q ≠ p) :
    solo (E := E) depth p ((q, step) :: rest) = solo depth p rest := by
  unfold solo
  rw [shareOf_cons_of_ne ne]

/-- Where a party gets alone does not depend on the worlds of others. -/
theorem solo_cons_world (alone : ι → World E (host E)) :
    (solo depth q ((p, step) :: rest) (alone q)).2 =
      (solo depth q rest (Function.update alone p (next depth step (alone p)).2 q)).2 := by
  by_cases same : q = p
  · subst same
    rw [solo_cons_self, Function.update_self]
  · rw [solo_cons_of_ne (Ne.symm same), Function.update_of_ne same]

end Turns

/-! ## Parties leave each other alone -/

section Others

variable {O : Oblivious E} {D : Division ι} {p q : ι} {P : Party} {θ θ₁ θ' : Ties}
  {j : Joint E ι} {w w' : World E (host E)} {m : SessionM E (Record E.Response)}

/-- What a party has made in its step no other party knows. -/
theorem Stays.apart {k k₀ k' : Known} {w₀ : World E (host E)} (h : Stays P k₀ w₀ k w)
    {Q : Party} (settled : Settled Q k' w₀) (apart : k'.Apart k₀) : k'.Apart k where
  ids id hid known := by
    rcases (h.ids id known).2 with old | new
    · exact apart.ids id hid old
    · exact Nat.not_lt_of_le (settled.ids id hid) new
  tokens token htoken known := by
    rcases (h.tokens token known).2 with old | new
    · exact apart.tokens token htoken old
    · exact Nat.not_lt_of_le (settled.tokens token htoken) new

/-- A statement in a slot of a party is of a connection that the party knows. -/
theorem Corresponds.known_of_statement (h : Corresponds O P θ w w') {slot : String}
    {stmt : Statement} (hslot : P.statements slot)
    (found : w.host.statements.get? slot = some stmt) : stmt.connection ∈ θ.left.ids := by
  have both := h.statement slot hslot
  rw [found] at both
  generalize w'.host.statements.get? slot = other at both
  cases both with
  | some tied => exact Ties.mem_left_ids tied.1

/-- A connection in a slot of the party is known to it. -/
theorem Corresponds.known_of_connection (h : Corresponds O P θ w w') {slot : String}
    {conn : Connection} (hslot : P.connections slot)
    (found : w.host.connections.get? slot = some conn) : conn.id ∈ θ.left.ids := by
  have both := h.connection slot hslot
  rw [found] at both
  generalize w'.host.connections.get? slot = other at both
  cases both with
  | some tied => exact Ties.mem_left_ids tied.1

/-- The world is settled for one party after another party has taken a step. -/
theorem Stepped.settled_other (stepped : Stepped O (D.party p) θ θ₁ (j.view p) w m) {k : Known}
    (settled : Settled (D.party q) k (j.view q)) (apart : k.Apart θ₁.left) :
    Settled (D.party q) k { (m (j.view p)).2 with engine := j.engines q } where
  ids id hid := Nat.le_trans (settled.ids id hid) stepped.stays.connections
  tokens token htoken := Nat.le_trans (settled.tokens token htoken) stepped.stays.closures
  entries id new := (stepped.stays.entries id (stepped.stays.not_mem_ids new)).trans
    (settled.entries id (Nat.lt_of_le_of_lt stepped.stays.connections new))
  target id new := (stepped.stays.target id (stepped.stays.not_mem_ids new)).trans
    (settled.target id (Nat.lt_of_le_of_lt stepped.stays.connections new))
  engaged id new := (stepped.stays.engaged id (stepped.stays.not_mem_ids new)).trans
    (settled.engaged id (Nat.lt_of_le_of_lt stepped.stays.connections new))
  runs token new := (stepped.runs token (stepped.stays.not_mem_tokens new)).trans
    (settled.runs token (Nat.lt_of_le_of_lt stepped.stays.closures new))
  others slot stmt other found := by
    by_cases mine : (D.party p).statements slot
    -- a statement that the step may have put there is of a connection of the same party
    · have known := stepped.rested.known_of_statement mine found
      exact ⟨fun both => apart.ids _ both known, (stepped.stays.ids _ known).1⟩
    · have before := (stepped.stays.statement slot mine).symm.trans found
      obtain ⟨unknown, bound⟩ := settled.others slot stmt other before
      exact ⟨unknown, Nat.le_trans bound stepped.stays.connections⟩

/-- What one party has is as it was after another party has taken a step. -/
theorem Stepped.rested_other (stepped : Stepped O (D.party p) θ θ₁ (j.view p) w m) (ne : q ≠ p)
    (h : Rested O (D.party q) θ' (j.view q) w') (apart : θ'.left.Apart θ₁.left) :
    Rested O (D.party q) θ' { (m (j.view p)).2 with engine := j.engines q } w' := by
  have stays := stepped.stays
  have unknown {pair : ConnectionId × ConnectionId} (hpair : pair ∈ θ'.ids) :
      pair.1 ∉ θ₁.left.ids := apart.ids _ (Ties.mem_left_ids hpair)
  have other {owner : ι} (howner : owner = q) : owner ≠ p := howner ▸ ne
  exact
    { engine := h.engine
      ids := h.ids
      tokens := h.tokens
      entries := fun pair hpair =>
        (stays.entries _ (unknown hpair)).symm ▸ h.entries pair hpair
      target := fun pair hpair => (stays.target _ (unknown hpair)).trans (h.target pair hpair)
      engaged := fun pair hpair => (stays.engaged _ (unknown hpair)).trans (h.engaged pair hpair)
      connection := fun slot hslot =>
        (stays.connection slot (other hslot)).symm ▸ h.connection slot hslot
      statement := fun slot hslot =>
        (stays.statement slot (other hslot)).symm ▸ h.statement slot hslot
      interrupt := fun slot hslot =>
        (stays.interrupt slot (other hslot)).symm ▸ h.interrupt slot hslot
      stepping := fun slot hslot =>
        (stays.stepping slot (other hslot)).trans (h.stepping slot hslot)
      left := stepped.settled_other h.left apart
      right := h.right
      runs := fun pair hpair =>
        (stepped.runs _ (apart.tokens _ (Ties.mem_left_tokens hpair))).trans (h.runs pair hpair) }

end Others

/-! ## All parties -/

/-- What each party has in the world that the parties have in common is tied to what it has in
a world of its own, and no two parties know the same. -/
structure Isolated (O : Oblivious E) (D : Division ι) (θ : ι → Ties) (j : Joint E ι)
    (alone : ι → World E (host E)) : Prop where
  rested : ∀ p, Rested O (D.party p) (θ p) (j.view p) (alone p)
  apart : ∀ p q, q ≠ p → (θ q).left.Apart (θ p).left

/-- Nobody has anything at the beginning. -/
theorem Isolated.beginning {O : Oblivious E} {D : Division ι} {engines : ι → E.State}
    (same : ∀ p, O.Same [] (engines p) (engines p)) (first : ι) :
    Isolated O D (fun _ => {}) (Joint.begin engines first)
      fun p => Session.begin E (engines p) := by
  have settled (p : ι) (engine : E.State) :
      Settled (D.party p) (Ties.left {}) (Session.begin E engine) :=
    { ids := fun _ h => (List.not_mem_nil h).elim
      tokens := fun _ h => (List.not_mem_nil h).elim
      entries := fun _ _ => rfl
      target := fun _ _ => rfl
      engaged := fun _ _ => rfl
      runs := fun _ _ => rfl
      others := fun _ _ _ h => by cases h }
  refine ⟨fun p => ?_, fun _ _ _ => ?_⟩
  · exact
      { engine := same p
        ids := fun _ h => (List.not_mem_nil h).elim
        tokens := fun _ h => (List.not_mem_nil h).elim
        entries := fun _ h => (List.not_mem_nil h).elim
        target := fun _ h => (List.not_mem_nil h).elim
        engaged := fun _ h => (List.not_mem_nil h).elim
        connection := fun _ _ => .none
        statement := fun _ _ => .none
        interrupt := fun _ _ => .none
        stepping := fun _ _ => rfl
        left := settled p _
        right := settled p _
        runs := fun _ h => (List.not_mem_nil h).elim }
  · exact ⟨fun _ h => (List.not_mem_nil h).elim, fun _ h => (List.not_mem_nil h).elim⟩

section Isolated

variable [DecidableEq ι] {O : Oblivious E} {D : Division ι} {θ : ι → Ties} {j : Joint E ι}
  {alone : ι → World E (host E)} {depth : Nat}

/-- The party whose turn it was sees what its step has done. -/
theorem view_turn_self (p : ι) (step : Step E.Stimulus) :
    (turn depth (p, step) j).2.view p = (next depth step (j.view p)).2 :=
  congrArg (fun engine => { (next depth step (j.view p)).2 with engine })
    (Function.update_self p _ j.engines)

/-- The other parties see their own engines as they were, and what is common as the step left it. -/
theorem view_turn_of_ne {p q : ι} (ne : q ≠ p) (step : Step E.Stimulus) :
    (turn depth (p, step) j).2.view q =
      { (next depth step (j.view p)).2 with engine := j.engines q } :=
  congrArg (fun engine => { (next depth step (j.view p)).2 with engine })
    (Function.update_of_ne ne _ j.engines)

/-- After a turn the parties are still as if each were alone, and the report is what it is alone. -/
theorem Isolated.after_turn (depth : Nat) (h : Isolated O D θ j alone) {p : ι}
    {step : Step E.Stimulus} (within : step.Within (D.party p)) :
    ∃ θ₁, θ p ≤ θ₁ ∧
      RecordTied θ₁ (turn depth (p, step) j).1.2 (next depth step (alone p)).1 ∧
      Isolated O D (Function.update θ p θ₁) (turn depth (p, step) j).2
        (Function.update alone p (next depth step (alone p)).2) := by
  obtain ⟨θ₁, stepped⟩ := (h.rested p).next depth within
  -- what the party has made in its step has an identity or a number that was new to all
  have apart : ∀ q, q ≠ p → (θ q).left.Apart θ₁.left := fun q ne =>
    stepped.stays.apart (Q := D.party q) { (h.rested q).left with } (h.apart p q ne)
  refine ⟨θ₁, stepped.le, stepped.record, fun q => ?_, fun q r ne => ?_⟩
  · by_cases same : q = p
    · subst same
      rw [Function.update_self, Function.update_self, view_turn_self]
      exact stepped.rested
    · rw [Function.update_of_ne same, Function.update_of_ne same, view_turn_of_ne same]
      exact stepped.rested_other same (h.rested q) (apart q same)
  · by_cases first : q = p
    · subst first
      rw [Function.update_self, Function.update_of_ne ne]
      exact apart r ne
    · by_cases second : r = p
      · subst second
        rw [Function.update_self, Function.update_of_ne first]
        exact (apart q first).symm
      · rw [Function.update_of_ne first, Function.update_of_ne second]
        exact h.apart q r ne

/-- The parties take their turns.  The induction is on the turns, each of which is one more
step of one party alone. -/
theorem Isolated.after_turns (depth : Nat) (h : Isolated O D θ j alone)
    {turns : List (ι × Step E.Stimulus)} (within : ∀ t ∈ turns, t.2.Within (D.party t.1)) :
    ∃ θ₁ : ι → Ties,
      (∀ p, θ p ≤ θ₁ p) ∧
      (∀ p, List.Forall₂ (RecordTied (θ₁ p)) (shareOf p (interleave depth turns j).1)
        (solo depth p turns (alone p)).1) ∧
      Isolated O D θ₁ (interleave depth turns j).2 fun p => (solo depth p turns (alone p)).2 := by
  induction turns generalizing θ j alone with
  | nil => exact ⟨θ, fun _ => le_refl _, fun _ => .nil, h⟩
  | cons t rest ih =>
    obtain ⟨p, step⟩ := t
    have taken : step.Within (D.party p) := within (p, step) List.mem_cons_self
    obtain ⟨θ₁, le, record, isolated⟩ := h.after_turn depth taken
    obtain ⟨θ₂, le₂, records, isolated₂⟩ :=
      ih isolated fun t ht => within t (List.mem_cons_of_mem _ ht)
    rw [interleave_cons]
    refine ⟨θ₂, fun q => ?_, fun q => ?_, ?_⟩
    · by_cases same : q = p
      · subst same
        exact le.trans (Function.update_self q θ₁ θ ▸ le₂ q)
      · exact Function.update_of_ne same θ₁ θ ▸ le₂ q
    · have later := records q
      have grown := le₂ q
      by_cases same : q = p
      · subst same
        rw [Function.update_self] at later grown
        rw [solo_cons_self]
        exact (shareOf_cons_self q _ _).symm ▸ .cons (record.mono grown) later
      · rw [Function.update_of_ne same] at later
        rw [solo_cons_of_ne (Ne.symm same)]
        exact (shareOf_cons_of_ne (Ne.symm same) _ _).symm ▸ later
    · simp only [solo_cons_world]
      exact isolated₂

/-- A party leaves the connections of another party alone: a connection of the other party
stays in its slot, with its callbacks and with what interrupts of it go to. -/
theorem Isolated.unconcerned (h : Isolated O D θ j alone) {p q : ι} (ne : q ≠ p)
    {step : Step E.Stimulus} (within : step.Within (D.party q)) {slot : String} {conn : Connection}
    (hslot : D.connections slot = p) (found : j.world.host.connections.get? slot = some conn) :
    let after := (turn depth (q, step) j).2.world
    after.host.connections.get? slot = some conn ∧
      after.registry.entriesOf conn.id = j.world.registry.entriesOf conn.id ∧
      after.target conn.id = j.world.target conn.id := by
  obtain ⟨θ₁, stepped⟩ := (h.rested q).next depth within
  have apart : (θ p).left.Apart θ₁.left :=
    stepped.stays.apart (Q := D.party p) { (h.rested p).left with } (h.apart q p ne.symm)
  have known := (h.rested p).known_of_connection hslot found
  have unknown := apart.ids conn.id known
  have other : D.connections slot ≠ q := hslot ▸ ne.symm
  exact ⟨(stepped.stays.connection slot other).trans found, stepped.stays.entries _ unknown,
    stepped.stays.target _ unknown⟩

/-- Parties do not interfere.  Several parties take turns, in whatever order; each has its own
slots, and to each the engine answers by its calls alone.  Then each party gets what it would
get if it took the same steps alone, and nothing else becomes of what it has, apart from the
identities of connections and the numbers of closures; and no step of another party touches its
connections, their callbacks or what interrupts of them go to. -/
theorem interleaved_parties_do_not_interfere (O : Oblivious E) (D : Division ι)
    (engines : ι → E.State) (same : ∀ p, O.Same [] (engines p) (engines p)) (first : ι)
    (depth : Nat) (turns : List (ι × Step E.Stimulus))
    (within : ∀ t ∈ turns, t.2.Within (D.party t.1)) (p : ι) :
    let shared := (interleave depth turns).run (Joint.begin engines first)
    let alone := (solo depth p turns).run (begin E (engines p))
    (∃ θ : Ties, List.Forall₂ (RecordTied θ) (shareOf p shared.1) alone.1 ∧
      Corresponds O (D.party p) θ (shared.2.view p) alone.2) ∧
    ∀ q, q ≠ p → ∀ step : Step E.Stimulus, step.Within (D.party q) →
      ∀ slot conn, D.connections slot = p →
        shared.2.world.host.connections.get? slot = some conn →
        let after := (turn depth (q, step) shared.2).2.world
        after.host.connections.get? slot = some conn ∧
          after.registry.entriesOf conn.id = shared.2.world.registry.entriesOf conn.id ∧
          after.target conn.id = shared.2.world.target conn.id := by
  have beginning : Isolated O D (fun _ => {}) (Joint.begin engines first)
      fun p => begin E (engines p) := .beginning same first
  obtain ⟨θ, -, records, isolated⟩ := beginning.after_turns depth within
  refine ⟨⟨θ p, records p, (isolated.rested p).toCorresponds⟩, ?_⟩
  intro q ne step hstep slot conn hslot found
  exact isolated.unconcerned ne hstep hslot found

/-- A step that names a slot for connections of the party stays within it. -/
theorem Target.Within.of_connection {P : Party} {slot : String} (h : P.connections slot) :
    Target.Within P { connection := some slot } := by
  refine ⟨?_, ?_⟩
  · rintro _ ⟨⟩
    exact h
  · rintro _ ⟨⟩

/-- A step that names no slot stays within every party. -/
theorem Target.Within.nowhere {P : Party} : Target.Within P {} := by
  refine ⟨?_, ?_⟩ <;> rintro _ ⟨⟩

/-- One party has slot `a` and the other one slot `b`. -/
def rivals : Division Bool where
  connections slot := slot == "b"
  statements slot := slot == "b"
  interrupts slot := slot == "b"

/-- Both parties define a function of the same name; then the one closes its connection, and
the other one has its function invoked. -/
def rivalTurns : List (Bool × Step Scripted.engine.Stimulus) :=
  [(true, { connection := some "b" }, .connect ":memory:" {}),
   (false, { connection := some "a" }, .connect ":memory:" {}),
   (false, { connection := some "a" }, .registerFunction "f" 0 .empty .count),
   (true, { connection := some "b" }, .registerFunction "f" 0 .empty (.error "no")),
   (true, { connection := some "b" }, .close),
   (false, {}, .stimulate (.invoke ⟨1⟩ "f" 0 [] none false))]

/-- The function of the one party is invoked as if the other party had not been there.  The
connection is the second one of the process, where it would have been the first one. -/
theorem namesakes_do_not_interfere :
    let shared := (interleave 1 rivalTurns).run (Joint.begin (fun _ => {}) true)
    let alone := (solo 1 false rivalTurns).run (begin Scripted.engine {})
    (∃ θ : Ties, (⟨2⟩, ⟨1⟩) ∈ θ.ids ∧
      List.Forall₂ (RecordTied θ) (shareOf false shared.1) alone.1) ∧
      shared.2.world.registry.count ⟨2⟩ = 1 ∧ shared.2.world.runs 1 = 1 := by
  intro shared alone
  have within : ∀ t ∈ rivalTurns, t.2.Within (rivals.party t.1) := by
    simp only [rivalTurns, List.forall_mem_cons]
    refine ⟨?_, ?_, ?_, ?_, ?_, ?_, fun _ h => (List.not_mem_nil h).elim⟩
    · exact ⟨.of_connection rfl, .plain trivial rfl⟩
    · exact ⟨.of_connection rfl, .plain trivial rfl⟩
    · exact ⟨.of_connection rfl, .registerFunction _ _ _ rfl .count⟩
    · exact ⟨.of_connection rfl, .registerFunction _ _ _ rfl (.error _)⟩
    · exact ⟨.of_connection rfl, .plain trivial rfl⟩
    · exact ⟨.nowhere, .stimulate _⟩
  have same : ∀ p : Bool, Scripted.oblivious.Same [] ((fun _ => {}) p) ((fun _ => {}) p) :=
    fun _ => Scripted.stateTied_self {}
  obtain ⟨⟨θ, records, corresponds⟩, -⟩ := interleaved_parties_do_not_interfere
    Scripted.oblivious rivals (fun _ => {}) same true 1 rivalTurns within false
  have second : (shared.2.world.host.connections.get? "a").map (·.id) = some ⟨2⟩ := by
    decide +kernel
  have first : (alone.2.host.connections.get? "a").map (·.id) = some ⟨1⟩ := by decide +kernel
  obtain ⟨conn, found, hid⟩ := Option.map_eq_some_iff.mp second
  obtain ⟨conn', found', hid'⟩ := Option.map_eq_some_iff.mp first
  have both : Option.Rel (Connection.Tied θ) (shared.2.world.host.connections.get? "a")
      (alone.2.host.connections.get? "a") := corresponds.connection "a" rfl
  rw [found, found'] at both
  refine ⟨⟨θ, ?_, records⟩, by decide +kernel, by decide +kernel⟩
  cases both with
  | some tied => exact hid ▸ hid' ▸ tied.1

end Isolated

end Session

end EngineBridge
