import EngineBridge.Proofs.Custody.Basic

/-!
# Computations as moves

`Leads R m κ w post` says that the computation `m`, started in the world `w` with the
custody `κ`, goes through steps of `R` only, and that its result, the custody and the
world at its end satisfy `post`.  The rules below follow the structure of computations.

Most operations do no more than make calls of some kind and report events; `Asks` is
that, and such operations lead from a custody to itself.
-/

set_option autoImplicit false

namespace EngineBridge

open Native Relation

variable {E : Engine} {H : Host} {α β ε : Type}

/-- A computation goes through steps of `R`, up to a stage that satisfies `post`. -/
def Leads (R : Stage E H → Stage E H → Prop) (m : Bridge E H α) (κ : Custody) (w : World E H)
    (post : α → Custody → World E H → Prop) : Prop :=
  ∃ κ', ReflTransGen R ⟨κ, w⟩ ⟨κ', (m w).2⟩ ∧ post (m w).1 κ' (m w).2

namespace Leads

variable {R : Stage E H → Stage E H → Prop} {κ : Custody} {w : World E H}

/-- A result leads nowhere. -/
theorem pure {a : α} {post : α → Custody → World E H → Prop} (h : post a κ w) :
    Leads R (Pure.pure a : Bridge E H α) κ w post :=
  ⟨κ, .refl, h⟩

/-- What a computation leads to may be weakened. -/
theorem mono {m : Bridge E H α} {post post' : α → Custody → World E H → Prop}
    (h : Leads R m κ w post) (weaken : ∀ a κ' w', post a κ' w' → post' a κ' w') :
    Leads R m κ w post' := by
  obtain ⟨κ', moves, hpost⟩ := h
  exact ⟨κ', moves, weaken _ _ _ hpost⟩

/-- One computation after the other. -/
theorem bind {m : Bridge E H α} {f : α → Bridge E H β} {mid : α → Custody → World E H → Prop}
    {post : β → Custody → World E H → Prop} (h : Leads R m κ w mid)
    (next : ∀ a κ' w', mid a κ' w' → Leads R (f a) κ' w' post) : Leads R (m >>= f) κ w post := by
  obtain ⟨κ₁, moves₁, hmid⟩ := h
  obtain ⟨κ₂, moves₂, hpost⟩ := next _ _ _ hmid
  exact ⟨κ₂, moves₁.trans moves₂, hpost⟩

/-- A computation that is one step. -/
theorem single {m : Bridge E H α} {κ' : Custody} {post : α → Custody → World E H → Prop}
    (step : R ⟨κ, w⟩ ⟨κ', (m w).2⟩) (h : post (m w).1 κ' (m w).2) : Leads R m κ w post :=
  ⟨κ', .single step, h⟩

/-- The custody changes hands before a computation. -/
theorem before {m : Bridge E H α} {κ₁ : Custody} {post : α → Custody → World E H → Prop}
    (step : R ⟨κ, w⟩ ⟨κ₁, w⟩) (h : Leads R m κ₁ w post) : Leads R m κ w post := by
  obtain ⟨κ', moves, hpost⟩ := h
  exact ⟨κ', .head step moves, hpost⟩

/-- Some steps bring about a world from which another computation does the same. -/
theorem shift {m n : Bridge E H α} {κ₁ : Custody} {v : World E H}
    {post : α → Custody → World E H → Prop} (steps : ReflTransGen R ⟨κ, w⟩ ⟨κ₁, v⟩)
    (same : m w = n v) (h : Leads R n κ₁ v post) : Leads R m κ w post := by
  obtain ⟨κ', moves, hpost⟩ := h
  refine ⟨κ', ?_, ?_⟩
  · rw [same]
    exact steps.trans moves
  · rw [same]
    exact hpost

/-- The world is looked at. -/
theorem get_bind {f : World E H → Bridge E H β} {post : β → Custody → World E H → Prop}
    (h : Leads R (f w) κ w post) : Leads R (get >>= f) κ w post :=
  h

/-- A computation that can fail, followed by another one unless it fails. -/
theorem run_bind {m : ExceptT ε (Bridge E H) α} {f : α → ExceptT ε (Bridge E H) β}
    {mid : Except ε α → Custody → World E H → Prop}
    {post : Except ε β → Custody → World E H → Prop} (h : Leads R m.run κ w mid)
    (next : ∀ a κ' w', mid (.ok a) κ' w' → Leads R (f a).run κ' w' post)
    (stop : ∀ e κ' w', mid (.error e) κ' w' → post (.error e) κ' w') :
    Leads R (m >>= f).run κ w post := by
  rw [ExceptT.run_bind]
  refine bind h ?_
  rintro (e | a) κ' w' hmid
  · exact pure (stop e κ' w' hmid)
  · exact next a κ' w' hmid

/-- A failure is handled. -/
theorem run_tryCatch {m : ExceptT ε (Bridge E H) α} {f : ε → ExceptT ε (Bridge E H) α}
    {mid : Except ε α → Custody → World E H → Prop}
    {post : Except ε α → Custody → World E H → Prop} (h : Leads R m.run κ w mid)
    (done : ∀ a κ' w', mid (.ok a) κ' w' → post (.ok a) κ' w')
    (handle : ∀ e κ' w', mid (.error e) κ' w' → Leads R (f e).run κ' w' post) :
    Leads R (tryCatch m f).run κ w post := by
  rw [ExceptT.run_tryCatch]
  refine bind h ?_
  rintro (e | a) κ' w' hmid
  · exact handle e κ' w' hmid
  · exact pure (done a κ' w' hmid)

/-- A computation that cannot fail, as one that can. -/
theorem run_lift {m : Bridge E H α} {post : Except ε α → Custody → World E H → Prop}
    (h : Leads R m κ w fun a => post (.ok a)) :
    Leads R (ExceptT.lift m : ExceptT ε (Bridge E H) α).run κ w post :=
  h

/-- A computation that cannot fail, followed by one that can. -/
theorem run_lift_bind {m : Bridge E H α} {f : α → ExceptT ε (Bridge E H) β}
    {mid : α → Custody → World E H → Prop} {post : Except ε β → Custody → World E H → Prop}
    (h : Leads R m κ w mid) (next : ∀ a κ' w', mid a κ' w' → Leads R (f a).run κ' w' post) :
    Leads R ((ExceptT.lift m : ExceptT ε (Bridge E H) α) >>= f).run κ w post := by
  have lifted : Leads R (ExceptT.lift m : ExceptT ε (Bridge E H) α).run κ w
      fun r κ' w' => ∃ a, r = .ok a ∧ mid a κ' w' :=
    run_lift (h.mono fun a _ _ hmid => ⟨a, rfl, hmid⟩)
  refine run_bind lifted ?_ ?_
  · rintro a κ' w' ⟨_, heq, hmid⟩
    cases heq
    exact next a κ' w' hmid
  · rintro e κ' w' ⟨_, heq, -⟩
    cases heq

/-- A note is put into the transcript. -/
theorem record {entry : Entry} {post : Unit → Custody → World E H → Prop} (note : entry.IsNote)
    (h : post () κ (w.record entry)) : Leads Move (Bridge.record entry) κ w post :=
  single (.note note) h

/-- A note is put into the transcript before something else. -/
theorem record_bind {entry : Entry} {f : Unit → Bridge E H β}
    {post : β → Custody → World E H → Prop} (note : entry.IsNote)
    (h : Leads Move (f ()) κ (w.record entry) post) :
    Leads Move (Bridge.record entry >>= f) κ w post :=
  shift (.single (.note note)) rfl h

/-- A note is put into the transcript before something that can fail. -/
theorem run_record_bind {entry : Entry} {f : Unit → Fallible E H β}
    {post : Except BindError β → Custody → World E H → Prop} (note : entry.IsNote)
    (h : Leads Move (f ()).run κ (w.record entry) post) :
    Leads Move (Fallible.lift (Bridge.record entry) >>= f).run κ w post :=
  shift (.single (.note note)) rfl h

/-- What follows a conversion follows if the conversion succeeds. -/
theorem run_ofExcept_bind {convert : ε → BindError} {r : Except ε α} {f : α → Fallible E H β}
    {post : Except BindError β → Custody → World E H → Prop}
    (stop : ∀ e, r = .error e → post (.error (convert e)) κ w)
    (next : ∀ a, r = .ok a → Leads R (f a).run κ w post) :
    Leads R (Fallible.ofExcept convert r >>= f).run κ w post := by
  cases r with
  | error e => exact pure (stop e rfl)
  | ok a => exact next a rfl

end Leads

/-- Moves leave the program's own state alone. -/
theorem Moves.host_eq {s s' : Stage E H} (h : Moves s s') : s'.world.host = s.world.host := by
  induction h with
  | refl => rfl
  | tail _ step ih => cases step <;> exact ih

/-- A note that is not about the callbacks of a connection: no change of them is settled, and
none of them have gone with their connection. -/
def Entry.IsAside : Entry → Prop
  | .settled .. | .reported (.closed ..) => False
  | entry => entry.IsNote

/-- What is aside of all calls is a note. -/
theorem Entry.IsAside.isNote {entry : Entry} (h : entry.IsAside) : entry.IsNote := by
  cases entry with
  | reported event => cases event <;> trivial
  | settled => exact h.elim
  | _ => exact h

/-- The world after some calls of a kind have been made and some notes have been taken, none of
which is about callbacks. -/
def AskedBy (P : Call → Prop) : World E H → World E H → Prop :=
  ReflTransGen fun w w' =>
    (∃ entry : Entry, entry.IsAside ∧ w' = w.record entry) ∨ ∃ c, P c ∧ w' = w.asked c

/-- A computation makes calls of some kind and takes notes. -/
def Asks (P : Call → Prop) (m : Bridge E H α) : Prop := ∀ w, AskedBy P w (m w).2

namespace Asks

variable {P : Call → Prop}

/-- A value that is just given makes no calls. -/
theorem pure (a : α) : Asks P (Pure.pure a : Bridge E H α) := fun _ => .refl

/-- A sequence makes calls of a kind if its parts do. -/
theorem bind {m : Bridge E H α} {f : α → Bridge E H β} (h : Asks P m) (next : ∀ a, Asks P (f a)) :
    Asks P (m >>= f) :=
  fun w => (h w).trans (next _ _)

/-- Noting something aside makes no calls. -/
theorem record {entry : Entry} (aside : entry.IsAside) :
    Asks P (Bridge.record entry : Bridge E H Unit) :=
  fun _ => .single (.inl ⟨entry, aside, rfl⟩)

/-- A call is a call of its kind. -/
theorem ask {c : Call} (h : P c) : Asks P (Bridge.ask c : Bridge E H c.Answer) :=
  fun _ => .single (.inr ⟨c, h, rfl⟩)

/-- A computation that makes only calls of a kind makes only calls of a wider kind. -/
theorem mono {Q : Call → Prop} {m : Bridge E H α} (h : Asks P m) (widen : ∀ c, P c → Q c) :
    Asks Q m := by
  intro w
  refine ReflTransGen.mono ?_ _ _ (h w)
  rintro v v' (note | ⟨c, hc, made⟩)
  · exact .inl note
  · exact .inr ⟨c, widen c hc, made⟩

/-- The world is looked at. -/
theorem get_bind {f : World E H → Bridge E H β} (next : ∀ w, Asks P (f w)) : Asks P (get >>= f) :=
  fun w => next w w

/-- A call that is announced and made. -/
theorem call {c : Call} (h : P c) : Asks P (Bridge.call c : Bridge E H c.Answer) :=
  bind (record trivial) fun _ => ask h

/-- A sequence that can fail makes calls of a kind if its parts do. -/
theorem run_bind {m : ExceptT ε (Bridge E H) α} {f : α → ExceptT ε (Bridge E H) β}
    (h : Asks P m.run) (next : ∀ a, Asks P (f a).run) : Asks P (m >>= f).run := by
  rw [ExceptT.run_bind]
  refine bind h ?_
  rintro (e | a)
  · exact pure _
  · exact next a

/-- A success that is just given makes no calls. -/
theorem run_pure (a : α) : Asks P (Pure.pure a : ExceptT ε (Bridge E H) α).run := pure _

/-- A failure that is just raised makes no calls. -/
theorem run_throw (e : ε) : Asks P (throw e : ExceptT ε (Bridge E H) α).run := pure _

/-- A computation that cannot fail, as one that can. -/
theorem run_lift {m : Bridge E H α} (h : Asks P m) : Asks P (Fallible.lift m).run :=
  bind h fun _ => pure _

/-- A result that is already there makes no calls. -/
theorem run_ofExcept {convert : ε → BindError} (r : Except ε α) :
    Asks P (Fallible.ofExcept convert r : Fallible E H α).run := by
  cases r <;> exact pure _

/-- The diagnosis of a failure. -/
theorem diagnose {database : Option Database} {symbol : Symbol} {code : Int32}
    (h : ∀ d, database = some d → P (.errmsg d)) (h' : database = none → P (.errstr code)) :
    Asks P (Bridge.diagnose database symbol code : Bridge E H EngineError) := by
  cases database with
  | none => exact bind (ask (h' rfl)) fun _ => bind (record trivial) fun _ => pure _
  | some d => exact bind (ask (h d rfl)) fun _ => bind (record trivial) fun _ => pure _

/-- A call of which nothing but success is taken. -/
theorem run_checked {database : Option Database} {c : Call} {code : c.Answer → Int32} (hc : P c)
    (h : ∀ d, database = some d → P (.errmsg d)) (h' : database = none → ∀ n, P (.errstr n)) :
    Asks P (Fallible.checked database c code : Fallible E H c.Answer).run := by
  refine run_bind (run_lift (call hc)) fun answer => ?_
  split
  · exact run_pure _
  · exact run_bind (run_lift (diagnose h fun hn => h' hn _)) fun _ => run_throw _

/-- A call that answers with a result code, of which nothing but success is taken. -/
theorem run_succeed {database : Option Database} {c : Call} {code : c.Answer → Int32} (hc : P c)
    (h : ∀ d, database = some d → P (.errmsg d)) (h' : database = none → ∀ n, P (.errstr n)) :
    Asks P (Fallible.succeed database c code : Fallible E H Unit).run :=
  run_bind (run_checked hc h h') fun _ => run_pure _

/-- Asking that a string is there makes no calls. -/
theorem run_requiredString {symbol : Symbol} (text : Option CString) :
    Asks P (Fallible.requiredString symbol text : Fallible E H String).run := by
  refine run_bind (run_ofExcept _) fun text => ?_
  cases text
  · exact run_throw _
  · exact run_pure _

end Asks

/-- Asking changes neither the registry nor what interrupts go to. -/
theorem AskedBy.reaches_iff {P : Call → Prop} {w w' : World E H} (h : AskedBy P w w') (κ : Custody)
    (o : Operand) : Stage.Reaches ⟨κ, w'⟩ o ↔ Stage.Reaches ⟨κ, w⟩ o := by
  induction h with
  | refl => rfl
  | tail _ step ih =>
    rw [← ih]
    obtain ⟨entry, -, rfl⟩ | ⟨c, -, rfl⟩ := step <;> rfl

/-- A computation that makes only calls that change nothing leads from a custody to
itself. -/
theorem Asks.leads {P : Call → Prop} {m : Bridge E H α} {κ : Custody} {w : World E H}
    (h : Asks P m) (plain : ∀ c, P c → ∀ a, c.IsPlain a)
    (reach : ∀ c, P c → ∀ o ∈ c.operands, Stage.Reaches ⟨κ, w⟩ o) :
    Leads Move m κ w fun _ κ' w' => κ' = κ ∧ AskedBy P w w' := by
  refine ⟨κ, ?_, rfl, h w⟩
  have moves : ∀ w', AskedBy P w w' → Moves ⟨κ, w⟩ ⟨κ, w'⟩ := by
    intro w' asked
    induction asked with
    | refl => exact .refl
    | tail before step ih =>
      obtain ⟨entry, aside, rfl⟩ | ⟨c, hc, rfl⟩ := step
      · exact ih.tail (.note aside.isNote)
      · refine ih.tail (.call (plain c hc _) fun o ho => ?_)
        exact (AskedBy.reaches_iff before κ o).mpr (reach c hc o ho)
  exact moves _ (h w)

end EngineBridge
