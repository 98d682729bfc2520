import EngineBridge.Proofs.Isolation.Changes

/-!
# Computations that agree

Two computations of a party agree if they lead from worlds that are alike to worlds that are
alike again, with results that are tied.  The rules below follow the structure of computations.
-/

set_option autoImplicit false

namespace EngineBridge.Session

open Native

variable {E : Engine} {α β γ δ ε : Type} {S : Setting E} {θ : Ties}

/-- The two computations do the same for a party, and their results satisfy `post`. -/
def Agrees (S : Setting E) (θ : Ties) (m : SessionM E α) (m' : SessionM E β)
    (post : Ties → α → β → Prop) : Prop :=
  ∀ w w', Alike S θ w w' →
    ∃ θ₁, θ ≤ θ₁ ∧ Alike S θ₁ (m w).2 (m' w').2 ∧ post θ₁ (m w).1 (m' w').1

/-- A computation does the same in both worlds, with the same result. -/
def Repeats (S : Setting E) (m : SessionM E α) : Prop :=
  ∀ θ, Agrees S θ m m fun _ a b => a = b

/-- Nothing is said of results. -/
abbrev Anything : Ties → α → β → Prop := fun _ _ _ => True

/-- Results of computations that can fail: the same error, or results in a relation. -/
abbrev Results (R : Ties → α → β → Prop) : Ties → Except ε α → Except ε β → Prop :=
  fun θ => ResultTied (R θ)

namespace Agrees

variable {m : SessionM E α} {m' : SessionM E β} {post : Ties → α → β → Prop}

/-- Values that satisfy the relation agree. -/
theorem pure {a : α} {b : β} (h : post θ a b) :
    Agrees S θ (Pure.pure a : SessionM E α) (Pure.pure b : SessionM E β) post :=
  fun _ _ alike => ⟨θ, le_refl θ, alike, h⟩

/-- What is said of the results may be weakened. -/
theorem mono {post' : Ties → α → β → Prop} (h : Agrees S θ m m' post)
    (imp : ∀ θ₁ a b, post θ₁ a b → post' θ₁ a b) : Agrees S θ m m' post' := by
  intro w w' alike
  obtain ⟨θ₁, le, alike₁, hpost⟩ := h w w' alike
  exact ⟨θ₁, le, alike₁, imp θ₁ _ _ hpost⟩

/-- Sequences agree if their parts do, the second parts with the ties that are there by then. -/
theorem bind {f : α → SessionM E γ} {f' : β → SessionM E δ} {after : Ties → γ → δ → Prop}
    (h : Agrees S θ m m' post)
    (next : ∀ θ₁ a b, θ ≤ θ₁ → post θ₁ a b → Agrees S θ₁ (f a) (f' b) after) :
    Agrees S θ (m >>= f) (m' >>= f') after := by
  intro w w' alike
  obtain ⟨θ₁, le, alike₁, hpost⟩ := h w w' alike
  obtain ⟨θ₂, le₂, alike₂, hafter⟩ := next θ₁ _ _ le hpost _ _ alike₁
  exact ⟨θ₂, le.trans le₂, alike₂, hafter⟩

/-- Each computation may look at its world, and the worlds are alike. -/
theorem get_bind {f : World E (host E) → SessionM E α} {f' : World E (host E) → SessionM E β}
    (next : ∀ w w', Alike S θ w w' → Agrees S θ (f w) (f' w') post) :
    Agrees S θ (get >>= f) (get >>= f') post :=
  fun w w' alike => next w w' alike w w' alike

/-- A change of both worlds that leaves them alike agrees. -/
theorem modifyGet {f : World E (host E) → α × World E (host E)}
    {f' : World E (host E) → β × World E (host E)}
    (h : ∀ w w', Alike S θ w w' → Alike S θ (f w).2 (f' w').2 ∧ post θ (f w).1 (f' w').1) :
    Agrees S θ (MonadStateOf.modifyGet f : SessionM E α) (MonadStateOf.modifyGet f') post :=
  fun w w' alike => ⟨θ, le_refl θ, h w w' alike⟩

/-- Noting entries that are tied agrees. -/
theorem record {entry entry' : Entry} (tied : entry.Tied θ entry') :
    Agrees S θ (Bridge.record entry : SessionM E Unit) (Bridge.record entry') Anything :=
  fun _ _ alike => ⟨θ, le_refl θ, alike.record tied, trivial⟩

/-- Reporting events that are tied agrees. -/
theorem report {event event' : Event} (tied : event.Tied θ event') :
    Agrees S θ (Bridge.report event : SessionM E Unit) (Bridge.report event') Anything :=
  record (.reported tied)

/-- Calls that are tied are answered alike, by an engine that does not look into contexts. -/
theorem ask {c c' : Call} (tied : c.Tied θ.ids c') :
    Agrees S θ (Bridge.ask c : SessionM E c.Answer) (Bridge.ask c' : SessionM E c'.Answer)
      fun θ₁ answer answer' => Answered θ₁.ids c answer c' answer' := by
  intro w w' alike
  obtain ⟨answered, alike₁⟩ := alike.asked tied
  exact ⟨θ, le_refl θ, alike₁, answered⟩

/-- Lists that are tied are worked through alike, if their elements are and stay tied. -/
theorem forM {R : Ties → γ → δ → Prop} {f : γ → SessionM E Unit} {f' : δ → SessionM E Unit}
    (stays : ∀ θ₁ θ₂ x y, θ₁ ≤ θ₂ → R θ₁ x y → R θ₂ x y)
    (each : ∀ θ₁ x y, R θ₁ x y → Agrees S θ₁ (f x) (f' y) Anything) {xs : List γ} {ys : List δ}
    (h : List.Forall₂ (R θ) xs ys) : Agrees S θ (xs.forM f) (ys.forM f') Anything := by
  induction xs generalizing θ ys with
  | nil =>
    cases h
    exact pure trivial
  | cons x xs ih =>
    cases h with
    | cons tied rest =>
      rw [List.forM_eq_forM, List.forM_eq_forM, List.forM_cons, List.forM_cons]
      refine bind (each θ _ _ tied) fun θ₁ _ _ le _ => ?_
      exact ih (rest.imp fun _ _ h => stays θ θ₁ _ _ le h)

/-! ## Computations that can fail -/

variable {R : Ties → α → β → Prop} {R' : Ties → γ → δ → Prop} {x : ExceptT ε (SessionM E) α}
  {x' : ExceptT ε (SessionM E) β} {f : α → ExceptT ε (SessionM E) γ}
  {f' : β → ExceptT ε (SessionM E) δ}

/-- Successes agree if their values do. -/
theorem run_pure {a : α} {b : β} (h : R θ a b) :
    Agrees S θ (Pure.pure a : ExceptT ε (SessionM E) α).run
      (Pure.pure b : ExceptT ε (SessionM E) β).run (Results R) :=
  pure (.ok h)

/-- The same failure agrees with itself. -/
theorem run_throw (e : ε) :
    Agrees S θ (throw e : ExceptT ε (SessionM E) α).run
      (throw e : ExceptT ε (SessionM E) β).run (Results R) :=
  pure (.error e)

/-- Sequences that can fail agree if their parts do. -/
theorem run_bind (h : Agrees S θ x.run x'.run (Results R))
    (next : ∀ θ₁ a b, θ ≤ θ₁ → R θ₁ a b → Agrees S θ₁ (f a).run (f' b).run (Results R')) :
    Agrees S θ (x >>= f).run (x' >>= f').run (Results R') := by
  rw [ExceptT.run_bind, ExceptT.run_bind]
  refine bind h fun θ₁ a b le tied => ?_
  cases tied with
  | ok h => exact next θ₁ _ _ le h
  | error e => exact pure (.error e)

/-- Computations that cannot fail agree in a place where failures are possible. -/
theorem run_lift (h : Agrees S θ m m' R) :
    Agrees S θ (ExceptT.lift m : ExceptT ε (SessionM E) α).run
      (ExceptT.lift m' : ExceptT ε (SessionM E) β).run (Results R) :=
  fun w w' alike => by
    obtain ⟨θ₁, le, alike₁, hpost⟩ := h w w' alike
    exact ⟨θ₁, le, alike₁, .ok hpost⟩

/-- What cannot fail may come before what can. -/
theorem run_lift_bind (h : Agrees S θ m m' R)
    (next : ∀ θ₁ a b, θ ≤ θ₁ → R θ₁ a b → Agrees S θ₁ (f a).run (f' b).run (Results R')) :
    Agrees S θ ((ExceptT.lift m : ExceptT ε (SessionM E) α) >>= f).run
      ((ExceptT.lift m' : ExceptT ε (SessionM E) β) >>= f').run (Results R') := by
  rw [ExceptT.run_bind_lift, ExceptT.run_bind_lift]
  exact bind h next

/-- A result that is already there is a failure in both runs or in neither. -/
theorem run_ofExcept_bind {η : Type} {convert : η → BindError} {r : Except η α}
    {f : α → Fallible E (host E) γ} {f' : α → Fallible E (host E) δ}
    (next : ∀ a, r = .ok a → Agrees S θ (f a).run (f' a).run (Results R')) :
    Agrees S θ (Fallible.ofExcept convert r >>= f).run (Fallible.ofExcept convert r >>= f').run
      (Results R') := by
  cases r with
  | error e => exact run_throw (convert e)
  | ok a => exact next a rfl

/-- Failures are handled alike if they are the same. -/
theorem run_tryCatch {g : ε → ExceptT ε (SessionM E) α} {g' : ε → ExceptT ε (SessionM E) β}
    (h : Agrees S θ x.run x'.run (Results R))
    (handle : ∀ θ₁ e, θ ≤ θ₁ → Agrees S θ₁ (g e).run (g' e).run (Results R)) :
    Agrees S θ (tryCatch x g).run (tryCatch x' g').run (Results R) := by
  rw [ExceptT.run_tryCatch, ExceptT.run_tryCatch]
  refine bind h fun θ₁ a b le tied => ?_
  cases tied with
  | ok h => exact pure (.ok h)
  | error e => exact handle θ₁ e le

/-- A failure is handed on once something has been cleaned up. -/
theorem run_tryCatch_throw {clean clean' : ε → SessionM E Unit}
    (h : Agrees S θ x.run x'.run (Results R))
    (cleaned : ∀ θ₁ e, θ ≤ θ₁ → Agrees S θ₁ (clean e) (clean' e) Anything) :
    Agrees S θ
      (tryCatch x fun e => do
        ExceptT.lift (clean e)
        throw e).run
      (tryCatch x' fun e => do
        ExceptT.lift (clean' e)
        throw e).run (Results R) :=
  run_tryCatch h fun θ₁ e le => run_lift_bind (cleaned θ₁ e le) fun _ _ _ _ _ => run_throw e

/-- The beginning and the end of a change are noted. -/
theorem run_noted {id id' : ConnectionId} {change change' : Change}
    {operation operation' : Fallible E (host E) Unit} (tied : (id, id') ∈ θ.ids)
    (changes : change.Tied θ change')
    (h : ∀ θ₁, θ ≤ θ₁ → Agrees S θ₁ operation.run operation'.run (Results Anything)) :
    Agrees S θ (Fallible.noted id change operation).run (Fallible.noted id' change' operation').run
      (Results Anything) := by
  refine run_lift_bind (record (.requested tied changes)) fun θ₁ _ _ le _ => ?_
  refine run_lift_bind (h θ₁ le) fun θ₂ r r' le₂ hr => ?_
  have all := le.trans le₂
  obtain rfl : r = r' := by
    cases hr with
    | ok => rfl
    | error => rfl
  refine run_lift_bind (record (.settled r (all.1 tied) (changes.mono all))) fun θ₃ _ _ _ _ => ?_
  cases r with
  | ok => exact run_pure trivial
  | error e => exact run_throw e

end Agrees

/-! ## Computations that do the same in both worlds -/

namespace Repeats

/-- A value is the same in both worlds. -/
theorem pure (a : α) : Repeats S (Pure.pure a : SessionM E α) := fun _ => .pure rfl

/-- A sequence does the same in both worlds if its parts do. -/
theorem bind {m : SessionM E α} {f : α → SessionM E β} (h : Repeats S m)
    (next : ∀ a, Repeats S (f a)) : Repeats S (m >>= f) := by
  intro θ
  refine (h θ).bind fun θ₁ a b _ heq => ?_
  subst heq
  exact next a θ₁

/-- Noting an entry does the same in both worlds if the entry is tied to itself. -/
theorem record {entry : Entry} (same : ∀ θ, entry.Tied θ entry) :
    Repeats S (Bridge.record entry : SessionM E Unit) :=
  fun θ => (Agrees.record (same θ)).mono fun _ _ _ _ => rfl

/-- Reporting an event does the same in both worlds if it is about no connection. -/
theorem report {event : Event} (nameless : event.Nameless) :
    Repeats S (Bridge.report event : SessionM E Unit) :=
  record fun _ => .reported (.nameless nameless)

/-- A call without contexts does the same in both worlds. -/
theorem ask {c : Call} (contextless : c.Contextless) :
    Repeats S (Bridge.ask c : SessionM E c.Answer) :=
  fun _ => (Agrees.ask (.contextless contextless)).mono fun _ _ _ h => h.eq contextless

/-- A call without contexts does the same in both worlds when it is announced first. -/
theorem call {c : Call} (contextless : c.Contextless) :
    Repeats S (Bridge.call c : SessionM E c.Answer) :=
  bind (report trivial) fun _ => ask contextless

/-- The result of a computation that repeats is the same in both worlds, failures included. -/
theorem results {x : ExceptT ε (SessionM E) α} (h : Repeats S x.run) :
    Agrees S θ x.run x.run (Results fun _ a b => a = b) :=
  (h θ).mono fun _ a b heq => by
    subst heq
    cases a with
    | ok a => exact .ok rfl
    | error e => exact .error e

variable {x : ExceptT ε (SessionM E) α} {f : α → ExceptT ε (SessionM E) β}

/-- A success is the same in both worlds. -/
theorem run_pure (a : α) : Repeats S (Pure.pure a : ExceptT ε (SessionM E) α).run := pure _

/-- A failure is the same in both worlds. -/
theorem run_throw (e : ε) : Repeats S (throw e : ExceptT ε (SessionM E) α).run := pure _

/-- A sequence that can fail does the same in both worlds if its parts do. -/
theorem run_bind (h : Repeats S x.run) (next : ∀ a, Repeats S (f a).run) :
    Repeats S (x >>= f).run := by
  rw [ExceptT.run_bind]
  refine h.bind fun r => ?_
  cases r with
  | ok a => exact next a
  | error e => exact pure _

/-- What cannot fail does the same in both worlds where failures are possible, too. -/
theorem run_lift {m : SessionM E α} (h : Repeats S m) :
    Repeats S (ExceptT.lift m : ExceptT ε (SessionM E) α).run :=
  h.bind fun _ => pure _

/-- A failure is handled in the same way in both worlds. -/
theorem run_tryCatch {g : ε → ExceptT ε (SessionM E) α} (h : Repeats S x.run)
    (handle : ∀ e, Repeats S (g e).run) : Repeats S (tryCatch x g).run := by
  rw [ExceptT.run_tryCatch]
  refine h.bind fun r => ?_
  cases r with
  | ok a => exact pure _
  | error e => exact handle e

/-- A result that is already there is the same in both worlds. -/
theorem run_ofExcept {η : Type} {convert : η → BindError} (r : Except η α) :
    Repeats S (Fallible.ofExcept convert r : Fallible E (host E) α).run := by
  cases r with
  | ok a => exact run_pure a
  | error e => exact run_throw _

/-- A diagnosis is the same in both worlds. -/
theorem diagnose (database : Option Database) (symbol : Symbol) (code : Int32) :
    Repeats S (Bridge.diagnose database symbol code : SessionM E EngineError) := by
  unfold Bridge.diagnose
  cases database with
  | none =>
    exact bind (ask (c := .errstr code) trivial) fun _ => bind (report trivial) fun _ => pure _
  | some d =>
    exact bind (ask (c := .errmsg d) trivial) fun _ => bind (report trivial) fun _ => pure _

/-- A checked call without contexts does the same in both worlds. -/
theorem run_checked {database : Option Database} {c : Call} {code : c.Answer → Int32}
    (contextless : c.Contextless) :
    Repeats S (Fallible.checked database c code : Fallible E (host E) c.Answer).run := by
  refine run_bind (run_lift (call contextless)) fun answer => ?_
  split
  · exact run_pure _
  · exact run_bind (run_lift (diagnose _ _ _)) fun _ => run_throw _

/-- A call that only has to succeed does the same in both worlds. -/
theorem run_succeed {database : Option Database} {c : Call} {code : c.Answer → Int32}
    (contextless : c.Contextless) :
    Repeats S (Fallible.succeed database c code : Fallible E (host E) Unit).run :=
  run_bind (run_checked contextless) fun _ => run_pure _

/-- A string from the engine is missing, or no text, in both worlds or in neither. -/
theorem run_requiredString {symbol : Symbol} (text : Option CString) :
    Repeats S (Fallible.requiredString symbol text : Fallible E (host E) String).run := by
  refine run_bind (run_ofExcept _) fun text => ?_
  cases text with
  | none => exact run_throw _
  | some s => exact run_pure s

/-- A step ends with something that is no handle, so it is the same in both worlds. -/
theorem gives {x : ExceptT ε (SessionM E) α} {g : α → Payload E.Response} (h : Repeats S x.run)
    (nameless : ∀ θ₁ a, PayloadTied θ₁ (g a) (g a)) :
    Agrees S θ (x >>= fun a => Pure.pure (g a)).run (x >>= fun a => Pure.pure (g a)).run
      (Results PayloadTied) := by
  refine .run_bind h.results fun θ₁ a _ _ heq => ?_
  subst heq
  exact .run_pure (nameless θ₁ a)

end Repeats

/-- A call that has to do with the context of a callback, of which nothing but success is
taken. -/
theorem Agrees.run_succeed {database : Option Database} {c c' : Call} {code : c.Answer → Int32}
    {code' : c'.Answer → Int32} (tied : c.Tied θ.ids c')
    (codes : ∀ ids answer answer', Answered ids c answer c' answer' → code answer = code' answer') :
    Agrees S θ (Fallible.succeed database c code : Fallible E (host E) Unit).run
      (Fallible.succeed database c' code' : Fallible E (host E) Unit).run (Results Anything) := by
  have announced : Agrees S θ (Bridge.report (.nativeCall c.symbol) : SessionM E Unit)
      (Bridge.report (.nativeCall c'.symbol)) Anything := by
    rw [tied.symbol_eq]
    exact report (.nameless trivial)
  have called : Agrees S θ (Bridge.call c : SessionM E c.Answer) (Bridge.call c')
      fun _ answer answer' => code answer = code' answer' := by
    refine announced.bind fun θ₁ _ _ le _ => ?_
    exact (ask (tied.mono le.1)).mono fun θ₁ _ _ answered => codes _ _ _ answered
  have checked : Agrees S θ (Fallible.checked database c code : Fallible E (host E) c.Answer).run
      (Fallible.checked database c' code' : Fallible E (host E) c'.Answer).run
      (Results Anything) := by
    refine run_lift_bind called fun θ₁ answer answer' _ heq => ?_
    rw [heq, tied.symbol_eq]
    split
    · exact run_pure trivial
    · exact run_lift_bind (Repeats.diagnose _ _ _ _) fun _ _ _ _ heq => heq ▸ run_throw _
  exact run_bind checked fun _ _ _ _ _ => run_pure trivial

end EngineBridge.Session
