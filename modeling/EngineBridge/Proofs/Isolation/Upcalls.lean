import EngineBridge.Proofs.Isolation.Operations

/-!
# Upcalls agree

An engine that does not look into contexts calls back with contexts that are tied, so that
closures are found that are tied; and after the upcalls it comes to the same answer.
-/

set_option autoImplicit false

namespace EngineBridge

open Native Session

variable {E : Engine} {S : Setting E} {θ : Ties} {α : Type} {cb : Callbacks E (host E)}

/-- Closures of a party that are tied run in the same way. -/
structure Heeds (S : Setting E) (cb : Callbacks E (host E)) : Prop where
  handle : ∀ θ c c' attempts, ClosureTied (HandlerBody.Within S.party) θ c c' →
    Agrees S θ (cb.handle c attempts) (cb.handle c' attempts) fun _ a b => a = b
  invoke : ∀ θ c c' arguments, ClosureTied (FunctionBody.Within S.party) θ c c' →
    Agrees S θ (cb.invoke c arguments) (cb.invoke c' arguments) fun _ a b => a = b

namespace Upcall

/-! ## Busy handlers -/

variable {id id' : ConnectionId}

/-- Handlers that are tied, and what they are told. -/
abbrev HandlersTied (S : Setting E) (θ : Ties)
    (found found' : Closure (HandlerBody E.Stimulus) × UInt32) : Prop :=
  ClosureTied (HandlerBody.Within S.party) θ found.1 found'.1 ∧ found.2 = found'.2

/-- Busy handlers that are tied are found, or none in both worlds. -/
theorem agrees_acceptBusy (tied : (id, id') ∈ θ.ids) (attempts : Int32) :
    Agrees S θ (acceptBusy (E := E) (H := host E) id.number attempts)
      (acceptBusy (E := E) (H := host E) id'.number attempts)
      fun θ₁ => Option.Rel (HandlersTied S θ₁) := by
  refine .get_bind fun w w' alike => ?_
  have key : FunctionKey.Tied θ.ids ⟨id, .busyHandler⟩ ⟨id', .busyHandler⟩ := ⟨tied, rfl⟩
  have found := alike.find key
  generalize w.registry.find? ⟨id, .busyHandler⟩ = r at found
  generalize w'.registry.find? ⟨id', .busyHandler⟩ = r' at found
  cases found with
  | none => exact .pure .none
  | some registered =>
    cases registered with
    | busy h =>
      refine .bind (.record (.handled (attemptCount attempts) h.token)) fun θ₁ _ _ le _ => ?_
      exact .pure (.some ⟨h.mono le, rfl⟩)
    | function => exact .pure .none

/-- Busy handlers that are tied give the same verdict. -/
theorem agrees_consult (heeds : Heeds S cb) (tied : (id, id') ∈ θ.ids)
    {c c' : Closure (HandlerBody E.Stimulus)} (h : ClosureTied (HandlerBody.Within S.party) θ c c')
    (count : UInt32) :
    Agrees S θ (consult cb id.number c count) (consult cb id'.number c' count)
      fun _ a b => a = b := by
  refine (heeds.handle θ c c' count h).bind fun θ₁ outcome _ le heq => ?_
  subst heq
  cases outcome with
  | returned again => exact .pure rfl
  | panicked panic =>
    exact .bind (.report (.handlerPanicked _ (le.1 tied))) fun _ _ _ _ _ => .pure rfl

/-- Busy upcalls for connections that are tied are answered alike. -/
theorem agrees_busy (heeds : Heeds S cb) (tied : (id, id') ∈ θ.ids) (attempts : Int32) :
    Agrees S θ (busy cb id.number attempts) (busy cb id'.number attempts) fun _ a b => a = b := by
  refine (agrees_acceptBusy tied attempts).bind fun θ₁ found found' le hfound => ?_
  cases hfound with
  | none => exact .pure rfl
  | @some a b h =>
    obtain ⟨handler, count⟩ := a
    obtain ⟨handler', _⟩ := b
    obtain ⟨closures, rfl⟩ := h
    exact agrees_consult heeds (le.1 tied) closures count

/-! ## User functions -/

/-- An argument is read alike in both worlds. -/
theorem repeats_readArgument (argument : Argument) :
    Repeats S (readArgument argument : SessionM E (Except CodecError Value)) := by
  refine .bind (.ask trivial) fun code => ?_
  cases ColumnType.ofCode code with
  | null => exact .pure _
  | integer => exact .bind (.ask trivial) fun _ => .pure _
  | float => exact .bind (.ask trivial) fun _ => .pure _
  | text => exact .bind (.ask trivial) fun _ => .bind (.ask trivial) fun _ => .pure _
  | blob => exact .bind (.ask trivial) fun _ => .bind (.ask trivial) fun _ => .pure _

/-- Arguments are read alike in both worlds. -/
theorem repeats_readArguments (position : Nat) (arguments : List Argument) :
    Repeats S (readArguments position arguments :
      SessionM E (Except CallbackError (List Value))) := by
  induction arguments generalizing position with
  | nil => exact .pure _
  | cons argument rest ih =>
    refine .bind (repeats_readArgument argument) fun value => ?_
    cases value with
    | error e => exact .pure _
    | ok value =>
      refine .bind (ih (position + 1)) fun values => ?_
      cases values with
      | error e => exact .pure _
      | ok values => exact .pure _

/-- Functions that are tied, and their arguments. -/
abbrev FunctionsTied (S : Setting E) (θ : Ties)
    (found found' : Closure (FunctionBody E.Stimulus) × List Value) : Prop :=
  ClosureTied (FunctionBody.Within S.party) θ found.1 found'.1 ∧ found.2 = found'.2

/-- Functions that are tied are found, with the same arguments, or the same refusal. -/
theorem agrees_accept (context : Context) (count : Int32) (arguments : Option (List Argument)) :
    Agrees S θ (accept (E := E) (H := host E) context count arguments)
      (accept (E := E) (H := host E) context count arguments)
      fun θ₁ => ResultTied (FunctionsTied S θ₁) := by
  refine .bind (.ask (.userData context)) fun θ₁ key key' _ answered => ?_
  have keys := answered.keys
  clear answered
  cases keys with
  | none => exact .pure (.error _)
  | @some key key' tied =>
    refine .get_bind fun w w' alike => ?_
    have found := alike.find tied
    dsimp only
    generalize w.registry.find? key = r at found ⊢
    generalize w'.registry.find? key' = r' at found ⊢
    rw [tied.2]
    cases found with
    | none => exact .pure (.error _)
    | some registered =>
      cases registered with
      | busy => exact .pure (.error _)
      | @function f f' h =>
        refine (repeats_readArguments 1 _ θ₁).bind fun θ₂ values _ le heq => ?_
        subst heq
        cases values with
        | error e => exact .pure (.error e)
        | ok values =>
          refine .bind (.record (.invoked values (le.2 h.token))) fun θ₃ _ _ le₃ _ => ?_
          exact .pure (.ok ⟨h.mono (le.trans le₃), rfl⟩)

/-- Functions that are tied give the same result, or fail alike. -/
theorem agrees_run (heeds : Heeds S cb) (context : Context) (count : Int32)
    (arguments : Option (List Argument)) :
    Agrees S θ (run cb context count arguments) (run cb context count arguments)
      fun _ a b => a = b := by
  refine (agrees_accept context count arguments).bind fun θ₁ r r' _ hr => ?_
  cases hr with
  | error e => exact .pure rfl
  | @ok a b h =>
    obtain ⟨function, values⟩ := a
    obtain ⟨function', _⟩ := b
    obtain ⟨closures, rfl⟩ := h
    exact heeds.invoke θ₁ function function' values closures

/-- Setting an error does the same in both worlds. -/
theorem repeats_setError (context : Context) (message : String) :
    Repeats S (setError context message : SessionM E Unit) :=
  .ask (c := .resultError _ _) trivial

/-- Setting a result does the same in both worlds. -/
theorem repeats_setResult (context : Context) (value : Value) :
    Repeats S (setResult context value : SessionM E Unit) := by
  cases value with
  | null => exact .ask (c := .resultNull _) trivial
  | integer v =>
    unfold setResult
    dsimp only
    split
    · exact .ask (c := .resultInt _ _) trivial
    · exact .ask (c := .resultInt64 _ _) trivial
  | real v => exact .ask (c := .resultDouble _ _) trivial
  | text s =>
    unfold setResult
    dsimp only
    cases Buffer.ofText s with
    | ok buffer => exact .ask (c := .resultText _ _ _) trivial
    | error e => exact repeats_setError context e.message
  | blob bs =>
    unfold setResult
    dsimp only
    cases Buffer.ofBytes bs with
    | ok buffer => exact .ask (c := .resultBlob _ _ _) trivial
    | error e => exact repeats_setError context e.message

/-- Function upcalls are answered alike. -/
theorem agrees_function (heeds : Heeds S cb) (context : Context) (count : Int32)
    (arguments : Option (List Argument)) :
    Agrees S θ (function cb context count arguments) (function cb context count arguments)
      Anything := by
  refine (agrees_run heeds context count arguments).bind fun θ₁ outcome _ _ heq => ?_
  subst heq
  cases outcome with
  | returned result =>
    cases result with
    | ok value => exact (repeats_setResult context value θ₁).mono fun _ _ _ _ => trivial
    | error e => exact (repeats_setError context e.message θ₁).mono fun _ _ _ _ => trivial
  | panicked panic =>
    have reported : Repeats S
        (Bridge.report (.functionPanicked panic.describe) : SessionM E Unit) := .report trivial
    refine (reported θ₁).bind fun θ₂ _ _ _ _ => ?_
    exact (repeats_setError context _ θ₂).mono fun _ _ _ _ => trivial

/-! ## Executions -/

/-- An engine that goes on alike may be put back in both worlds. -/
theorem agrees_setEngine {s s' : E.State} (same : S.oblivious.Same θ.ids s s') :
    Agrees S θ (modify fun w => { w with engine := s } : SessionM E Unit)
      (modify fun w => { w with engine := s' }) Anything :=
  fun _ _ alike => ⟨θ, le_refl θ, alike.withEngine same, trivial⟩

/-- The engine is followed to its answer.  The induction is on the course of the engine. -/
theorem agrees_serve (heeds : Heeds S cb) {ids : IdTies} {reply reply' : Reply E.State α}
    (replies : Replies S.oblivious.Same ids reply reply') (hids : ids = θ.ids) :
    Agrees S θ (serve cb reply) (serve cb reply') fun _ a b => a = b := by
  induction replies generalizing θ with
  | done answer same =>
    subst hids
    exact (agrees_setEngine same).bind fun _ _ _ _ _ => .pure rfl
  | busy attempts given same goesOn ih =>
    subst hids
    refine (agrees_setEngine same).bind fun θ₁ _ _ le _ => ?_
    refine (agrees_busy heeds (le.1 given) attempts).bind fun θ₂ code _ le₂ heq => ?_
    subst heq
    refine .get_bind fun w w' alike => ?_
    exact ih θ₂.ids code _ _ (le.trans le₂).1 alike.engine rfl
  | function context count arguments same goesOn ih =>
    subst hids
    refine (agrees_setEngine same).bind fun θ₁ _ _ le _ => ?_
    refine (agrees_function heeds context count arguments).bind fun θ₂ _ _ le₂ _ => ?_
    refine .get_bind fun w w' alike => ?_
    exact ih θ₂.ids _ _ (le.trans le₂).1 alike.engine rfl

/-- What the engine runs it runs alike, its callbacks included. -/
theorem agrees_execute (heeds : Heeds S cb) (execution : Execution) :
    Agrees S θ (execute cb execution) (execute cb execution) fun _ a b => a = b := by
  have started : Agrees S θ (start execution : SessionM E (Reply E.State Int32)) (start execution)
      fun θ₁ => Replies S.oblivious.Same θ₁.ids := by
    refine .bind (.report (.nameless trivial)) fun θ₁ _ _ _ _ => ?_
    refine .bind (.record (.began execution)) fun θ₂ _ _ _ _ => ?_
    exact .get_bind fun w w' alike => .pure (S.oblivious.execute alike.engine execution)
  refine started.bind fun θ₁ reply reply' _ replies => ?_
  refine (agrees_serve heeds replies rfl).bind fun θ₂ code _ _ heq => ?_
  subst heq
  exact .bind (.record (.ended execution code)) fun _ _ _ _ _ => .pure rfl

/-- A stimulus from outside is answered alike. -/
theorem agrees_stimulate (heeds : Heeds S cb) (stimulus : E.Stimulus) :
    Agrees S θ (stimulate cb stimulus) (stimulate cb stimulus) fun _ a b => a = b :=
  .get_bind fun _ _ alike =>
    agrees_serve heeds (S.oblivious.stimulate alike.engine stimulus) rfl

end Upcall

/-- Executing a batch on connections that are tied agrees. -/
theorem Connection.agrees_executeBatch (heeds : Heeds S cb) {conn conn' : Connection}
    (sql : String) (tied : conn.Tied θ conn') :
    Agrees S θ (conn.executeBatch cb sql).run (conn'.executeBatch cb sql).run
      (Results Anything) := by
  refine agrees_live tied fun d => .run_ofExcept_bind fun text _ => ?_
  have executed : Agrees S θ (Upcall.execute cb (.exec d text)) (Upcall.execute cb (.exec d text))
      fun _ a b => a = b := Upcall.agrees_execute heeds _
  refine .run_lift_bind executed fun θ₁ code _ _ heq => ?_
  subst heq
  split
  · exact .run_pure trivial
  · refine .run_lift_bind (Repeats.diagnose (some d) .exec code θ₁) fun θ₂ e _ _ heq => ?_
    subst heq
    exact .run_throw _

/-- Stepping statements that are tied agrees, and they stay tied. -/
theorem Statement.agrees_step (heeds : Heeds S cb) {stmt stmt' : Statement}
    (tied : stmt.Tied θ stmt') :
    Agrees S θ (stmt.step cb) (stmt'.step cb) (GivesBack Statement.Tied) := by
  obtain ⟨id', hid, rfl⟩ := tied.exists_eq
  obtain ⟨id, database, handle, state, sql⟩ := stmt
  unfold step
  dsimp only at hid ⊢
  cases handle with
  | none => exact .pure ⟨rfl, hid, rfl⟩
  | some p =>
    refine (Upcall.agrees_execute heeds (.step p)).bind fun θ₁ code _ le heq => ?_
    subst heq
    split
    · exact .pure ⟨rfl, le.1 hid, rfl⟩
    · exact .pure ⟨rfl, le.1 hid, rfl⟩
    · refine (Repeats.diagnose (some database) .step code θ₁).bind fun θ₂ e _ le₂ heq => ?_
      subst heq
      exact .pure ⟨rfl, le₂.1 (le.1 hid), rfl⟩

end EngineBridge
