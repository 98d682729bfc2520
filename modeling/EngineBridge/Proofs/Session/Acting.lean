import EngineBridge.Proofs.Session.Serving

/-!
# Steps are tame

Every step of a session, whatever it does and whether or not it succeeds, leads from a
situation between operations to another and leaves alone what is in use.
-/

set_option autoImplicit false

namespace EngineBridge.Session

open Native

variable {E : Engine} {α β : Type} {w : World E (host E)} {slot : String}
variable {cb : Callbacks E (host E)}

/-- Without a connection in it, a slot need not be emptied. -/
theorem State.without_of_none {ρ : Type} {s : State ρ} (h : s.connections.get? slot = none) :
    s.without slot = s := by
  rw [State.without, Slots.erase_of_get?_none h]

/-- There is no connection in use in an empty slot. -/
theorem State.Unused.of_none {ρ : Type} {s : State ρ} (h : s.connections.get? slot = none) :
    s.Unused slot := by
  intro conn found
  cases h.symm.trans found

namespace Attempt

/-- An operation that leaves the custody as it is, and nothing after it. -/
theorem leads_operation {m : Fallible E (host E) α} (g : α → β)
    (h : Leads Move m.run (w.host.custody 0) w fun _ κ' _ => κ' = w.host.custody 0) :
    Leads Turn (operation m >>= fun a => pure (g a)).run (w.host.custody 0) w
      fun _ κ' w' => Rests w w' κ' := by
  unfold operation
  rw [bind_assoc]
  refine Leads.run_lift_bind h.turn ?_
  rintro (e | a) _ w₁ ⟨rfl, hhost⟩
  · exact Leads.pure (.of_eq rfl hhost)
  · exact Leads.pure (.of_eq rfl hhost)

/-- The result of an operation is settled once the session rests. -/
theorem leads_settle {w₁ : World E (host E)} {κ : Custody} {r : Except BindError α} (g : α → β)
    (rests : Rests w w₁ κ) :
    Leads Turn (settle r >>= fun a => pure (g a) : Attempt E β).run κ w₁
      fun _ κ' w' => Rests w w' κ' := by
  cases r with
  | error e => exact Leads.pure rests
  | ok a => exact Leads.pure rests

end Attempt

open Attempt

/-- A new connection is put into a slot. -/
theorem leads_placeConnection (conn : Connection) {v : World E (host E)}
    (spares : w.host.Spares v.host) (unused : v.host.Unused slot) :
    Leads Turn (putConnection slot conn) ((v.host.without slot).custody (conn ::ₘ 0)) v
      fun _ κ' w' => Rests w w' κ' := by
  refine (leads_putConnection conn).mono ?_
  rintro _ _ w₂ ⟨rfl, hhost⟩
  refine ⟨rfl, spares.trans ?_⟩
  rw [hhost]
  exact unused.spares_put conn

variable (t : Target)

/-! ## Connections -/

/-- Creating a connection goes by turns. -/
theorem tame_create : Tame (act cb t .create).run := by
  intro w guarded
  refine Leads.run_bind (leads_vacate guarded) ?_ ?_
  · rintro _ _ w₁ ⟨⟨rfl, spares⟩, vacant⟩
    have vacant := vacant rfl
    have placed : Leads Turn (do putConnection t.connectionSlot (← Connection.create))
        (w₁.host.custody 0) w₁ fun _ κ' w' => Rests w w' κ' := by
      refine Leads.bind Connection.leads_create.turn ?_
      rintro conn _ w₂ ⟨⟨-, rfl⟩, hhost⟩
      have put := leads_placeConnection conn (v := w₂) (hhost ▸ spares)
        (hhost ▸ State.Unused.of_none vacant)
      rw [hhost, State.without_of_none vacant] at put
      exact put
    exact Leads.run_lift_bind placed fun _ _ _ h => Leads.pure h
  · exact fun _ _ _ h => h.1

/-- Creating a connection and opening it goes by turns. -/
theorem tame_connect (path : String) (options : OpenOptions) :
    Tame (act cb t (.connect path options)).run := by
  intro w guarded
  refine Leads.run_bind (leads_vacate guarded) ?_ ?_
  · rintro _ _ w₁ ⟨⟨rfl, spares⟩, vacant⟩
    have vacant := vacant rfl
    simp only [operation, bind_assoc]
    refine Leads.run_lift_bind (Connection.leads_connectWith path options rfl).turn ?_
    rintro (e | conn) _ w₂ ⟨rfl, hhost⟩
    · exact Leads.pure (.trans ⟨rfl, spares⟩ (.of_eq rfl hhost))
    · have put := leads_placeConnection conn (v := w₂) (hhost ▸ spares)
        (hhost ▸ State.Unused.of_none vacant)
      rw [hhost, State.without_of_none vacant] at put
      exact Leads.run_lift_bind put fun _ _ _ h => Leads.pure h
  · exact fun _ _ _ h => h.1

/-- Opening a connection goes by turns. -/
theorem tame_openWith (path : String) (options : OpenOptions) :
    Tame (act cb t (.openWith path options)).run := by
  intro w guarded
  refine Leads.run_bind (leads_exclusive guarded) ?_ ?_
  · rintro conn _ w₁ ⟨⟨rfl, spares⟩, alone⟩
    have alone := alone conn rfl
    refine Leads.before alone.reserve (Leads.run_lift_bind
      (Connection.leads_openWith path options rfl (State.exclusive_custody _ _)).turn ?_)
    rintro ⟨result, other⟩ _ w₂ ⟨⟨-, -, rfl⟩, hhost⟩
    have put := leads_placeConnection other (v := w₂) (hhost ▸ spares)
      (hhost ▸ alone.unused)
    rw [hhost] at put
    exact Leads.run_lift_bind put fun _ _ _ h => leads_settle _ h
  · exact fun _ _ _ h => h.1

/-- Closing a connection goes by turns. -/
theorem tame_close : Tame (act cb t .close).run := by
  intro w guarded
  refine Leads.run_bind (leads_exclusive guarded) ?_ ?_
  · rintro conn _ w₁ ⟨⟨rfl, spares⟩, alone⟩
    have alone := alone conn rfl
    refine Leads.before alone.reserve (Leads.run_lift_bind
      (Connection.leads_close (State.exclusive_custody _ _)).turn ?_)
    rintro ⟨result, other⟩ _ w₂ ⟨⟨-, rfl⟩, hhost⟩
    have put := leads_placeConnection other (v := w₂) (hhost ▸ spares)
      (hhost ▸ alone.unused)
    rw [hhost] at put
    exact Leads.run_lift_bind put fun _ _ _ h => leads_settle _ h
  · exact fun _ _ _ h => h.1

/-- Dropping a connection goes by turns. -/
theorem tame_dropConnection : Tame (act cb t .dropConnection).run := by
  intro w guarded
  refine Leads.run_bind (leads_exclusive guarded) ?_ ?_
  · rintro conn _ w₁ ⟨⟨rfl, spares⟩, alone⟩
    have alone := alone conn rfl
    refine Leads.run_lift_bind (leads_dropConnection alone) ?_
    rintro _ _ w₂ ⟨rfl, hhost⟩
    exact Leads.pure ⟨rfl, spares.trans (hhost ▸ alone.unused.spares_without)⟩
  · exact fun _ _ _ h => h.1

/-- Executing a batch goes by turns if its callbacks do. -/
theorem tame_executeBatch (tame : TameCallbacks cb) (sql : String) :
    Tame (act cb t (.executeBatch sql)).run := by
  intro w guarded
  refine leads_connection (.refl w) fun conn found => ?_
  let w₁ : World E (host E) :=
    { w with host := { w.host with engaged := conn.id :: w.host.engaged } }
  have guarded₁ : w₁.host.Guarded := fun name used t ht =>
    List.mem_cons_of_mem _ (guarded name used t ht)
  have engaged : Leads Turn (engage conn.id (conn.executeBatch cb sql).run) (w.host.custody 0) w
      fun _ κ' w' => Rests w w' κ' := by
    refine leads_engage (leads_executeBatch tame (w := w₁) sql found List.mem_cons_self guarded₁) ?_
    rintro r _ w' ⟨rfl, spares⟩
    exact ⟨rfl, spares.disengage⟩
  exact Leads.run_lift_bind engaged fun _ _ _ h => leads_settle _ h

/-! ## Callbacks -/

/-- A closure is made that owns the connection in a slot, if it is to own one. -/
theorem leads_closure {Code : Type} (code : Code) {owned : Option Connection} {κ : Custody} :
    Leads Move (Bridge.newClosure code owned : SessionM E (Closure Code)) κ w
      fun closure κ' _ => closure.owned = owned ∧ κ' = κ :=
  Leads.single .closure ⟨rfl, rfl⟩

/-- A closure has the connection that it is to own, or there is no closure. -/
theorem leads_make {Code : Type} (code : Code) {m : Attempt E (Option Connection)}
    (h : Leads Turn m.run (w.host.custody 0) w fun r κ' w' =>
      w.host.Spares w'.host ∧ κ' = w'.host.custody (gained id r)) :
    Leads Turn (m >>= fun owned => lift (Bridge.newClosure code owned)).run (w.host.custody 0) w
      fun r κ' w' => w.host.Spares w'.host ∧ κ' = w'.host.custody (gained (·.owned) r) := by
  refine Leads.run_bind h ?_ fun _ _ _ h => h
  rintro owned _ w₁ ⟨spares, rfl⟩
  refine Leads.run_lift ((leads_closure code).turn.mono ?_)
  rintro closure _ w₂ ⟨⟨rfl, rfl⟩, hhost⟩
  exact ⟨hhost ▸ spares, by rw [hhost]; rfl⟩

/-- The connection that a closure is to own is taken out of its slot. -/
theorem leads_owned (guarded : w.host.Guarded) :
    Leads Turn (owned slot).run (w.host.custody 0) w fun r κ' w' =>
      w.host.Spares w'.host ∧ κ' = w'.host.custody (gained id r) := by
  refine Leads.run_bind (leads_take guarded) ?_ fun _ _ _ h => h
  rintro conn _ w₁ ⟨spares, rfl⟩
  exact Leads.pure ⟨spares, rfl⟩

/-- The handler of a step has the connection that it is to own. -/
theorem leads_handler (body : HandlerBody E.Stimulus) (guarded : w.host.Guarded) :
    Leads Turn (handler body).run (w.host.custody 0) w fun r κ' w' =>
      w.host.Spares w'.host ∧ κ' = w'.host.custody (gained (·.owned) r) := by
  cases body with
  | own slot => exact leads_make _ (leads_owned guarded)
  | invalid => exact Leads.pure ⟨.refl _, rfl⟩
  | _ => exact leads_make _ (m := pure none) (Leads.pure ⟨.refl _, rfl⟩)

/-- The function of a step has the connection that it is to own. -/
theorem leads_function (body : FunctionBody E.Stimulus) (guarded : w.host.Guarded) :
    Leads Turn (function body).run (w.host.custody 0) w fun r κ' w' =>
      w.host.Spares w'.host ∧ κ' = w'.host.custody (gained (·.owned) r) := by
  cases body with
  | own slot => exact leads_make _ (leads_owned guarded)
  | invalid => exact Leads.pure ⟨.refl _, rfl⟩
  | _ => exact leads_make _ (m := pure none) (Leads.pure ⟨.refl _, rfl⟩)

/-- A closure in a registration captures what it owns. -/
theorem capturedBy_singleton {H : Host} (r : Registration H) :
    capturedBy [r] = (r.owned.toList : Multiset Connection) := by
  unfold capturedBy
  cases h : r.owned <;> simp [h]

/-- Something is done with the connection in a slot and the closure that a step has made,
or the closure goes. -/
theorem leads_withClosure {κ : Custody} {r : Registration (host E)}
    {f : Connection → Attempt E β} {w₁ : World E (host E)} (spares : w.host.Spares w₁.host)
    (owned : κ = w₁.host.custody r.owned.toList)
    (next : ∀ conn, w₁.host.connections.get? slot = some conn →
      κ.exclusive = capturedBy [r] + 0 →
      Leads Turn (f conn).run κ w₁ fun _ κ' w' => Rests w w' κ') :
    Leads Turn (do
      match (← lift state).connections.get? slot with
      | none =>
        lift (Bridge.dispose [r])
        throw .noSlot
      | some conn => f conn : Attempt E β).run κ w₁ fun _ κ' w' => Rests w w' κ' := by
  have hand : κ.exclusive = capturedBy [r] + 0 := by
    rw [owned, capturedBy_singleton, State.exclusive_custody, Multiset.add_zero]
  refine leads_state ?_
  cases found : w₁.host.connections.get? slot with
  | some conn => exact next conn found hand
  | none =>
    refine Leads.run_lift_bind (Bridge.leads_dispose hand).turn ?_
    rintro _ _ w₂ ⟨rfl, hhost⟩
    refine Leads.pure ⟨?_, by rw [hhost]; exact spares⟩
    rw [owned, hhost]
    rfl

/-- An operation that lets a closure go or puts it into the registry, and nothing after
it. -/
theorem leads_consume {m : Fallible E (host E) Unit} {κ : Custody} {w₁ : World E (host E)}
    {exclusive : Multiset Connection} (spares : w.host.Spares w₁.host)
    (owned : κ = w₁.host.custody exclusive)
    (h : Leads Move m.run κ w₁ fun _ κ' _ => κ' = { κ with exclusive := 0 }) :
    Leads Turn (do operation m; pure Payload.nothing : Attempt E (Payload E.Response)).run κ w₁
      fun _ κ' w' => Rests w w' κ' := by
  have rests {w₂ : World E (host E)} (hhost : w₂.host = w₁.host) :
      Rests w w₂ { κ with exclusive := 0 } := by
    refine ⟨?_, by rw [hhost]; exact spares⟩
    rw [owned, hhost]
    rfl
  simp only [operation, bind_assoc]
  refine Leads.run_lift_bind h.turn ?_
  rintro (e | _) _ w₂ ⟨rfl, hhost⟩
  · exact Leads.pure (rests hhost)
  · exact Leads.pure (rests hhost)

/-- Registering a busy handler goes by turns. -/
theorem tame_registerBusyHandler (body : HandlerBody E.Stimulus) :
    Tame (act cb t (.registerBusyHandler body)).run := by
  intro w guarded
  refine Leads.run_bind (leads_handler body guarded) ?_ ?_
  · rintro closure _ w₁ ⟨spares, rfl⟩
    refine leads_withClosure (r := .busy closure) spares rfl fun conn found hand => ?_
    exact leads_consume spares rfl (Connection.leads_registerBusyHandler
      (Slots.mem_values_iff.mpr ⟨_, found⟩) hand rfl)
  · rintro e _ w₁ ⟨spares, rfl⟩
    exact ⟨rfl, spares⟩

/-- Registering a user function goes by turns. -/
theorem tame_registerFunction (name : String) (arity : Int32) (flags : FunctionFlags)
    (body : FunctionBody E.Stimulus) :
    Tame (act cb t (.registerFunction name arity flags body)).run := by
  intro w guarded
  refine Leads.run_bind (leads_function body guarded) ?_ ?_
  · rintro closure _ w₁ ⟨spares, rfl⟩
    refine leads_withClosure (r := .function closure) spares rfl fun conn found hand => ?_
    exact leads_consume spares rfl (Connection.leads_registerFunction
      (Slots.mem_values_iff.mpr ⟨_, found⟩) hand)
  · rintro e _ w₁ ⟨spares, rfl⟩
    exact ⟨rfl, spares⟩

/-- An operation on the connection in a slot that leaves the custody as it is. -/
theorem tame_operation {m : Connection → Fallible E (host E) α} (g : α → β)
    (h : ∀ (κ : Custody) (w : World E (host E)) conn, conn ∈ κ.shared → κ.settling = none →
      Leads Move (m conn).run κ w fun _ κ' _ => κ' = κ) :
    Tame (connection slot >>= fun conn => operation (m conn) >>= fun a => pure (g a)).run := by
  intro w guarded
  refine leads_connection (.refl w) fun conn found => leads_operation g ?_
  exact h _ w conn (Slots.mem_values_iff.mpr ⟨slot, found⟩) rfl

/-- A question to the connection in a slot. -/
theorem tame_question {m : Connection → Fallible E (host E) α} (g : α → β)
    (h : ∀ conn, Asks (Call.Within conn.handle none) (m conn).run) :
    Tame (connection slot >>= fun conn => operation (m conn) >>= fun a => pure (g a)).run := by
  refine tame_operation g fun κ w conn hand _ => ?_
  refine ((h conn).leads_within (fun d hd => ?_) (by simp)).mono fun _ _ _ h => h.1
  exact Custody.reaches_shared hand hd

/-- Interrupting a connection goes by turns. -/
theorem tame_interrupt : Tame (act cb t .interrupt).run := by
  intro w guarded
  refine leads_connection (.refl w) fun conn found => ?_
  refine Leads.run_lift_bind (Connection.leads_interrupt conn.id).turn ?_
  rintro _ _ w₁ ⟨rfl, hhost⟩
  exact Leads.pure (Rests.of_eq rfl hhost)

/-- Interrupting by a handle goes by turns. -/
theorem tame_interruptBy (slot : String) : Tame (act cb t (.interruptBy slot)).run := by
  intro w guarded
  refine leads_state ?_
  split
  · exact Leads.pure (.refl w)
  · next id _ =>
    refine Leads.run_lift_bind (Connection.leads_interrupt id).turn ?_
    rintro _ _ w₁ ⟨rfl, hhost⟩
    have described : Leads Turn (Connection.describeHandle id) (w.host.custody 0) w₁
        fun _ κ' w' => Rests w w' κ' := Leads.get_bind (Leads.pure (.of_eq rfl hhost))
    exact Leads.run_lift_bind described fun _ _ _ h => Leads.pure h

/-- Keeping a handle goes by turns. -/
theorem tame_keepInterruptHandle (slot : String) :
    Tame (act cb t (.keepInterruptHandle slot)).run := by
  intro w guarded
  refine leads_connection (.refl w) fun conn found => ?_
  have kept : Leads Turn (update fun s => { s with interrupts := s.interrupts.put slot conn.id })
      (w.host.custody 0) w fun _ κ' w' => Rests w w' κ' :=
    Leads.update ⟨rfl, rfl, rfl, fun _ _ _ h => h, fun _ _ => rfl⟩
  exact Leads.run_lift_bind kept fun _ _ _ h => Leads.pure h

/-! ## Statements -/

/-- A statement goes out of use unless a step of it is in progress. -/
theorem leads_dropUnused {stmt : Statement} (found : w.host.statements.get? slot = some stmt)
    (unused : slot ∉ w.host.stepping) :
    Leads Turn (dropStatement slot stmt) (w.host.custody 0) w fun _ κ' w' =>
      Rests w w' κ' ∧ w'.host.statements.get? slot = none := by
  refine (leads_dropStatement found).mono ?_
  rintro _ _ w₁ ⟨hhost, rfl⟩
  rw [Rests, hhost]
  exact ⟨⟨rfl, State.spares_eraseStatement unused⟩, Slots.get?_erase_self _ _⟩

/-- A slot is emptied before a new statement is prepared for it. -/
theorem leads_clearStatement {m : Attempt E β} {post : Except Failure β → Custody →
    World E (host E) → Prop} (unused : slot ∉ w.host.stepping)
    (next : ∀ w₁, w.host.Spares w₁.host → w₁.host.statements.get? slot = none →
      Leads Turn m.run (w₁.host.custody 0) w₁ post) :
    Leads Turn (do
      match w.host.statements.get? slot with
      | none => pure ()
      | some stmt => lift (dropStatement slot stmt)
      m : Attempt E β).run (w.host.custody 0) w post := by
  cases found : w.host.statements.get? slot with
  | none => exact next w (.refl _) found
  | some stmt =>
    refine Leads.run_lift_bind (leads_dropUnused found unused) ?_
    rintro _ _ w₁ ⟨⟨rfl, spares⟩, vacant⟩
    exact next w₁ spares vacant

/-- Preparing a statement goes by turns. -/
theorem tame_prepare (sql : String) : Tame (act cb t (.prepare sql)).run := by
  intro w guarded
  refine leads_state ?_
  by_cases used : t.statementSlot ∈ w.host.stepping
  · simp only [if_pos used]
    exact Leads.pure (.refl w)
  · simp only [if_neg used]
    refine leads_clearStatement used fun w₁ spares vacant => ?_
    refine leads_connection ⟨rfl, spares⟩ fun conn found => ?_
    simp only [operation, bind_assoc]
    refine Leads.run_lift_bind (Connection.leads_prepare sql
      (Slots.mem_values_iff.mpr ⟨_, found⟩)).turn ?_
    rintro (e | stmt) _ w₂ ⟨rfl, hhost⟩
    · exact Leads.pure (.trans ⟨rfl, spares⟩ (.of_eq rfl hhost))
    · have put : Leads Turn (putStatement t.statementSlot stmt)
          { w₁.host.custody 0 with statements := stmt ::ₘ w₁.host.statements.values } w₂
          fun _ κ' w' => Rests w w' κ' := by
        refine Leads.update ⟨?_, ?_⟩
        · simp only [State.custody, hhost, Slots.values_put, Slots.erase_of_get?_none vacant]
        · rw [hhost]
          exact spares.trans (State.spares_putStatement _ (spares.stepping ▸ used))
      exact Leads.run_lift_bind put fun _ _ _ h => Leads.pure h

/-- Dropping a statement goes by turns. -/
theorem tame_dropStatement : Tame (act cb t .dropStatement).run := by
  intro w guarded
  refine leads_statement (fun _ => .refl w) fun stmt found unused => ?_
  exact Leads.run_lift_bind (leads_dropUnused found unused) fun _ _ _ h => Leads.pure h.1

/-- Stepping a statement goes by turns if its callbacks do. -/
theorem tame_step (tame : TameCallbacks cb) : Tame (act cb t .step).run := by
  intro w guarded
  refine leads_statement (fun _ => .refl w) fun stmt found unused => ?_
  refine Leads.run_lift_bind (leads_advance tame found unused guarded) ?_
  rintro (e | outcome) _ w₁ rests
  · exact Leads.pure rests
  · cases outcome <;> exact Leads.pure rests

/-- A statement comes back to its slot after an operation. -/
theorem leads_returnStatement {r : Except BindError α} {stmt : Statement} (g : α → β)
    {w₁ : World E (host E)} (hhost : w₁.host = w.host) (unused : slot ∉ w.host.stepping) :
    Leads Turn (do
      lift (putStatement slot stmt)
      let a ← settle r
      pure (g a) : Attempt E β).run
        { w.host.custody 0 with statements := stmt ::ₘ (w.host.statements.erase slot).values } w₁
      fun _ κ' w' => Rests w w' κ' := by
  have put : Leads Turn (putStatement slot stmt)
      { w.host.custody 0 with statements := stmt ::ₘ (w.host.statements.erase slot).values } w₁
      fun _ κ' w' => Rests w w' κ' := by
    refine Leads.update ⟨?_, ?_⟩
    · simp only [State.custody, hhost, Slots.values_put]
    · rw [hhost]
      exact State.spares_putStatement _ unused
  exact Leads.run_lift_bind put fun _ _ _ rests => leads_settle g rests

/-- Resetting a statement goes by turns. -/
theorem tame_reset : Tame (act cb t .reset).run := by
  intro w guarded
  refine leads_statement (fun _ => .refl w) fun stmt found unused => ?_
  refine Leads.run_lift_bind (Statement.leads_reset (Slots.values_of_get? found)).turn ?_
  rintro ⟨r, other⟩ _ w₁ ⟨⟨-, rfl⟩, hhost⟩
  exact leads_returnStatement _ hhost unused

/-- Finalizing a statement goes by turns. -/
theorem tame_finalize : Tame (act cb t .finalize).run := by
  intro w guarded
  refine leads_statement (fun _ => .refl w) fun stmt found unused => ?_
  refine Leads.run_lift_bind (Statement.leads_finalize (Slots.values_of_get? found)).turn ?_
  rintro ⟨r, other⟩ _ w₁ ⟨⟨-, -, rfl⟩, hhost⟩
  exact leads_returnStatement _ hhost unused

/-- A question to a statement asks about nothing else. -/
theorem asks_query (query : Query) (stmt : Statement) :
    Asks stmt.Calls (query.ask stmt : Fallible E (host E) (Payload E.Response)).run := by
  have then_pure {α : Type} {m : Fallible E (host E) α} (g : α → Payload E.Response)
      (h : Asks stmt.Calls m.run) : Asks stmt.Calls (m >>= fun a => pure (g a)).run :=
    Asks.run_bind h fun _ => Asks.run_pure _
  cases query with
  | bindNull i => exact then_pure _ (Statement.asks_bindNull i)
  | bindInt i v => exact then_pure _ (Statement.asks_bindInt i v)
  | bindInt64 i v => exact then_pure _ (Statement.asks_bindInt64 i v)
  | bindDouble i v => exact then_pure _ (Statement.asks_bindDouble i v)
  | bindText i v => exact then_pure _ (Statement.asks_bindText i v)
  | bindBlob i v => exact then_pure _ (Statement.asks_bindBlob i v)
  | bindValue i v => exact then_pure _ (Statement.asks_bindValue i v)
  | clearBindings => exact then_pure _ Statement.asks_clearBindings
  | bindParameterCount => exact then_pure _ Statement.asks_bindParameterCount
  | columnCount => exact then_pure _ Statement.asks_columnCount
  | columnName i => exact then_pure _ (Statement.asks_columnName i)
  | columnTableName i => exact then_pure _ (Statement.asks_columnTableName i)
  | columnDecltype i => exact then_pure _ (Statement.asks_columnDecltype i)
  | columnType i => exact then_pure _ (Statement.asks_columnType i)
  | columnText i => exact then_pure _ (Statement.asks_columnText i)
  | columnBlob i => exact then_pure _ (Statement.asks_columnBlob i)
  | columnDouble i => exact then_pure _ (Statement.asks_columnDouble i)
  | columnInt i => exact then_pure _ (Statement.asks_columnInt i)
  | columnInt64 i => exact then_pure _ (Statement.asks_columnInt64 i)
  | columnBytes i => exact then_pure _ (Statement.asks_columnBytes i)
  | columnValue i => exact then_pure _ (Statement.asks_columnValue i)

/-- A question to a statement goes by turns. -/
theorem tame_query (query : Query) : Tame (act cb t (.query query)).run := by
  intro w guarded
  refine leads_statement (fun _ => .refl w) fun stmt found unused => ?_
  have hand : stmt ∈ w.host.statements.values := Slots.mem_values_iff.mpr ⟨_, found⟩
  have asked : Leads Move (query.ask stmt).run (w.host.custody 0) w
      fun _ κ' _ => κ' = w.host.custody 0 := by
    refine ((asks_query query stmt).leads_within ?_ ?_).mono fun _ _ _ h => h.1
    · rintro _ ⟨⟩
      exact .inr (.inl ⟨stmt, hand, rfl⟩)
    · exact fun p hp => ⟨stmt, hand, hp⟩
  exact (bind_pure (operation (query.ask stmt)) ▸ leads_operation id asked)

/-! ## All steps -/

/-- A step of a session is tame if the callbacks are. -/
theorem tame_act (tame : TameCallbacks cb) (action : Action E.Stimulus) :
    Tame (act cb t action).run := by
  cases action with
  | create => exact tame_create t
  | connect path options => exact tame_connect t path options
  | openWith path options => exact tame_openWith t path options
  | close => exact tame_close t
  | dropConnection => exact tame_dropConnection t
  | executeBatch sql => exact tame_executeBatch t tame sql
  | busyTimeout ms =>
    exact tame_operation _ fun _ _ _ hand idle => Connection.leads_busyTimeout ms hand idle
  | registerBusyHandler body => exact tame_registerBusyHandler t body
  | clearBusyHandler =>
    exact tame_operation _ fun _ _ _ hand idle => Connection.leads_clearBusyHandler hand idle
  | registerFunction name arity flags body => exact tame_registerFunction t name arity flags body
  | removeFunction name arity =>
    exact tame_operation _ fun _ _ _ hand _ => Connection.leads_removeFunction name arity hand
  | errmsg => exact tame_question _ fun _ => Connection.asks_errmsg
  | version =>
    exact fun w _ => leads_connection (.refl w) fun _ _ =>
      leads_operation _ (Library.asks_version.leads_anywhere _ w)
  | changes => exact tame_question _ fun _ => Connection.asks_changes
  | totalChanges => exact tame_question _ fun _ => Connection.asks_totalChanges
  | limit limit value => exact tame_question _ fun _ => Connection.asks_limit limit value
  | enableLoadExtension on => exact tame_question _ fun _ => Connection.asks_enableLoadExtension on
  | interrupt => exact tame_interrupt t
  | keepInterruptHandle slot => exact tame_keepInterruptHandle t slot
  | describeConnection =>
    exact fun w _ => leads_connection (.refl w) fun _ _ => Leads.pure (.refl w)
  | enableSharedCache on =>
    exact fun w _ => leads_operation _ ((Library.asks_enableSharedCache on).leads_anywhere _ w)
  | interruptBy slot => exact tame_interruptBy t slot
  | prepare sql => exact tame_prepare t sql
  | dropStatement => exact tame_dropStatement t
  | step => exact tame_step t tame
  | reset => exact tame_reset t
  | finalize => exact tame_finalize t
  | query query => exact tame_query t query
  | describeStatement =>
    exact fun w _ => leads_statement (fun _ => .refl w) fun _ _ _ => Leads.pure (.refl w)
  | stimulate stimulus =>
    exact fun w guarded => Leads.run_lift_bind (tame_stimulate tame stimulus w guarded)
      fun _ _ _ h => Leads.pure h
  | invalid => exact fun w _ => Leads.pure (.refl w)

end EngineBridge.Session
