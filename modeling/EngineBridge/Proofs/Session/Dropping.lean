import EngineBridge.Proofs.Session.Custody

/-!
# Emptying slots

Statements and connections that go out of use, and the connection in a slot taken for
oneself: its statements go first.
-/

set_option autoImplicit false

namespace EngineBridge

open Native

variable {E : Engine} {α β : Type}

namespace Leads

open Session

variable {κ : Custody} {w : World E (host E)}

/-- The session changes its own state before something else. -/
theorem update_bind {change : State E.Response → State E.Response} {f : Unit → SessionM E β}
    {post : β → Custody → World E (host E) → Prop}
    (h : Leads Turn (f ()) κ { w with host := change w.host } post) :
    Leads Turn (update change >>= f) κ w post :=
  shift (.single (.host (change w.host))) rfl h

/-- The session changes its own state. -/
theorem update {change : State E.Response → State E.Response}
    {post : Unit → Custody → World E (host E) → Prop}
    (h : post () κ { w with host := change w.host }) :
    Leads Turn (update change) κ w post := by
  have turn : Turn ⟨κ, w⟩ ⟨κ, { w with host := change w.host }⟩ := .host (w := w) (change w.host)
  exact ⟨κ, .single turn, h⟩

end Leads

namespace Session

variable {w : World E (host E)} {slot : String} {x : Multiset Connection}

/-- A statement goes out of use and leaves its slot empty. -/
theorem leads_dropStatement {stmt : Statement}
    (found : w.host.statements.get? slot = some stmt) :
    Leads Turn (dropStatement slot stmt) (w.host.custody x) w fun _ κ' w' =>
      w'.host = { w.host with statements := w.host.statements.erase slot } ∧
        κ' = w'.host.custody x := by
  refine Leads.update_bind ?_
  refine (Statement.leads_drop (Slots.values_of_get? found)).turn.mono ?_
  rintro _ _ w₁ ⟨rfl, hhost⟩
  refine ⟨hhost, ?_⟩
  rw [hhost]
  rfl

/-- Statements in different slots go out of use and leave their slots empty. -/
theorem leads_dropStatements (stmts : List (String × Statement))
    (distinct : stmts.Pairwise (·.1 ≠ ·.1))
    (found : ∀ entry ∈ stmts, w.host.statements.get? entry.1 = some entry.2) :
    Leads Turn (stmts.forM fun (slot, stmt) => dropStatement slot stmt) (w.host.custody x) w
      fun _ κ' w' => κ' = w'.host.custody x ∧ ∃ statements,
        w'.host = { w.host with statements } ∧
        ∀ name, statements.get? name =
          if name ∈ stmts.map (·.1) then none else w.host.statements.get? name := by
  induction stmts generalizing w with
  | nil => exact Leads.pure ⟨rfl, w.host.statements, rfl, by simp⟩
  | cons entry rest ih =>
    obtain ⟨slot, stmt⟩ := entry
    obtain ⟨hne, hrest⟩ := List.pairwise_cons.mp distinct
    rw [List.forM_eq_forM, List.forM_cons]
    refine Leads.bind (leads_dropStatement (found _ List.mem_cons_self)) ?_
    rintro _ _ w₁ ⟨hhost, rfl⟩
    have found' : ∀ entry ∈ rest, w₁.host.statements.get? entry.1 = some entry.2 := by
      intro entry he
      rw [hhost, Slots.get?_erase_of_ne _ (hne entry he).symm]
      exact found entry (List.mem_cons_of_mem _ he)
    refine (ih hrest found').mono ?_
    rintro _ _ w₂ ⟨rfl, statements, hhost₂, hget⟩
    refine ⟨rfl, statements, by rw [hhost₂, hhost], fun name => ?_⟩
    rw [hget, hhost]
    by_cases hname : name = slot
    · subst hname
      simp [Slots.get?_erase_self]
    · simp only [List.map_cons, List.mem_cons, hname, false_or, Slots.get?_erase_of_ne _ hname]

/-- The statements of a connection go out of use, and no others. -/
theorem leads_dropStatementsOf (id : ConnectionId) :
    Leads Turn (dropStatementsOf id) (w.host.custody x) w fun _ κ' w' =>
      κ' = w'.host.custody x ∧ ∃ statements, w'.host = { w.host with statements } ∧
        ∀ name t, statements.get? name = some t ↔
          w.host.statements.get? name = some t ∧ t.connection ≠ id := by
  refine Leads.get_bind ?_
  have ordered := w.host.statements.ordered.filter (·.2.connection = id)
  refine (leads_dropStatements _ (ordered.imp String.ne_of_lt) ?_).mono ?_
  · intro entry he
    exact Slots.mem_entries_iff.mp (List.mem_filter.mp he).1
  · rintro _ _ w₁ ⟨rfl, statements, hhost, hget⟩
    refine ⟨rfl, statements, hhost, fun name t => ?_⟩
    have hmem : name ∈ (w.host.statements.entries.filter (·.2.connection = id)).map (·.1) ↔
        ∃ t, w.host.statements.get? name = some t ∧ t.connection = id := by
      simp [← Slots.mem_entries_iff]
    rw [hget]
    split
    · next hdropped =>
      obtain ⟨t', found, hid⟩ := hmem.mp hdropped
      rw [found]
      constructor
      · nofun
      · rintro ⟨⟨⟩, hne⟩
        exact absurd hid hne
    · next hkept =>
      constructor
      · exact fun found => ⟨found, fun hid => hkept (hmem.mpr ⟨t, found, hid⟩)⟩
      · exact fun h => h.1

/-- The connection in a slot is in nobody else's hands: nothing is in progress on it, and
no statement depends on it. -/
structure Alone (s : State E.Response) (slot : String) (conn : Connection) : Prop where
  found : s.connections.get? slot = some conn
  idle : conn.id ∉ s.engaged
  free : ∀ t ∈ s.statements.values, t.connection ≠ conn.id

/-- A connection that is alone is not in use. -/
theorem Alone.unused {s : State E.Response} {conn : Connection} (h : Alone s slot conn) :
    s.Unused slot := by
  intro other found
  rw [h.found] at found
  exact Option.some.inj found ▸ h.idle

/-- A connection that is in nobody else's hands may be taken for oneself. -/
theorem Alone.reserve {conn : Connection} (h : Alone w.host slot conn) :
    Turn ⟨w.host.custody x, w⟩ ⟨(w.host.without slot).custody (conn ::ₘ x), w⟩ :=
  .move (.reserve (Slots.values_of_get? h.found) h.free)

/-- A connection goes back to a slot, from which it was taken or which was empty. -/
theorem leads_putConnection (conn : Connection) :
    Leads Turn (putConnection slot conn) ((w.host.without slot).custody (conn ::ₘ x)) w
      fun _ κ' w' => κ' = w'.host.custody x ∧
        w'.host = { w.host with connections := w.host.connections.put slot conn } := by
  refine Leads.before (.move (.share rfl)) (Leads.update ⟨?_, rfl⟩)
  simp only [State.custody, State.without, Slots.values_put]

/-- A connection in nobody else's hands goes out of use and leaves its slot empty. -/
theorem leads_dropConnection {conn : Connection} (alone : Alone w.host slot conn) :
    Leads Turn (dropConnection slot conn) (w.host.custody 0) w fun _ κ' w' =>
      κ' = w'.host.custody 0 ∧ w'.host = w.host.without slot := by
  refine Leads.before alone.reserve (Leads.update_bind ?_)
  refine (Connection.leads_drop (State.exclusive_custody _ _)).turn.mono ?_
  rintro _ _ w₁ ⟨rfl, hhost⟩
  rw [hhost]
  exact ⟨rfl, rfl⟩

namespace Attempt

variable {R : Stage E (host E) → Stage E (host E) → Prop} {κ : Custody}

/-- The state of the session is looked at. -/
theorem leads_state {f : State E.Response → Attempt E β}
    {post : Except Failure β → Custody → World E (host E) → Prop}
    (h : Leads R (f w.host).run κ w post) : Leads R (lift state >>= f).run κ w post :=
  h

/-- Something is done with the connection in a slot, if there is one. -/
theorem leads_connection {f : Connection → Attempt E β}
    {post : Except Failure β → Custody → World E (host E) → Prop}
    (missing : post (.error .noSlot) κ w)
    (next : ∀ conn, w.host.connections.get? slot = some conn → Leads R (f conn).run κ w post) :
    Leads R (connection slot >>= f).run κ w post := by
  unfold connection
  rw [bind_assoc]
  refine leads_state ?_
  cases found : w.host.connections.get? slot with
  | none => exact Leads.pure missing
  | some conn => exact next conn found

/-- Something is done with the statement in a slot, if there is one and no step of it is
in progress. -/
theorem leads_statement {f : Statement → Attempt E β}
    {post : Except Failure β → Custody → World E (host E) → Prop}
    (missing : ∀ e, post (.error e) κ w)
    (next : ∀ stmt, w.host.statements.get? slot = some stmt → slot ∉ w.host.stepping →
      Leads R (f stmt).run κ w post) :
    Leads R (statement slot >>= f).run κ w post := by
  unfold statement
  rw [bind_assoc]
  refine leads_state ?_
  cases found : w.host.statements.get? slot with
  | none => exact Leads.pure (missing _)
  | some stmt =>
    by_cases used : slot ∈ w.host.stepping
    · simp only [if_pos used]
      exact Leads.pure (missing _)
    · simp only [if_neg used]
      exact next stmt found used

/-- Either the connection in a slot is in nobody else's hands, or it is in use and has been
left alone, or there is none. -/
theorem leads_exclusive (guarded : w.host.Guarded) :
    Leads Turn (exclusive slot).run (w.host.custody 0) w fun r κ' w' =>
      Rests w w' κ' ∧ ∀ conn, r = .ok conn → Alone w'.host slot conn := by
  refine leads_connection ⟨.refl w, nofun⟩ fun conn found => leads_state ?_
  split
  · exact Leads.pure ⟨.refl w, nofun⟩
  · next idle =>
    refine Leads.run_lift_bind (leads_dropStatementsOf conn.id) ?_
    rintro _ _ w₁ ⟨rfl, statements, hhost, hget⟩
    refine Leads.pure ⟨⟨rfl, ?_⟩, ?_⟩
    · rw [hhost]
      refine ⟨rfl, rfl, fun _ _ _ h => h, fun name used => ?_⟩
      -- a step is in progress only on connections that are in use
      refine Option.ext fun t => (hget name t).trans (and_iff_left_of_imp fun ht hid => ?_)
      exact idle (hid ▸ guarded name used t ht)
    · rintro _ ⟨⟩
      refine ⟨by rw [hhost]; exact found, by rw [hhost]; exact idle, fun t ht => ?_⟩
      rw [hhost] at ht
      obtain ⟨name, hname⟩ := Slots.mem_values_iff.mp ht
      exact ((hget name t).mp hname).2

/-- A slot is empty, or the connection in it is in use and has been left alone. -/
theorem leads_vacate (guarded : w.host.Guarded) :
    Leads Turn (vacate slot).run (w.host.custody 0) w fun r κ' w' =>
      Rests w w' κ' ∧ (r = .ok () → w'.host.connections.get? slot = none) := by
  refine leads_state ?_
  cases found : w.host.connections.get? slot with
  | none => exact Leads.pure ⟨.refl w, fun _ => found⟩
  | some _ =>
    refine Leads.run_bind (leads_exclusive guarded) ?_ ?_
    · rintro conn _ w₁ ⟨⟨rfl, spares⟩, alone⟩
      have alone := alone conn rfl
      refine Leads.run_lift ((leads_dropConnection alone).mono ?_)
      rintro _ _ w₂ ⟨rfl, hhost⟩
      refine ⟨⟨rfl, spares.trans ?_⟩, fun _ => ?_⟩
      · rw [hhost]
        exact alone.unused.spares_without
      · rw [hhost]
        exact Slots.get?_erase_self _ _
    · rintro e _ w₁ ⟨rests, -⟩
      exact ⟨rests, nofun⟩

/-- What an attempt has brought into the session's hands besides what is in its slots. -/
def gained (owned : α → Option Connection) : Except Failure α → Multiset Connection
  | .ok a => (owned a).toList
  | .error _ => 0

/-- The connection in a slot is taken out, or it is in use and has been left alone, or
there is none. -/
theorem leads_take (guarded : w.host.Guarded) :
    Leads Turn (take slot).run (w.host.custody 0) w fun r κ' w' =>
      w.host.Spares w'.host ∧ κ' = w'.host.custody (gained some r) := by
  refine Leads.run_bind (leads_exclusive guarded) ?_ ?_
  · rintro conn _ w₁ ⟨⟨rfl, spares⟩, alone⟩
    have alone := alone conn rfl
    refine Leads.before alone.reserve ?_
    have emptied : Leads Turn (update fun s => s.without slot)
        ((w₁.host.without slot).custody (conn ::ₘ 0)) w₁ fun _ κ₂ w₂ =>
          w₂.host = w₁.host.without slot ∧ κ₂ = w₂.host.custody (conn ::ₘ 0) :=
      Leads.update ⟨rfl, rfl⟩
    refine Leads.run_lift_bind emptied ?_
    rintro _ _ w₂ ⟨hhost, rfl⟩
    refine Leads.pure ⟨spares.trans ?_, rfl⟩
    rw [hhost]
    exact alone.unused.spares_without
  · rintro e _ w₁ ⟨⟨rfl, spares⟩, -⟩
    exact ⟨spares, rfl⟩

end Attempt

end Session

end EngineBridge
