import EngineBridge.Proofs.Custody.Holding
import EngineBridge.Proofs.Session.Acting

/-!
# Sessions are tame

Steps are tame however deep callbacks nest, and so a session goes through moves from its
beginning to its end, where nothing is in hand any more.
-/

set_option autoImplicit false

namespace EngineBridge.Session

open Native Relation

variable {E : Engine}

/-- Steps that a callback runs are tame if each of them is. -/
theorem tame_runSteps {perform : Step E.Stimulus → SessionM E (Report E.Response)}
    (tame : ∀ step, Tame (perform step)) (steps : List (Step E.Stimulus)) :
    Tame (runSteps perform steps) := by
  have kept (report : Report E.Response) :
      Tame (update fun s => { s with nested := report :: s.nested } : SessionM E Unit) :=
    fun w _ => Leads.update ⟨rfl, rfl, rfl, fun _ _ _ h => h, fun _ _ => rfl⟩
  unfold runSteps
  induction steps with
  | nil => exact Tame.pure _
  | cons step rest ih =>
    rw [List.forM_eq_forM, List.forM_cons]
    exact Tame.bind (Tame.bind (tame step) kept) fun _ => ih

/-- A function asks the connection that it owns for its changes. -/
theorem leads_changesOfOwned {f : Closure (FunctionBody E.Stimulus)} {w : World E (host E)}
    (registered : ∃ key, w.registry.find? key = some (.function f)) :
    Leads Turn (match f.owned with
      | none => pure (.returned (.ok .null))
      | some conn => do
        match ← conn.changes.run with
        | .ok n => pure (.returned (.ok (.ofInt32 n)))
        | .error e => pure (.returned (.error ⟨e.message⟩)) :
          SessionM E (Outcome (Except CallbackError Value))) (w.host.custody 0) w
      fun _ κ' w' => Rests w w' κ' := by
  obtain ⟨key, found⟩ := registered
  cases owned : f.owned with
  | none => exact Leads.pure (.refl w)
  | some conn =>
    have captured : conn ∈ w.registry.captured :=
      Registry.mem_captured_iff.mpr ⟨key, _, found, owned⟩
    have reach (d : Database) (hd : conn.handle = some d) :
        Stage.Reaches ⟨w.host.custody 0, w⟩ (.database d) :=
      .inl ⟨conn, Multiset.mem_add.mpr (.inr captured), hd⟩
    refine Leads.bind (Connection.asks_changes.leads_within reach (by simp)).turn ?_
    rintro (e | n) _ w₁ ⟨⟨rfl, -⟩, hhost⟩
    · exact Leads.pure (.of_eq rfl hhost)
    · exact Leads.pure (.of_eq rfl hhost)

/-- The callbacks of a session are tame if the steps are that they run. -/
theorem tame_callbacks {perform : Step E.Stimulus → SessionM E (Report E.Response)}
    (tame : ∀ step, Tame (perform step)) : TameCallbacks (callbacks perform) where
  handle handler attempts := by
    simp only [callbacks]
    split
    · exact Tame.pure _
    · exact Tame.pure _
    · exact Tame.bind (tame_runSteps tame _) fun _ => Tame.pure _
    · exact Tame.pure _
    · exact Tame.pure _
  invoke f values w guarded registered := by
    simp only [callbacks]
    split
    · exact Leads.pure (.refl w)
    · split <;> exact Leads.pure (.refl w)
    · exact Leads.pure (.refl w)
    · exact Leads.pure (.refl w)
    · exact Leads.pure (.refl w)
    · split <;> exact Leads.pure (.refl w)
    · exact Leads.pure (.refl w)
    · exact Leads.pure (.refl w)
    · exact Leads.pure (.refl w)
    · exact Leads.get_bind (Leads.pure (.refl w))
    · exact Tame.bind (tame_runSteps tame _) (fun _ => Tame.pure _) w guarded
    · exact leads_changesOfOwned registered
    · exact leads_changesOfOwned registered

/-- How a connection stands is seen without changing anything. -/
theorem tame_connectionStatus (t : Target) : Tame (connectionStatus t : SessionM E _) := by
  unfold connectionStatus
  split
  · refine fun w _ => Leads.get_bind ?_
    split
    · exact Leads.pure (.refl w)
    · exact Leads.get_bind (Leads.pure (.refl w))
  · exact Tame.pure _

/-- How a statement stands is seen without changing anything. -/
theorem tame_statementStatus (t : Target) : Tame (statementStatus t : SessionM E _) := by
  unfold statementStatus
  split
  · exact Tame.pure _
  · refine fun w _ => Leads.get_bind ?_
    split <;> exact Leads.pure (.refl w)

/-- A report changes nothing. -/
theorem tame_conclude (t : Target) (result : Except Failure (Payload E.Response)) :
    Tame (conclude t result) :=
  Tame.bind (tame_connectionStatus t) fun _ => Tame.bind (tame_statementStatus t) fun _ =>
    Tame.pure _

/-- A step is tame, however deep callbacks nest. -/
theorem tame_perform (depth : Nat) (step : Step E.Stimulus) : Tame (perform depth step) := by
  induction depth generalizing step with
  | zero => exact tame_conclude _ _
  | succ depth ih =>
    exact Tame.bind (tame_act _ (tame_callbacks ih) _) fun _ => tame_conclude _ _

/-- The next step of a session is tame. -/
theorem tame_next (depth : Nat) (step : Step E.Stimulus) : Tame (next depth step) := by
  refine fun w guarded => Leads.get_bind (Leads.update_bind ?_)
  let w₁ : World E (host E) := { w with host := { w.host with nested := [] } }
  have cleared : Rests w w₁ (w.host.custody 0) :=
    ⟨rfl, rfl, rfl, fun _ _ _ h => h, fun _ _ => rfl⟩
  refine Leads.bind (tame_perform depth step w₁ (cleared.2.guarded guarded)) ?_
  exact fun _ _ _ rests => Leads.get_bind (Leads.pure (cleared.trans rests))

/-- All steps of a session together are tame. -/
theorem tame_steps (depth : Nat) (steps : List (Step E.Stimulus)) :
    Tame (steps.mapM (next depth)) := by
  induction steps with
  | nil => exact Tame.pure _
  | cons step rest ih =>
    rw [List.mapM_cons]
    exact Tame.bind (tame_next depth step) fun _ => Tame.bind ih fun _ => Tame.pure _

variable {w : World E (host E)}

/-- Connections in different slots go out of use once there are no statements any more. -/
theorem leads_dropConnections (conns : List (String × Connection))
    (distinct : conns.Pairwise (·.1 ≠ ·.1))
    (found : ∀ entry ∈ conns, w.host.connections.get? entry.1 = some entry.2)
    (idle : w.host.engaged = []) (free : w.host.statements.values = 0) :
    Leads Turn (conns.forM fun (slot, conn) => dropConnection slot conn) (w.host.custody 0) w
      fun _ κ' w' => κ' = w'.host.custody 0 ∧ w'.host.engaged = [] ∧
        w'.host.statements.values = 0 ∧ ∀ name, w'.host.connections.get? name =
          if name ∈ conns.map (·.1) then none else w.host.connections.get? name := by
  induction conns generalizing w with
  | nil => exact Leads.pure ⟨rfl, idle, free, by simp⟩
  | cons entry rest ih =>
    obtain ⟨slot, conn⟩ := entry
    obtain ⟨hne, hrest⟩ := List.pairwise_cons.mp distinct
    have alone : Alone w.host slot conn :=
      ⟨found _ List.mem_cons_self, by simp [idle], by simp [free]⟩
    rw [List.forM_eq_forM, List.forM_cons]
    refine Leads.bind (leads_dropConnection alone) ?_
    rintro _ _ w₁ ⟨rfl, hhost⟩
    have found' : ∀ entry ∈ rest, w₁.host.connections.get? entry.1 = some entry.2 := by
      intro entry he
      rw [hhost, State.without, Slots.get?_erase_of_ne _ (hne entry he).symm]
      exact found entry (List.mem_cons_of_mem _ he)
    refine (ih hrest found' (hhost ▸ idle) (hhost ▸ free)).mono ?_
    rintro _ _ w₂ ⟨rfl, idle₂, free₂, hget⟩
    refine ⟨rfl, idle₂, free₂, fun name => ?_⟩
    rw [hget, hhost, State.without]
    by_cases hname : name = slot
    · subst hname
      simp [Slots.get?_erase_self]
    · simp only [List.map_cons, List.mem_cons, hname, false_or, Slots.get?_erase_of_ne _ hname]

/-- Slots that are all empty hold nothing. -/
theorem Slots.values_eq_zero {α : Type} {slots : Slots α} (h : ∀ name, slots.get? name = none) :
    slots.values = 0 := by
  refine Multiset.eq_zero_of_forall_notMem fun value hvalue => ?_
  obtain ⟨name, found⟩ := Slots.mem_values_iff.mp hvalue
  cases (h name).symm.trans found

/-- When all that was in the slots has gone, the slots are empty. -/
theorem Slots.get?_of_emptied {α : Type} {slots slots' : Slots α}
    (h : ∀ name, slots'.get? name =
      if name ∈ slots.entries.map (·.1) then none else slots.get? name) (name : String) :
    slots'.get? name = none := by
  rw [h]
  split
  · rfl
  · next hname =>
    refine Option.eq_none_iff_forall_ne_some.mpr fun value found => hname ?_
    exact List.mem_map.mpr ⟨(name, value), Slots.mem_entries_iff.mpr found, rfl⟩

/-- At the end of a session nothing is in hand any more. -/
theorem leads_finish (idle : w.host.engaged = []) :
    Leads Turn (finish : SessionM E Unit) (w.host.custody 0) w fun _ κ' _ => κ' = {} := by
  refine Leads.get_bind ?_
  have dropped := leads_dropStatements (w := w) (x := 0) w.host.statements.entries
    (w.host.statements.ordered.imp String.ne_of_lt) fun _ he => Slots.mem_entries_iff.mp he
  refine Leads.bind dropped ?_
  rintro _ _ w₁ ⟨rfl, statements, hhost, hget⟩
  have free : w₁.host.statements.values = 0 := by
    rw [hhost]
    exact Slots.values_eq_zero (Slots.get?_of_emptied hget)
  have found : ∀ entry ∈ w.host.connections.entries,
      w₁.host.connections.get? entry.1 = some entry.2 := by
    intro entry he
    rw [hhost]
    exact Slots.mem_entries_iff.mp he
  refine (leads_dropConnections _ (w.host.connections.ordered.imp String.ne_of_lt) found
    (by rw [hhost]; exact idle) free).mono ?_
  rintro _ _ w₂ ⟨rfl, -, free₂, hget₂⟩
  rw [hhost] at hget₂
  simp only [State.custody, free₂, Slots.values_eq_zero (Slots.get?_of_emptied hget₂)]

/-- A session goes through moves and changes of its own state, from having nothing in hand
to having nothing in hand. -/
theorem session_turns (depth : Nat) (engine : E.State) (steps : List (Step E.Stimulus)) :
    ReflTransGen Turn ⟨{}, begin E engine⟩
      ⟨{}, ((session depth steps).run (begin E engine)).2⟩ := by
  have guarded : (begin E engine).host.Guarded := nofun
  have led : Leads Turn (session depth steps) {} (begin E engine) fun _ κ' _ => κ' = {} := by
    refine Leads.bind (tame_steps depth steps _ guarded) ?_
    rintro records _ w₁ ⟨rfl, spares⟩
    refine Leads.get_bind (Leads.bind (leads_finish spares.engaged) ?_)
    rintro _ _ w₂ rfl
    exact Leads.get_bind (Leads.pure rfl)
  obtain ⟨_, turns, rfl⟩ := led
  exact turns

end EngineBridge.Session
