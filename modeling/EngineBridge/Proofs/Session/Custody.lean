import EngineBridge.Proofs.Custody.Statements
import EngineBridge.Proofs.Session.Slots
import EngineBridge.Session.Run

/-!
# The custody of a session

Between operations a session has in hand what is in its slots, and nobody has anything
else.  A computation of a session is tame if it goes through moves and changes of the
session's own state from one such situation to another, and leaves alone what is in use:
statements with a step in progress and connections with an execution in progress.
-/

set_option autoImplicit false

namespace EngineBridge

open Native Relation

variable {E : Engine} {H : Host} {α β : Type}

/-- A move, or a change of the program's own state. -/
inductive Turn : Stage E H → Stage E H → Prop
  | move {s s' : Stage E H} (h : Move s s') : Turn s s'
  | host {κ : Custody} {w : World E H} (state : H.State) :
    Turn ⟨κ, w⟩ ⟨κ, { w with host := state }⟩

namespace Leads

variable {R : Stage E H → Stage E H → Prop} {κ : Custody} {w : World E H}

/-- A computation that goes through moves leaves the program's own state alone. -/
theorem turn {m : Bridge E H α} {post : α → Custody → World E H → Prop}
    (h : Leads Move m κ w post) :
    Leads Turn m κ w fun a κ' w' => post a κ' w' ∧ w'.host = w.host := by
  obtain ⟨κ', moves, hpost⟩ := h
  exact ⟨κ', ReflTransGen.mono (fun _ _ => .move) _ _ moves, hpost, Moves.host_eq moves⟩

/-- What holds of a computation anyway holds of where it leads. -/
theorem also {m : Bridge E H α} {post : α → Custody → World E H → Prop}
    (h : Leads R m κ w post) (fact : α → World E H → Prop) (hfact : fact (m w).1 (m w).2) :
    Leads R m κ w fun a κ' w' => post a κ' w' ∧ fact a w' := by
  obtain ⟨κ', moves, hpost⟩ := h
  exact ⟨κ', moves, hpost, hfact⟩

end Leads

namespace Session

/-- What a session has in hand besides some connections that are not in its slots. -/
def State.custody {ρ : Type} (s : State ρ) (exclusive : Multiset Connection) : Custody where
  shared := s.connections.values
  exclusive := exclusive
  statements := s.statements.values

/-- The connections outside of all slots are those that are said to be. -/
theorem State.exclusive_custody {ρ : Type} (s : State ρ) (exclusive : Multiset Connection) :
    (s.custody exclusive).exclusive = exclusive := rfl

/-- Whenever a step of a statement is in progress, its connection is in use. -/
def State.Guarded {ρ : Type} (s : State ρ) : Prop :=
  ∀ slot ∈ s.stepping, ∀ t, s.statements.get? slot = some t → t.connection ∈ s.engaged

/-- What is in use is the same and has been left alone. -/
structure State.Spares {ρ : Type} (s s' : State ρ) : Prop where
  engaged : s'.engaged = s.engaged
  stepping : s'.stepping = s.stepping
  connections : ∀ slot conn, conn.id ∈ s.engaged → s.connections.get? slot = some conn →
    s'.connections.get? slot = some conn
  statements : ∀ slot ∈ s.stepping, s'.statements.get? slot = s.statements.get? slot

namespace State

variable {ρ : Type} {s s₁ s₂ : State ρ}

/-- A state spares what it has in use. -/
theorem Spares.refl (s : State ρ) : s.Spares s :=
  ⟨rfl, rfl, fun _ _ _ h => h, fun _ _ => rfl⟩

/-- What is spared twice is spared. -/
theorem Spares.trans (h : s.Spares s₁) (h' : s₁.Spares s₂) : s.Spares s₂ where
  engaged := h'.engaged.trans h.engaged
  stepping := h'.stepping.trans h.stepping
  connections slot conn used found :=
    h'.connections slot conn (h.engaged ▸ used) (h.connections slot conn used found)
  statements slot used :=
    (h'.statements slot (h.stepping ▸ used)).trans (h.statements slot used)

/-- A slot can be filled with a statement if no step of its statement is in progress. -/
theorem spares_putStatement {slot : String} (t : Statement) (unused : slot ∉ s.stepping) :
    s.Spares { s with statements := s.statements.put slot t } where
  engaged := rfl
  stepping := rfl
  connections _ _ _ h := h
  statements other used :=
    s.statements.get?_put_of_ne (fun heq : other = slot => unused (heq ▸ used)) t

/-- A statement slot can be emptied if no step of its statement is in progress. -/
theorem spares_eraseStatement {slot : String} (unused : slot ∉ s.stepping) :
    s.Spares { s with statements := s.statements.erase slot } where
  engaged := rfl
  stepping := rfl
  connections _ _ _ h := h
  statements other used :=
    s.statements.get?_erase_of_ne fun heq : other = slot => unused (heq ▸ used)

/-- The connection in a slot, if there is one, is not in use. -/
def Unused (s : State ρ) (slot : String) : Prop :=
  ∀ conn, s.connections.get? slot = some conn → conn.id ∉ s.engaged

/-- A slot can be filled with a connection if the connection in it is not in use. -/
theorem Unused.spares_put {slot : String} (unused : s.Unused slot) (conn : Connection) :
    s.Spares { s with connections := s.connections.put slot conn } where
  engaged := rfl
  stepping := rfl
  connections other used hused found := by
    have hne : other ≠ slot := fun heq => unused used (heq ▸ found) hused
    rw [s.connections.get?_put_of_ne hne]
    exact found
  statements _ _ := rfl

/-- The session with the slot of a connection emptied. -/
def without (s : State ρ) (slot : String) : State ρ :=
  { s with connections := s.connections.erase slot }

/-- A connection slot can be emptied if the connection in it is not in use. -/
theorem Unused.spares_without {slot : String} (unused : s.Unused slot) :
    s.Spares (s.without slot) where
  engaged := rfl
  stepping := rfl
  connections other used hused found := by
    have hne : other ≠ slot := fun heq => unused used (heq ▸ found) hused
    rw [without, s.connections.get?_erase_of_ne hne]
    exact found
  statements _ _ := rfl

/-- What is left alone while more is in use is left alone. -/
theorem Spares.disengage {id : ConnectionId}
    (h : ({ s with engaged := id :: s.engaged } : State ρ).Spares s₁) :
    s.Spares { s₁ with engaged := s₁.engaged.erase id } where
  engaged := by rw [h.engaged, List.erase_cons_head]
  stepping := h.stepping
  connections slot conn used found := h.connections slot conn (List.mem_cons_of_mem _ used) found
  statements slot used := h.statements slot used

/-- A statement comes back from a step. -/
theorem Spares.halt {slot : String} (t : Statement) (unused : slot ∉ s.stepping)
    (h : ({ s with stepping := slot :: s.stepping } : State ρ).Spares s₁) :
    s.Spares { s₁ with stepping := s₁.stepping.erase slot,
                       statements := s₁.statements.put slot t } where
  engaged := h.engaged
  stepping := by rw [h.stepping, List.erase_cons_head]
  connections slot conn used found := h.connections slot conn used found
  statements other used := by
    rw [s₁.statements.get?_put_of_ne fun heq : other = slot => unused (heq ▸ used)]
    exact h.statements other (List.mem_cons_of_mem _ used)

/-- What is in use stays guarded if another connection is. -/
theorem Guarded.engage (h : s.Guarded) (id : ConnectionId) :
    ({ s with engaged := id :: s.engaged } : State ρ).Guarded :=
  fun slot used t found => List.mem_cons_of_mem _ (h slot used t found)

/-- A statement may take a step while its connection is in use. -/
theorem Guarded.advance (h : s.Guarded) {slot : String} {stmt : Statement}
    (found : s.statements.get? slot = some stmt) :
    ({ s with stepping := slot :: s.stepping,
              engaged := stmt.connection :: s.engaged } : State ρ).Guarded := by
  intro name used t ht
  rcases List.mem_cons.mp used with rfl | used
  · obtain rfl : stmt = t := Option.some.inj (found.symm.trans ht)
    exact List.mem_cons_self
  · exact List.mem_cons_of_mem _ (h name used t ht)

/-- What is in use stays guarded if it is left alone. -/
theorem Spares.guarded (h : s.Spares s₁) (guarded : s.Guarded) : s₁.Guarded := by
  intro slot used t found
  rw [h.stepping] at used
  rw [h.statements slot used] at found
  rw [h.engaged]
  exact guarded slot used t found

end State

variable {E : Engine} {w : World E (host E)}

/-- A stretch of a session from one situation between operations to another. -/
def Rests (w w' : World E (host E)) (κ' : Custody) : Prop :=
  κ' = w'.host.custody 0 ∧ w.host.Spares w'.host

/-- A computation leads from a situation between operations to another, and leaves alone
what is in use. -/
def Tame (m : SessionM E α) : Prop :=
  ∀ w, w.host.Guarded → Leads Turn m (w.host.custody 0) w fun _ κ' w' => Rests w w' κ'

/-- A session that does nothing rests. -/
theorem Rests.refl (w : World E (host E)) : Rests w w (w.host.custody 0) :=
  ⟨rfl, .refl _⟩

/-- The custody is what it was, and so is the session's own state. -/
theorem Rests.of_eq {w' : World E (host E)} {κ' : Custody} (hκ : κ' = w.host.custody 0)
    (hhost : w'.host = w.host) : Rests w w' κ' :=
  ⟨by rw [hκ, hhost], hhost ▸ .refl _⟩

/-- A stretch from rest to rest may follow another. -/
theorem Rests.trans {w₁ w₂ : World E (host E)} {κ₁ κ₂ : Custody} (h : Rests w w₁ κ₁)
    (h' : Rests w₁ w₂ κ₂) : Rests w w₂ κ₂ :=
  ⟨h'.1, h.2.trans h'.2⟩

namespace Tame

/-- A value that is just given goes by no turn at all. -/
theorem pure (a : α) : Tame (Pure.pure a : SessionM E α) :=
  fun w _ => Leads.pure (.refl w)

/-- A sequence goes by turns if its parts do. -/
theorem bind {m : SessionM E α} {f : α → SessionM E β} (h : Tame m) (next : ∀ a, Tame (f a)) :
    Tame (m >>= f) := by
  intro w guarded
  refine Leads.bind (h w guarded) ?_
  rintro a _ w₁ ⟨rfl, spares⟩
  exact (next a w₁ (spares.guarded guarded)).mono fun _ _ _ rests => .trans ⟨rfl, spares⟩ rests

/-- A computation that goes through moves and leaves the custody as it is. -/
theorem of_leads {m : SessionM E α}
    (h : ∀ κ w, Leads Move m κ w fun _ κ' _ => κ' = κ) : Tame m :=
  fun w _ => (h _ w).turn.mono fun _ _ _ h => .of_eq h.1 h.2

end Tame

end Session

end EngineBridge
