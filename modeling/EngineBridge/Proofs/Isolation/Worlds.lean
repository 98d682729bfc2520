import EngineBridge.Proofs.Custody.Basic
import EngineBridge.Proofs.Isolation.Entries
import EngineBridge.Proofs.Isolation.Oblivious
import EngineBridge.Proofs.Isolation.Parties

/-!
# Two worlds seen by one party

A party takes the same step in two worlds.  What the party has in them is tied, whatever else
there is; and what the party does not have stays as it was at the beginning of the step.
-/

set_option autoImplicit false

namespace EngineBridge

open Native

/-- The entry is a run of the user function with this number. -/
def Entry.Runs (token : Nat) : Entry → Bool
  | .invoked t _ => t == token
  | _ => false

/-- How often a user function has run. -/
def World.runs {E : Engine} {H : Host} (w : World E H) (token : Nat) : Nat :=
  w.transcript.countP (Entry.Runs token)

/-- One more pair keeps a pairing one to one if both sides are new. -/
theorem OneToOne.cons {α β : Type} {pairs : List (α × β)} {a : α} {b : β} (h : OneToOne pairs)
    (left : ∀ p ∈ pairs, p.1 ≠ a) (right : ∀ p ∈ pairs, p.2 ≠ b) :
    OneToOne ((a, b) :: pairs) := by
  intro p hp q hq
  rcases List.mem_cons.mp hp with rfl | hp <;> rcases List.mem_cons.mp hq with rfl | hq
  · exact iff_of_true rfl rfl
  · exact iff_of_false (left q hq).symm (right q hq).symm
  · exact iff_of_false (left p hp) (right p hp)
  · exact h p hp q hq

namespace Ties

variable {θ : Ties} {id id' : ConnectionId} {token token' : Nat}

/-- One more connection in each run. -/
def addId (θ : Ties) (id id' : ConnectionId) : Ties := { θ with ids := (id, id') :: θ.ids }

/-- One more closure in each run. -/
def addToken (θ : Ties) (token token' : Nat) : Ties :=
  { θ with tokens := (token, token') :: θ.tokens }

/-- Connections are only ever added to ties. -/
theorem le_addId (θ : Ties) (id id' : ConnectionId) : θ ≤ θ.addId id id' :=
  ⟨List.subset_cons_self _ _, List.Subset.refl _⟩

/-- Closures are only ever added to ties. -/
theorem le_addToken (θ : Ties) (token token' : Nat) : θ ≤ θ.addToken token token' :=
  ⟨List.Subset.refl _, List.subset_cons_self _ _⟩

/-- What is tied on the left is known there. -/
theorem mem_left_ids (h : (id, id') ∈ θ.ids) : id ∈ θ.left.ids := List.mem_map_of_mem h

/-- What is tied on the right is known there. -/
theorem mem_right_ids (h : (id, id') ∈ θ.ids) : id' ∈ θ.right.ids := List.mem_map_of_mem h

/-- A closure that is tied on the left is known there. -/
theorem mem_left_tokens (h : (token, token') ∈ θ.tokens) : token ∈ θ.left.tokens :=
  List.mem_map_of_mem h

/-- A closure that is tied on the right is known there. -/
theorem mem_right_tokens (h : (token, token') ∈ θ.tokens) : token' ∈ θ.right.tokens :=
  List.mem_map_of_mem h

/-- What is not known on the left is not what is tied there. -/
theorem ne_of_not_mem_left {other : ConnectionId} (h : (id, id') ∈ θ.ids)
    (unknown : other ∉ θ.left.ids) : other ≠ id :=
  fun heq => unknown (heq ▸ mem_left_ids h)

/-- What is not known on the right is not what is tied there. -/
theorem ne_of_not_mem_right {other : ConnectionId} (h : (id, id') ∈ θ.ids)
    (unknown : other ∉ θ.right.ids) : other ≠ id' :=
  fun heq => unknown (heq ▸ mem_right_ids h)

/-- A closure that is known on the left is tied to one on the right. -/
theorem exists_of_mem_left_tokens (h : token ∈ θ.left.tokens) :
    ∃ token', (token, token') ∈ θ.tokens := by
  obtain ⟨⟨_, token'⟩, hmem, rfl⟩ := List.mem_map.mp h
  exact ⟨token', hmem⟩

/-- A closure that is known on the right is tied to one on the left. -/
theorem exists_of_mem_right_tokens (h : token' ∈ θ.right.tokens) :
    ∃ token, (token, token') ∈ θ.tokens := by
  obtain ⟨⟨token, _⟩, hmem, rfl⟩ := List.mem_map.mp h
  exact ⟨token, hmem⟩

end Ties

namespace Session

variable {E : Engine} {P : Party} {k k₀ : Known} {w w₀ w' : World E (host E)}

/-- What a party has in two worlds is tied. -/
structure Corresponds (O : Oblivious E) (P : Party) (θ : Ties) (w w' : World E (host E)) :
    Prop where
  engine : O.Same θ.ids w.engine w'.engine
  ids : OneToOne θ.ids
  tokens : OneToOne θ.tokens
  entries : ∀ pair ∈ θ.ids, List.Forall₂ (SlotTied P θ)
    (w.registry.entriesOf pair.1) (w'.registry.entriesOf pair.2)
  target : ∀ pair ∈ θ.ids, w.target pair.1 = w'.target pair.2
  engaged : ∀ pair ∈ θ.ids, w.host.engaged.count pair.1 = w'.host.engaged.count pair.2
  connection : ∀ slot, P.connections slot → Option.Rel (Connection.Tied θ)
    (w.host.connections.get? slot) (w'.host.connections.get? slot)
  statement : ∀ slot, P.statements slot → Option.Rel (Statement.Tied θ)
    (w.host.statements.get? slot) (w'.host.statements.get? slot)
  interrupt : ∀ slot, P.interrupts slot → Option.Rel (fun id id' => (id, id') ∈ θ.ids)
    (w.host.interrupts.get? slot) (w'.host.interrupts.get? slot)
  stepping : ∀ slot, P.statements slot →
    w.host.stepping.count slot = w'.host.stepping.count slot

/-- A world in which nothing has been said yet of connections and closures to come, and in
which the statements of others are not of the connections that a party knows. -/
structure Settled (P : Party) (k : Known) (w : World E (host E)) : Prop where
  ids : ∀ id ∈ k.ids, id.number ≤ w.connections
  tokens : ∀ token ∈ k.tokens, token ≤ w.closures
  entries : ∀ id : ConnectionId, w.connections < id.number → w.registry.entriesOf id = []
  target : ∀ id : ConnectionId, w.connections < id.number → w.target id = none
  engaged : ∀ id : ConnectionId, w.connections < id.number → w.host.engaged.count id = 0
  runs : ∀ token, w.closures < token → w.runs token = 0
  others : ∀ slot stmt, ¬ P.statements slot → w.host.statements.get? slot = some stmt →
    stmt.connection ∉ k.ids ∧ stmt.connection.number ≤ w.connections

/-- A party leaves alone what it does not have.  From `w₀`, where it knew `k₀`, it has come to
`w`, where it knows `k`, and all that is new it has made. -/
structure Stays (P : Party) (k₀ : Known) (w₀ : World E (host E)) (k : Known)
    (w : World E (host E)) : Prop where
  connections : w₀.connections ≤ w.connections
  closures : w₀.closures ≤ w.closures
  ids : ∀ id ∈ k.ids, id.number ≤ w.connections ∧ (id ∈ k₀.ids ∨ w₀.connections < id.number)
  tokens : ∀ token ∈ k.tokens,
    token ≤ w.closures ∧ (token ∈ k₀.tokens ∨ w₀.closures < token)
  entries : ∀ id, id ∉ k.ids → w.registry.entriesOf id = w₀.registry.entriesOf id
  target : ∀ id, id ∉ k.ids → w.target id = w₀.target id
  engaged : ∀ id, id ∉ k.ids → w.host.engaged.count id = w₀.host.engaged.count id
  connection : ∀ slot, ¬ P.connections slot →
    w.host.connections.get? slot = w₀.host.connections.get? slot
  statement : ∀ slot, ¬ P.statements slot →
    w.host.statements.get? slot = w₀.host.statements.get? slot
  interrupt : ∀ slot, ¬ P.interrupts slot →
    w.host.interrupts.get? slot = w₀.host.interrupts.get? slot
  stepping : ∀ slot, ¬ P.statements slot →
    w.host.stepping.count slot = w₀.host.stepping.count slot

namespace Stays

variable (h : Stays P k₀ w₀ k w) (settled : Settled P k₀ w₀)

/-- A party that has done nothing yet stays as it was. -/
theorem refl (settled : Settled P k w) : Stays P k w k w where
  connections := Nat.le_refl _
  closures := Nat.le_refl _
  ids id hid := ⟨settled.ids id hid, .inl hid⟩
  tokens token htoken := ⟨settled.tokens token htoken, .inl htoken⟩
  entries _ _ := rfl
  target _ _ := rfl
  engaged _ _ := rfl
  connection _ _ := rfl
  statement _ _ := rfl
  interrupt _ _ := rfl
  stepping _ _ := rfl

include h

/-- An identity to come is not known. -/
theorem not_mem_ids {id : ConnectionId} (new : w.connections < id.number) : id ∉ k.ids := by
  intro hid
  have bound := (h.ids id hid).1
  omega

/-- A closure that is yet to be made is not known. -/
theorem not_mem_tokens {token : Nat} (new : w.closures < token) : token ∉ k.tokens := by
  intro htoken
  have bound := (h.tokens token htoken).1
  omega

/-- An identity is given to a new connection. -/
theorem newConnection : Stays P k₀ w₀ ⟨⟨w.connections + 1⟩ :: k.ids, k.tokens⟩
    { w with connections := w.connections + 1 } := by
  have counted : w₀.connections ≤ w.connections := h.connections
  refine { h with connections := ?_, ids := ?_, entries := ?_, target := ?_, engaged := ?_ }
  · show w₀.connections ≤ w.connections + 1
    omega
  · intro id hid
    rcases List.mem_cons.mp hid with rfl | hid
    · exact ⟨Nat.le_refl _, .inr (Nat.lt_succ_of_le counted)⟩
    · exact ⟨Nat.le_succ_of_le (h.ids id hid).1, (h.ids id hid).2⟩
  · exact fun id hid => h.entries id (List.not_mem_of_not_mem_cons hid)
  · exact fun id hid => h.target id (List.not_mem_of_not_mem_cons hid)
  · exact fun id hid => h.engaged id (List.not_mem_of_not_mem_cons hid)

/-- A party that makes a closure knows one more. -/
theorem newClosure : Stays P k₀ w₀ ⟨k.ids, (w.closures + 1) :: k.tokens⟩
    { w with closures := w.closures + 1 } := by
  have counted : w₀.closures ≤ w.closures := h.closures
  refine { h with closures := ?_, tokens := ?_ }
  · show w₀.closures ≤ w.closures + 1
    omega
  · intro token htoken
    rcases List.mem_cons.mp htoken with rfl | htoken
    · exact ⟨Nat.le_refl _, .inr (Nat.lt_succ_of_le counted)⟩
    · exact ⟨Nat.le_succ_of_le (h.tokens token htoken).1, (h.tokens token htoken).2⟩

/-- A change of the registry concerns what the party knows. -/
theorem withRegistry {r : Registry (host E)}
    (same : ∀ id, id ∉ k.ids → r.entriesOf id = w.registry.entriesOf id) :
    Stays P k₀ w₀ k (w.withRegistry r) :=
  { h with entries := fun id hid => (same id hid).trans (h.entries id hid) }

include settled

/-- Nothing is said of connections to come. -/
theorem entries_new {id : ConnectionId} (new : w.connections < id.number) :
    w.registry.entriesOf id = [] := by
  rw [h.entries id (h.not_mem_ids new)]
  exact settled.entries id (Nat.lt_of_le_of_lt h.connections new)

/-- Interrupts for a connection that is yet to come go nowhere. -/
theorem target_new {id : ConnectionId} (new : w.connections < id.number) : w.target id = none := by
  rw [h.target id (h.not_mem_ids new)]
  exact settled.target id (Nat.lt_of_le_of_lt h.connections new)

/-- A connection that is yet to come is not in use. -/
theorem engaged_new {id : ConnectionId} (new : w.connections < id.number) :
    w.host.engaged.count id = 0 := by
  rw [h.engaged id (h.not_mem_ids new)]
  exact settled.engaged id (Nat.lt_of_le_of_lt h.connections new)

/-- The statements of others are not of connections that the party knows. -/
theorem others {slot : String} {stmt : Statement} (other : ¬ P.statements slot)
    (found : w.host.statements.get? slot = some stmt) :
    stmt.connection ∉ k.ids ∧ stmt.connection.number ≤ w.connections := by
  rw [h.statement slot other] at found
  obtain ⟨unknown, bound⟩ := settled.others slot stmt other found
  refine ⟨fun known => ?_, Nat.le_trans bound h.connections⟩
  rcases (h.ids _ known).2 with old | new
  · exact unknown old
  · omega

end Stays

/-- Two worlds in which a party is about to take a step. -/
structure Setting (E : Engine) where
  oblivious : Oblivious E
  party : Party
  ties : Ties
  left : World E (host E)
  right : World E (host E)
  leftSettled : Settled party ties.left left
  rightSettled : Settled party ties.right right
  runs : ∀ pair ∈ ties.tokens, left.runs pair.1 = right.runs pair.2

variable {S : Setting E} {θ : Ties}

/-- Two worlds that a party has come to by the same part of a step. -/
structure Alike (S : Setting E) (θ : Ties) (w w' : World E (host E)) : Prop
    extends Corresponds S.oblivious S.party θ w w' where
  le : S.ties ≤ θ
  left : Stays S.party S.ties.left S.left θ.left w
  right : Stays S.party S.ties.right S.right θ.right w'
  nested : List.Forall₂ (ReportTied θ) w.host.nested w'.host.nested
  past : ∃ past past', w.transcript = past ++ S.left.transcript ∧
    w'.transcript = past' ++ S.right.transcript ∧ List.Forall₂ (Entry.Tied θ) past past'

namespace Alike

variable {pair : ConnectionId × ConnectionId}

/-- Noting entries that are tied leaves worlds alike. -/
theorem record (h : Alike S θ w w') {entry entry' : Entry} (tied : entry.Tied θ entry') :
    Alike S θ (w.record entry) (w'.record entry') := by
  obtain ⟨past, past', hw, hw', both⟩ := h.past
  have after : (w.record entry).transcript = entry :: past ++ S.left.transcript :=
    congrArg (entry :: ·) hw
  have after' : (w'.record entry').transcript = entry' :: past' ++ S.right.transcript :=
    congrArg (entry' :: ·) hw'
  exact { h with
    left := { h.left with }
    right := { h.right with }
    past := ⟨entry :: past, entry' :: past', after, after', both.cons tied⟩ }

/-- An engine that goes on alike leaves worlds alike. -/
theorem withEngine (h : Alike S θ w w') {s s' : E.State} (same : S.oblivious.Same θ.ids s s') :
    Alike S θ { w with engine := s } { w' with engine := s' } :=
  { h with engine := same, left := { h.left with }, right := { h.right with } }

/-- Calls that are tied are answered alike and leave worlds alike. -/
theorem asked (h : Alike S θ w w') {c c' : Call} (tied : c.Tied θ.ids c') :
    Answered θ.ids c (w.answer c) c' (w'.answer c') ∧ Alike S θ (w.asked c) (w'.asked c') := by
  obtain ⟨answered, same⟩ := S.oblivious.answer h.engine tied
  exact ⟨answered, (h.withEngine same).record (.called answered)⟩

/-- Interrupts may be sent elsewhere alike, if those of others stay as they are. -/
theorem withArmed (h : Alike S θ w w') {armed armed' : List (ConnectionId × Database)}
    (ties : ∀ pair ∈ θ.ids, armed.lookup pair.1 = armed'.lookup pair.2)
    (left : ∀ id, id ∉ θ.left.ids → armed.lookup id = w.armed.lookup id)
    (right : ∀ id, id ∉ θ.right.ids → armed'.lookup id = w'.armed.lookup id) :
    Alike S θ { w with armed } { w' with armed := armed' } :=
  { h with
    target := ties
    left := { h.left with target := fun id hid => (left id hid).trans (h.left.target id hid) }
    right := { h.right with target := fun id hid => (right id hid).trans (h.right.target id hid) } }

/-- The registry changes for the connections that the party knows. -/
theorem withRegistry (h : Alike S θ w w') {r r' : Registry (host E)}
    (ties : ∀ pair ∈ θ.ids,
      List.Forall₂ (SlotTied S.party θ) (r.entriesOf pair.1) (r'.entriesOf pair.2))
    (left : ∀ id, id ∉ θ.left.ids → r.entriesOf id = w.registry.entriesOf id)
    (right : ∀ id, id ∉ θ.right.ids → r'.entriesOf id = w'.registry.entriesOf id) :
    Alike S θ (w.withRegistry r) (w'.withRegistry r') :=
  { h with
    entries := ties
    left := h.left.withRegistry left
    right := h.right.withRegistry right }

end Alike

end Session

end EngineBridge
