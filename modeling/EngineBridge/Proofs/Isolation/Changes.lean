import EngineBridge.Proofs.Isolation.Worlds

/-!
# Changes in two worlds

What a party does to its own connections, closures and slots, done in both worlds at once.
Identities and numbers that are new in the two worlds are tied from then on.
-/

set_option autoImplicit false

namespace EngineBridge

open Native

/-- What is found under a key in tables that match is tied. -/
theorem lookup_tied {κ α β : Type} [BEq κ] {R : α → β → Prop} {entries : List (κ × α)}
    {entries' : List (κ × β)}
    (h : List.Forall₂ (fun e e' => e.1 = e'.1 ∧ R e.2 e'.2) entries entries') (key : κ) :
    Option.Rel R (entries.lookup key) (entries'.lookup key) := by
  induction h with
  | nil => exact .none
  | @cons e e' _ _ both _ ih =>
    obtain ⟨first, a⟩ := e
    obtain ⟨first', b⟩ := e'
    obtain ⟨rfl, tied⟩ := both
    rw [List.lookup_cons, List.lookup_cons]
    cases key == first with
    | true => exact .some tied
    | false => exact ih

/-- Tables that match do so without one of the keys. -/
theorem filter_tied {κ α β : Type} [BEq κ] [LawfulBEq κ] {R : κ × α → κ × β → Prop}
    {entries : List (κ × α)} {entries' : List (κ × β)} (h : List.Forall₂ R entries entries')
    (names : ∀ e e', R e e' → e.1 = e'.1) (key : κ) :
    List.Forall₂ R (entries.filter (·.1 != key)) (entries'.filter (·.1 != key)) := by
  induction h with
  | nil => exact .nil
  | @cons e e' _ _ tied _ ih =>
    have name := names e e' tied
    by_cases hkey : e.1 = key
    · rw [List.filter_cons_of_neg (by simp [hkey]),
        List.filter_cons_of_neg (by simp [← name, hkey])]
      exact ih
    · rw [List.filter_cons_of_pos (by simp [hkey]),
        List.filter_cons_of_pos (by simp [← name, hkey])]
      exact ih.cons tied

/-- Where interrupts go once they have been sent nowhere. -/
theorem lookup_filter_ne {armed : List (ConnectionId × Database)} (id other : ConnectionId) :
    (armed.filter (·.1 != id)).lookup other = if other = id then none else armed.lookup other := by
  induction armed with
  | nil => simp
  | cons entry rest ih =>
    obtain ⟨first, d⟩ := entry
    by_cases hfirst : first = id
    · subst hfirst
      rw [List.filter_cons_of_neg (by simp), ih, List.lookup_cons]
      split
      · rfl
      · next hne => rw [beq_false_of_ne hne]
    · rw [List.filter_cons_of_pos (by simpa using hfirst), List.lookup_cons, List.lookup_cons, ih]
      by_cases hother : other = first
      · subst hother
        simp [hfirst]
      · rw [beq_false_of_ne hother]

/-- Where interrupts go once they have been sent to an object. -/
theorem lookup_arm {armed : List (ConnectionId × Database)} (id other : ConnectionId)
    (d : Database) : ((id, d) :: armed.filter (·.1 != id)).lookup other =
      if other = id then some d else armed.lookup other := by
  rw [List.lookup_cons, lookup_filter_ne]
  by_cases h : other = id
  · simp [h]
  · simp [beq_false_of_ne h, h]

namespace Session

namespace Slots

variable {α β : Type} {R : α → β → Prop} {slots : Slots α} {slots' : Slots β} {mine : String → Prop}

/-- What is put in a slot of both is tied there, and all else as it was. -/
theorem rel_put (h : ∀ name, mine name → Option.Rel R (slots.get? name) (slots'.get? name))
    (slot : String) {a : α} {b : β} (tied : R a b) (name : String) (hname : mine name) :
    Option.Rel R ((slots.put slot a).get? name) ((slots'.put slot b).get? name) := by
  by_cases heq : name = slot
  · subst heq
    rw [get?_put_self, get?_put_self]
    exact .some tied
  · rw [get?_put_of_ne _ heq, get?_put_of_ne _ heq]
    exact h name hname

/-- A slot that is emptied in both is empty in both, and all else as it was. -/
theorem rel_erase (h : ∀ name, mine name → Option.Rel R (slots.get? name) (slots'.get? name))
    (slot name : String) (hname : mine name) :
    Option.Rel R ((slots.erase slot).get? name) ((slots'.erase slot).get? name) := by
  by_cases heq : name = slot
  · subst heq
    rw [get?_erase_self, get?_erase_self]
    exact .none
  · rw [get?_erase_of_ne _ heq, get?_erase_of_ne _ heq]
    exact h name hname

/-- Slots of others are other slots. -/
theorem ne_of_other {slot other : String} (hslot : mine slot) (hother : ¬ mine other) :
    other ≠ slot :=
  fun heq => hother (heq ▸ hslot)

/-- Putting something in a slot of a party leaves the slots of others. -/
theorem get?_put_other {slot other : String} (hslot : mine slot) (hother : ¬ mine other) (a : α) :
    (slots.put slot a).get? other = slots.get? other :=
  get?_put_of_ne _ (ne_of_other hslot hother) a

/-- Emptying a slot of a party leaves the slots of others. -/
theorem get?_erase_other {slot other : String} (hslot : mine slot) (hother : ¬ mine other) :
    (slots.erase slot).get? other = slots.get? other :=
  get?_erase_of_ne _ (ne_of_other hslot hother)

end Slots

variable {E : Engine} {S : Setting E} {θ : Ties} {w w' : World E (host E)}

namespace Alike

variable (h : Alike S θ w w')

include h

/-! ## What is new -/

/-- An identity is given to a new connection. -/
theorem newConnection :
    Alike S (θ.addId ⟨w.connections + 1⟩ ⟨w'.connections + 1⟩)
      { w with connections := w.connections + 1 }
      { w' with connections := w'.connections + 1 } := by
  have le : θ ≤ θ.addId ⟨w.connections + 1⟩ ⟨w'.connections + 1⟩ := θ.le_addId _ _
  have new : w.connections < (⟨w.connections + 1⟩ : ConnectionId).number := Nat.lt_succ_self _
  have new' : w'.connections < (⟨w'.connections + 1⟩ : ConnectionId).number := Nat.lt_succ_self _
  obtain ⟨past, past', hw, hw', both⟩ := h.past
  refine
    { engine := S.oblivious.mono le.1 h.engine
      ids := ?ids
      tokens := h.tokens
      entries := ?entries
      target := ?target
      engaged := ?engaged
      connection := fun slot hslot => (h.connection slot hslot).mono fun _ _ h => h.mono le
      statement := fun slot hslot => (h.statement slot hslot).mono fun _ _ h => h.mono le
      interrupt := fun slot hslot => (h.interrupt slot hslot).mono fun _ _ h => le.1 h
      stepping := h.stepping
      le := h.le.trans le
      left := h.left.newConnection
      right := h.right.newConnection
      nested := h.nested.imp fun _ _ h => h.mono le
      past := ⟨past, past', hw, hw', both.imp fun _ _ h => h.mono le⟩ }
  case ids =>
    refine h.ids.cons ?_ ?_
    · intro pair hpair heq
      exact h.left.not_mem_ids new (heq ▸ Ties.mem_left_ids hpair)
    · intro pair hpair heq
      exact h.right.not_mem_ids new' (heq ▸ Ties.mem_right_ids hpair)
  -- of the new identities nothing has been said in either world
  case entries =>
    intro pair hpair
    rcases List.mem_cons.mp hpair with rfl | hpair
    · show List.Forall₂ _ (w.registry.entriesOf _) (w'.registry.entriesOf _)
      rw [h.left.entries_new S.leftSettled new, h.right.entries_new S.rightSettled new']
      exact .nil
    · exact (h.entries pair hpair).imp fun _ _ h => h.mono le
  case target =>
    intro pair hpair
    rcases List.mem_cons.mp hpair with rfl | hpair
    · exact (h.left.target_new S.leftSettled new).trans
        (h.right.target_new S.rightSettled new').symm
    · exact h.target pair hpair
  case engaged =>
    intro pair hpair
    rcases List.mem_cons.mp hpair with rfl | hpair
    · exact (h.left.engaged_new S.leftSettled new).trans
        (h.right.engaged_new S.rightSettled new').symm
    · exact h.engaged pair hpair

/-- A number is given to a new closure. -/
theorem newClosure :
    Alike S (θ.addToken (w.closures + 1) (w'.closures + 1))
      { w with closures := w.closures + 1 } { w' with closures := w'.closures + 1 } := by
  have le : θ ≤ θ.addToken (w.closures + 1) (w'.closures + 1) := θ.le_addToken _ _
  obtain ⟨past, past', hw, hw', both⟩ := h.past
  refine
    { engine := h.engine
      ids := h.ids
      tokens := ?tokens
      entries := fun pair hpair => (h.entries pair hpair).imp fun _ _ h => h.mono le
      target := h.target
      engaged := h.engaged
      connection := fun slot hslot => (h.connection slot hslot).mono fun _ _ h => h.mono le
      statement := fun slot hslot => (h.statement slot hslot).mono fun _ _ h => h.mono le
      interrupt := h.interrupt
      stepping := h.stepping
      le := h.le.trans le
      left := h.left.newClosure
      right := h.right.newClosure
      nested := h.nested.imp fun _ _ h => h.mono le
      past := ⟨past, past', hw, hw', both.imp fun _ _ h => h.mono le⟩ }
  refine h.tokens.cons ?_ ?_
  · intro pair hpair heq
    exact h.left.not_mem_tokens (Nat.lt_add_one _) (heq ▸ Ties.mem_left_tokens hpair)
  · intro pair hpair heq
    exact h.right.not_mem_tokens (Nat.lt_add_one _) (heq ▸ Ties.mem_right_tokens hpair)

/-! ## Where interrupts go -/

variable {id id' : ConnectionId}

/-- Connections that are tied are found in the same places, as ties are one to one. -/
theorem eq_iff (tied : (id, id') ∈ θ.ids) {pair : ConnectionId × ConnectionId}
    (hpair : pair ∈ θ.ids) : pair.1 = id ↔ pair.2 = id' :=
  h.ids pair hpair (id, id') tied

/-- Sending interrupts to an object leaves worlds alike, for connections that are tied. -/
theorem arm (tied : (id, id') ∈ θ.ids) (d : Database) :
    Alike S θ (Bridge.arm id d w).2 (Bridge.arm id' d w').2 := by
  refine h.withArmed ?_ ?_ ?_
  · intro pair hpair
    rw [lookup_arm, lookup_arm]
    simp only [h.eq_iff tied hpair]
    split
    · rfl
    · exact h.target pair hpair
  · intro other hother
    rw [lookup_arm, if_neg (Ties.ne_of_not_mem_left tied hother)]
  · intro other hother
    rw [lookup_arm, if_neg (Ties.ne_of_not_mem_right tied hother)]

/-- Sending interrupts nowhere leaves worlds alike, for connections that are tied. -/
theorem disarm (tied : (id, id') ∈ θ.ids) :
    Alike S θ (Bridge.disarm id w).2 (Bridge.disarm id' w').2 := by
  refine h.withArmed ?_ ?_ ?_
  · intro pair hpair
    rw [lookup_filter_ne, lookup_filter_ne]
    simp only [h.eq_iff tied hpair]
    split
    · rfl
    · exact h.target pair hpair
  · intro other hother
    rw [lookup_filter_ne, if_neg (Ties.ne_of_not_mem_left tied hother)]
  · intro other hother
    rw [lookup_filter_ne, if_neg (Ties.ne_of_not_mem_right tied hother)]

/-! ## The registry -/

variable {key key' : FunctionKey}

/-- What is registered for keys that are tied is tied. -/
theorem find (tied : key.Tied θ.ids key') :
    Option.Rel (RegistrationTied S.party θ) (w.registry.find? key) (w'.registry.find? key') := by
  rw [Registry.find?_eq_lookup, Registry.find?_eq_lookup, tied.2]
  exact lookup_tied (h.entries _ tied.1) key'.slot

/-- What is registered for connections that are tied is tied, in order. -/
theorem ownedBy (tied : (id, id') ∈ θ.ids) :
    List.Forall₂ (RegistrationTied S.party θ)
      (w.registry.ownedBy id) (w'.registry.ownedBy id') := by
  rw [Registry.ownedBy_eq_map, Registry.ownedBy_eq_map, List.forall₂_map_left_iff,
    List.forall₂_map_right_iff]
  exact (h.entries _ tied).imp fun _ _ h => h.2

/-- Connections that are tied have as many registrations. -/
theorem count (tied : (id, id') ∈ θ.ids) : w.registry.count id = w'.registry.count id' := by
  rw [Registry.count_eq_length, Registry.count_eq_length]
  exact (h.entries _ tied).length_eq

/-- Taking out what is registered for keys that are tied leaves worlds alike. -/
theorem erase (tied : key.Tied θ.ids key') :
    Alike S θ (w.withRegistry (w.registry.erase key))
      (w'.withRegistry (w'.registry.erase key')) := by
  refine h.withRegistry ?_ ?_ ?_
  · intro pair hpair
    rw [Registry.entriesOf_erase, Registry.entriesOf_erase, tied.2]
    simp only [h.eq_iff tied.1 hpair]
    split
    · exact filter_tied (h.entries pair hpair) (fun _ _ h => h.1) _
    · exact h.entries pair hpair
  · intro other hother
    rw [Registry.entriesOf_erase, if_neg (Ties.ne_of_not_mem_left tied.1 hother)]
  · intro other hother
    rw [Registry.entriesOf_erase, if_neg (Ties.ne_of_not_mem_right tied.1 hother)]

/-- Registering what is tied leaves worlds alike. -/
theorem insert (tied : key.Tied θ.ids key') {r r' : Registration (host E)}
    (hr : RegistrationTied S.party θ r r') :
    Alike S θ (w.withRegistry (w.registry.insert key r))
      (w'.withRegistry (w'.registry.insert key' r')) := by
  refine h.withRegistry ?_ ?_ ?_
  · intro pair hpair
    rw [Registry.entriesOf_insert, Registry.entriesOf_insert, tied.2]
    simp only [h.eq_iff tied.1 hpair]
    split
    · have others := filter_tied (h.entries pair hpair) (fun _ _ h => h.1) key'.slot
      exact List.rel_append others (.cons ⟨rfl, hr⟩ .nil)
    · exact h.entries pair hpair
  · intro other hother
    rw [Registry.entriesOf_insert, if_neg (Ties.ne_of_not_mem_left tied.1 hother)]
  · intro other hother
    rw [Registry.entriesOf_insert, if_neg (Ties.ne_of_not_mem_right tied.1 hother)]

/-- Taking out all that connections own leaves worlds alike, if these are tied. -/
theorem eraseOwner (tied : (id, id') ∈ θ.ids) :
    Alike S θ (w.withRegistry (w.registry.eraseOwner id))
      (w'.withRegistry (w'.registry.eraseOwner id')) := by
  refine h.withRegistry ?_ ?_ ?_
  · intro pair hpair
    rw [Registry.entriesOf_eraseOwner, Registry.entriesOf_eraseOwner]
    simp only [h.eq_iff tied hpair]
    split
    · exact .nil
    · exact h.entries pair hpair
  · intro other hother
    rw [Registry.entriesOf_eraseOwner, if_neg (Ties.ne_of_not_mem_left tied hother)]
  · intro other hother
    rw [Registry.entriesOf_eraseOwner, if_neg (Ties.ne_of_not_mem_right tied hother)]

/-! ## Slots -/

variable {slot : String}

/-- Keeping connections that are tied in a slot of the party leaves worlds alike. -/
theorem putConnection {conn conn' : Connection} (hslot : S.party.connections slot)
    (tied : conn.Tied θ conn') :
    Alike S θ (EngineBridge.Session.putConnection slot conn w).2
      (EngineBridge.Session.putConnection slot conn' w').2 :=
  { h with
    connection := Slots.rel_put h.connection slot tied
    left := { h.left with connection := fun other hother =>
      (Slots.get?_put_other hslot hother conn).trans (h.left.connection other hother) }
    right := { h.right with connection := fun other hother =>
      (Slots.get?_put_other hslot hother conn').trans (h.right.connection other hother) } }

/-- Emptying a slot of the party for connections leaves worlds alike. -/
theorem eraseConnection (hslot : S.party.connections slot) :
    Alike S θ
      (update (fun s => { s with connections := s.connections.erase slot }) w).2
      (update (fun s => { s with connections := s.connections.erase slot }) w').2 :=
  { h with
    connection := Slots.rel_erase h.connection slot
    left := { h.left with connection := fun other hother =>
      (Slots.get?_erase_other hslot hother).trans (h.left.connection other hother) }
    right := { h.right with connection := fun other hother =>
      (Slots.get?_erase_other hslot hother).trans (h.right.connection other hother) } }

/-- Keeping statements that are tied in a slot of the party leaves worlds alike. -/
theorem putStatement {stmt stmt' : Statement} (hslot : S.party.statements slot)
    (tied : stmt.Tied θ stmt') :
    Alike S θ (EngineBridge.Session.putStatement slot stmt w).2
      (EngineBridge.Session.putStatement slot stmt' w').2 :=
  { h with
    statement := Slots.rel_put h.statement slot tied
    left := { h.left with statement := fun other hother =>
      (Slots.get?_put_other hslot hother stmt).trans (h.left.statement other hother) }
    right := { h.right with statement := fun other hother =>
      (Slots.get?_put_other hslot hother stmt').trans (h.right.statement other hother) } }

/-- Emptying a slot of the party for statements leaves worlds alike. -/
theorem eraseStatement (hslot : S.party.statements slot) :
    Alike S θ
      (update (fun s => { s with statements := s.statements.erase slot }) w).2
      (update (fun s => { s with statements := s.statements.erase slot }) w').2 :=
  { h with
    statement := Slots.rel_erase h.statement slot
    left := { h.left with statement := fun other hother =>
      (Slots.get?_erase_other hslot hother).trans (h.left.statement other hother) }
    right := { h.right with statement := fun other hother =>
      (Slots.get?_erase_other hslot hother).trans (h.right.statement other hother) } }

/-- Keeping handles that are tied in a slot of the party leaves worlds alike. -/
theorem putInterrupt (hslot : S.party.interrupts slot) (tied : (id, id') ∈ θ.ids) :
    Alike S θ
      (update (fun s => { s with interrupts := s.interrupts.put slot id }) w).2
      (update (fun s => { s with interrupts := s.interrupts.put slot id' }) w').2 :=
  { h with
    interrupt := Slots.rel_put h.interrupt slot tied
    left := { h.left with interrupt := fun other hother =>
      (Slots.get?_put_other hslot hother id).trans (h.left.interrupt other hother) }
    right := { h.right with interrupt := fun other hother =>
      (Slots.get?_put_other hslot hother id').trans (h.right.interrupt other hother) } }

/-! ## What is in progress -/

/-- Connections in use may change alike in both worlds, if those of others stay as they are. -/
theorem withEngaged {engaged engaged' : List ConnectionId}
    (ties : ∀ pair ∈ θ.ids, engaged.count pair.1 = engaged'.count pair.2)
    (left : ∀ id, id ∉ θ.left.ids → engaged.count id = w.host.engaged.count id)
    (right : ∀ id, id ∉ θ.right.ids → engaged'.count id = w'.host.engaged.count id) :
    Alike S θ (update (fun s => { s with engaged }) w).2
      (update (fun s => { s with engaged := engaged' }) w').2 :=
  { h with
    engaged := ties
    left := { h.left with engaged := fun id hid => (left id hid).trans (h.left.engaged id hid) }
    right :=
      { h.right with engaged := fun id hid => (right id hid).trans (h.right.engaged id hid) } }

/-- Connections that are tied may come into use. -/
theorem engage (tied : (id, id') ∈ θ.ids) :
    Alike S θ (update (fun s => { s with engaged := id :: s.engaged }) w).2
      (update (fun s => { s with engaged := id' :: s.engaged }) w').2 := by
  refine h.withEngaged ?_ ?_ ?_
  · intro pair hpair
    have both := h.eq_iff tied hpair
    rw [List.count_cons, List.count_cons, h.engaged pair hpair]
    simp only [beq_iff_eq, eq_comm (a := id), eq_comm (a := id'), both]
  · intro other hother
    exact List.count_cons_of_ne (Ties.ne_of_not_mem_left tied hother).symm
  · intro other hother
    exact List.count_cons_of_ne (Ties.ne_of_not_mem_right tied hother).symm

/-- Connections that are tied may go out of use again. -/
theorem disengage (tied : (id, id') ∈ θ.ids) :
    Alike S θ (update (fun s => { s with engaged := s.engaged.erase id }) w).2
      (update (fun s => { s with engaged := s.engaged.erase id' }) w').2 := by
  refine h.withEngaged ?_ ?_ ?_
  · intro pair hpair
    have both := h.eq_iff tied hpair
    rw [List.count_erase, List.count_erase, h.engaged pair hpair]
    simp only [beq_iff_eq, eq_comm (a := id), eq_comm (a := id'), both]
  · intro other hother
    exact List.count_erase_of_ne (Ties.ne_of_not_mem_left tied hother)
  · intro other hother
    exact List.count_erase_of_ne (Ties.ne_of_not_mem_right tied hother)

/-- Statements in a step may change alike in both worlds, if those of others stay as they are. -/
theorem withStepping {stepping stepping' : List String}
    (ties : ∀ slot, S.party.statements slot → stepping.count slot = stepping'.count slot)
    (left : ∀ slot, ¬ S.party.statements slot →
      stepping.count slot = w.host.stepping.count slot)
    (right : ∀ slot, ¬ S.party.statements slot →
      stepping'.count slot = w'.host.stepping.count slot) :
    Alike S θ (update (fun s => { s with stepping }) w).2
      (update (fun s => { s with stepping := stepping' }) w').2 :=
  { h with
    stepping := ties
    left := { h.left with
      stepping := fun slot hslot => (left slot hslot).trans (h.left.stepping slot hslot) }
    right := { h.right with
      stepping := fun slot hslot => (right slot hslot).trans (h.right.stepping slot hslot) } }

/-- A statement of the party may start a step. -/
theorem startStep (hslot : S.party.statements slot) :
    Alike S θ (update (fun s => { s with stepping := slot :: s.stepping }) w).2
      (update (fun s => { s with stepping := slot :: s.stepping }) w').2 := by
  refine h.withStepping ?_ ?_ ?_
  · intro other hother
    rw [List.count_cons, List.count_cons, h.stepping other hother]
  · intro other hother
    exact List.count_cons_of_ne (Slots.ne_of_other hslot hother).symm
  · intro other hother
    exact List.count_cons_of_ne (Slots.ne_of_other hslot hother).symm

/-- A statement of the party may end a step. -/
theorem endStep (hslot : S.party.statements slot) :
    Alike S θ (update (fun s => { s with stepping := s.stepping.erase slot }) w).2
      (update (fun s => { s with stepping := s.stepping.erase slot }) w').2 := by
  refine h.withStepping ?_ ?_ ?_
  · intro other hother
    rw [List.count_erase, List.count_erase, h.stepping other hother]
  · intro other hother
    exact List.count_erase_of_ne (Slots.ne_of_other hslot hother)
  · intro other hother
    exact List.count_erase_of_ne (Slots.ne_of_other hslot hother)

/-- Reports that are tied may be kept by both. -/
theorem keepReport {r r' : Report E.Response} (tied : ReportTied θ r r') :
    Alike S θ (update (fun s => { s with nested := r :: s.nested }) w).2
      (update (fun s => { s with nested := r' :: s.nested }) w').2 :=
  { h with
    nested := h.nested.cons tied
    left := { h.left with }
    right := { h.right with } }

end Alike

end Session

end EngineBridge
