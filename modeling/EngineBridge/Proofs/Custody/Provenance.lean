import EngineBridge.Proofs.Custody.Holding

/-!
# Where registered closures come from

Every closure in the registry has been asked for: by a change that puts a closure of its kind
into just this slot, on just this connection.  So a slot holds closures of one kind only, and no
name of a function in the registry has a capital letter in it.  The connections themselves are
counted from one.
-/

set_option autoImplicit false

namespace EngineBridge

open Native

variable {E : Engine} {H : Host}

/-! ## Slots and their closures -/

/-- No letter of a name that has been folded is a capital one. -/
theorem not_isUpper_of_mem_foldName {name : String} {c : Char} (hc : c ∈ (foldName name).toList) :
    c.isUpper = false := by
  unfold foldName at hc
  rw [String.toList_ofList] at hc
  obtain ⟨letter, -, rfl⟩ := List.mem_map.mp hc
  by_cases capital : letter.val ≥ 'A'.val ∧ letter.val ≤ 'Z'.val
  · have lowered : letter.toLower.val = letter.val + ('a'.val - 'A'.val) :=
      congrArg Char.val (dif_pos capital)
    refine decide_eq_false fun both => ?_
    rw [lowered] at both
    grind [UInt32.toNat_add, Char.toNat_val]
  · have kept : letter.toLower = letter := dif_neg capital
    rw [kept]
    exact decide_eq_false capital

/-- A closure is of the kind that a slot is for, and the slot is one that closures are looked for
in: the name of its function has no capital letters. -/
def Slot.Admits : Slot → Registration H → Prop
  | .busyHandler, .busy _ => True
  | .function name _, .function _ => ∀ c ∈ name.toList, c.isUpper = false
  | _, _ => False

/-- A change of callbacks puts a closure into a slot. -/
inductive Change.Installs : Change → Slot → Registration H → Prop
  | handler (handler : Closure H.Handler) :
    Installs (.registerBusyHandler handler.token) .busyHandler (.busy handler)
  | function (name : String) (arity : Int32) (function : Closure H.Function) :
    Installs (.registerFunction name arity function.token) (.ofFunction name arity)
      (.function function)

/-- A slot admits what a change puts into it. -/
theorem Change.Installs.admits {change : Change} {slot : Slot} {r : Registration H}
    (h : change.Installs slot r) : slot.Admits r := by
  cases h with
  | handler => trivial
  | function name arity function => exact fun c hc => not_isUpper_of_mem_foldName hc

/-! ## Closures that have been asked for -/

/-- Every closure in the registry has been asked for on its connection. -/
def Stage.Vouched (s : Stage E H) : Prop :=
  ∀ key r, s.world.registry.find? key = some r →
    ∃ change : Change, change.Installs key.slot r ∧
      .requested key.owner change ∈ s.world.transcript

namespace Stage.Vouched

variable {s s' : Stage E H}

/-- Nothing has to be asked for again, and nothing if it goes. -/
theorem mono (h : s.Vouched)
    (registry : ∀ key r, s'.world.registry.find? key = some r →
      s.world.registry.find? key = some r)
    (transcript : s.world.transcript ⊆ s'.world.transcript) : s'.Vouched := by
  intro key r found
  obtain ⟨change, installs, asked⟩ := h key r (registry key r found)
  exact ⟨change, installs, transcript asked⟩

/-- What is registered on request was asked for. -/
theorem insert (h : s.Vouched) {key : FunctionKey} {r : Registration H} {change : Change}
    (registry : s'.world.registry = s.world.registry.insert key r)
    (transcript : s.world.transcript ⊆ s'.world.transcript) (installs : change.Installs key.slot r)
    (asked : .requested key.owner change ∈ s.world.transcript) : s'.Vouched := by
  intro other r' found
  rw [registry] at found
  by_cases same : other = key
  · subst same
    rw [Registry.find?_insert_self] at found
    obtain rfl := Option.some.inj found
    exact ⟨change, installs, transcript asked⟩
  · rw [Registry.find?_insert_of_ne _ same] at found
    obtain ⟨change', installs', asked'⟩ := h other r' found
    exact ⟨change', installs', transcript asked'⟩

end Stage.Vouched

namespace Registry

variable {r : Registry H} {key : FunctionKey} {found : Registration H}

/-- A connection owns nothing if no key in the registry is its own. -/
theorem ownedBy_eq_nil_iff {owner : ConnectionId} :
    r.ownedBy owner = [] ↔ ∀ key found, (key, found) ∈ r.entries → key.owner ≠ owner := by
  simp [ownedBy, List.filter_eq_nil_iff]

/-- What is left after one slot was emptied was there before. -/
theorem find?_of_find?_erase {other : FunctionKey} (h : (r.erase other).find? key = some found) :
    r.find? key = some found := by
  by_cases same : key = other
  · subst same
    cases (r.find?_erase_self key).symm.trans h
  · rwa [r.find?_erase_of_ne same] at h

/-- What is left after the slots of a connection were emptied was there before. -/
theorem find?_of_find?_eraseOwner {owner : ConnectionId}
    (h : (r.eraseOwner owner).find? key = some found) : r.find? key = some found := by
  by_cases same : key.owner = owner
  · subst same
    cases (r.find?_eraseOwner_self key).symm.trans h
  · rwa [r.find?_eraseOwner_of_ne same] at h

end Registry

/-- Moves put closures into the registry that have been asked for, and no others. -/
theorem Move.vouched {s s' : Stage E H} (move : Move s s') (h : s.Vouched) : s'.Vouched := by
  -- only two moves put a closure into a slot, and both come after the request
  cases move with
  | engine | closure | create | discard | reserve | share | forget => exact h
  | close =>
    exact h.mono (fun _ _ => Registry.find?_of_find?_eraseOwner) (List.subset_cons_self _ _)
  | @installFunction κ w x d text name arity rep function rest earlier hand database named owned
      asked done =>
    have requested : .requested x.id (.registerFunction name arity function.token) ∈
        w.transcript := by
      rw [asked]
      exact List.mem_cons_of_mem _ List.mem_cons_self
    exact h.insert rfl (List.subset_cons_self _ _) (.function name arity function) requested
  | removeFunction =>
    exact h.mono (fun _ _ => Registry.find?_of_find?_erase) (List.subset_cons_self _ _)
  | installBusy hand database owned idle asked =>
    exact h.insert rfl (List.Subset.refl _) (.handler _) asked
  | removeBusy => exact h.mono (fun _ _ => Registry.find?_of_find?_erase) (List.Subset.refl _)
  | _ => exact h.mono (fun _ _ found => found) (List.subset_cons_self _ _)

/-! ## Connections and their numbers -/

/-- A connection has been given this identity. -/
def World.HandedOut (w : World E H) (id : ConnectionId) : Prop :=
  0 < id.number ∧ id.number ≤ w.connections

/-- Connections are counted from one, those that are held and those that interrupts go to. -/
structure Stage.Numbered (s : Stage E H) : Prop where
  held : ∀ x ∈ s.held, 0 < x.id.number
  armed : ∀ id d, s.world.target id = some d → 0 < id.number

/-- Connections keep their numbers, and a new one has a number too. -/
theorem Shifts.numbered {s s' : Stage E H} (shifts : Shifts s s') (h : s.Numbered) :
    s'.Numbered := by
  obtain ⟨numbers, armed⟩ := h
  cases shifts with
  | none held connections target =>
    constructor
    · rw [held]
      exact numbers
    · rw [target]
      exact armed
  | created held connections target =>
    constructor
    · rw [held]
      intro x hx
      rcases Multiset.mem_cons.mp hx with rfl | hx
      · exact Nat.succ_pos _
      · exact numbers x hx
    · rw [target]
      exact armed
  | @changed x y rest before held id begun fits connections target =>
    have own : 0 < x.id.number := numbers x (before ▸ Multiset.mem_cons_self x rest)
    constructor
    · rw [held]
      intro z hz
      rcases Multiset.mem_cons.mp hz with rfl | hz
      · exact id ▸ own
      · exact numbers z (before ▸ Multiset.mem_cons_of_mem hz)
    · intro other d hd
      rw [target] at hd
      split at hd
      · next same => exact same ▸ own
      · exact armed other d hd
  | @discarded x before connections target =>
    constructor
    · exact fun z hz => numbers z (before ▸ Multiset.mem_cons_of_mem hz)
    · rw [target]
      exact armed

end EngineBridge
