import EngineBridge.Proofs.Isolation.Upcalls
import EngineBridge.Proofs.Session.Slots

/-!
# What steps do with slots agrees

Finding what is in a slot, taking it out, putting it back and letting it go: all this concerns
the slots of one party, and the statements that go with a connection are those of the party.
-/

set_option autoImplicit false

namespace EngineBridge.Session

open Native

/-- Lists in the order of their names match if the things in them do. -/
theorem forall₂_of_sorted {α β : Type} {R : String × α → String × β → Prop}
    {xs : List (String × α)} {ys : List (String × β)} (hx : xs.Pairwise (·.1 < ·.1))
    (hy : ys.Pairwise (·.1 < ·.1)) (left : ∀ x ∈ xs, ∃ y ∈ ys, x.1 = y.1 ∧ R x y)
    (right : ∀ y ∈ ys, ∃ x ∈ xs, x.1 = y.1) : List.Forall₂ R xs ys := by
  induction xs generalizing ys with
  | nil =>
    cases ys with
    | nil => exact .nil
    | cons y ys =>
      obtain ⟨x, hmem, -⟩ := right y List.mem_cons_self
      cases hmem
  | cons x xs ih =>
    obtain ⟨hfirst, hrest⟩ := List.pairwise_cons.mp hx
    obtain ⟨y₀, hmem, hname, tied⟩ := left x List.mem_cons_self
    cases ys with
    | nil => cases hmem
    | cons y ys =>
      obtain ⟨hfirst', hrest'⟩ := List.pairwise_cons.mp hy
      -- the first names are the same, since neither list has a name before them
      obtain rfl : y₀ = y := by
        refine (List.mem_cons.mp hmem).resolve_right fun later => ?_
        have before : y.1 < x.1 := hname ▸ hfirst' y₀ later
        obtain ⟨x₀, hx₀, heq⟩ := right y List.mem_cons_self
        rcases List.mem_cons.mp hx₀ with rfl | hx₀
        · exact String.lt_irrefl _ (heq ▸ before)
        · exact String.lt_irrefl _ (String.lt_trans before (heq ▸ hfirst x₀ hx₀))
      refine .cons tied (ih hrest hrest' ?_ ?_)
      · intro x' hx'
        obtain ⟨y', hy', hnames⟩ := left x' (List.mem_cons_of_mem _ hx')
        refine ⟨y', (List.mem_cons.mp hy').resolve_left ?_, hnames⟩
        rintro rfl
        exact String.lt_irrefl _ ((hname.trans hnames.1.symm) ▸ hfirst x' hx')
      · intro y' hy'
        obtain ⟨x', hx', hnames⟩ := right y' (List.mem_cons_of_mem _ hy')
        refine ⟨x', (List.mem_cons.mp hx').resolve_left ?_, hnames⟩
        rintro rfl
        exact String.lt_irrefl _ ((hname.symm.trans hnames) ▸ hfirst' y' hy')

variable {E : Engine} {S : Setting E} {θ : Ties} {α β γ δ : Type} {slot : String}
  {w w' : World E (host E)}

/-- The same slot of the party with statements that are tied. -/
def EntriesTied (S : Setting E) (θ : Ties) (entry entry' : String × Statement) : Prop :=
  entry.1 = entry'.1 ∧ S.party.statements entry.1 ∧ entry.2.Tied θ entry'.2

namespace Alike

variable (h : Alike S θ w w')

include h

/-- Connections that are tied are in use in both worlds or in neither. -/
theorem mem_engaged_iff {id id' : ConnectionId} (tied : (id, id') ∈ θ.ids) :
    id ∈ w.host.engaged ↔ id' ∈ w'.host.engaged := by
  rw [← List.count_pos_iff, ← List.count_pos_iff, h.engaged _ tied]

/-- A statement of the party is in a step in both worlds or in neither. -/
theorem mem_stepping_iff (hslot : S.party.statements slot) :
    slot ∈ w.host.stepping ↔ slot ∈ w'.host.stepping := by
  rw [← List.count_pos_iff, ← List.count_pos_iff, h.stepping slot hslot]

/-- A statement of a connection that the party knows is in a slot of the party. -/
theorem own_of_left {stmt : Statement} (found : w.host.statements.get? slot = some stmt)
    (known : stmt.connection ∈ θ.left.ids) : S.party.statements slot := by
  by_contra other
  exact (h.left.others S.leftSettled other found).1 known

/-- A statement of a connection that the party knows is in a slot of the party. -/
theorem own_of_right {stmt : Statement} (found : w'.host.statements.get? slot = some stmt)
    (known : stmt.connection ∈ θ.right.ids) : S.party.statements slot := by
  by_contra other
  exact (h.right.others S.rightSettled other found).1 known

/-- The statements of a connection are in the same slots in the two worlds. -/
theorem statementsOf {id id' : ConnectionId} (tied : (id, id') ∈ θ.ids) :
    List.Forall₂ (EntriesTied S θ) (w.host.statements.entries.filter (·.2.connection = id))
      (w'.host.statements.entries.filter (·.2.connection = id')) := by
  refine forall₂_of_sorted (w.host.statements.ordered.filter _)
    (w'.host.statements.ordered.filter _) ?_ ?_
  · rintro ⟨name, stmt⟩ hentry
    obtain ⟨hmem, hconnection⟩ := List.mem_filter.mp hentry
    have found := Slots.mem_entries_iff.mp hmem
    obtain rfl : stmt.connection = id := of_decide_eq_true hconnection
    have hname := h.own_of_left found (Ties.mem_left_ids tied)
    have both := h.statement name hname
    rw [found] at both
    generalize found' : w'.host.statements.get? name = other at both
    cases both with
    | @some _ stmt' hstmt =>
      have same : stmt'.connection = id' := (h.ids _ hstmt.1 _ tied).mp rfl
      refine ⟨(name, stmt'), List.mem_filter.mpr ⟨Slots.mem_entries_iff.mpr found', ?_⟩, rfl, ?_⟩
      · exact decide_eq_true same
      · exact ⟨rfl, hname, hstmt⟩
  · rintro ⟨name, stmt'⟩ hentry
    obtain ⟨hmem, hconnection⟩ := List.mem_filter.mp hentry
    have found' := Slots.mem_entries_iff.mp hmem
    obtain rfl : stmt'.connection = id' := of_decide_eq_true hconnection
    have hname := h.own_of_right found' (Ties.mem_right_ids tied)
    have both := h.statement name hname
    rw [found'] at both
    generalize found : w.host.statements.get? name = other at both
    cases both with
    | @some stmt _ hstmt =>
      have same : stmt.connection = id := (h.ids _ hstmt.1 _ tied).mpr rfl
      refine ⟨(name, stmt), List.mem_filter.mpr ⟨Slots.mem_entries_iff.mpr found, ?_⟩, rfl⟩
      exact decide_eq_true same

end Alike

/-! ## Letting go -/

/-- Statements that are tied are dropped alike. -/
theorem agrees_dropStatement {stmt stmt' : Statement} (hslot : S.party.statements slot)
    (tied : stmt.Tied θ stmt') :
    Agrees S θ (dropStatement (E := E) slot stmt) (dropStatement slot stmt') Anything := by
  have erased : Agrees S θ
      (update (E := E) fun s => { s with statements := s.statements.erase slot })
      (update fun s => { s with statements := s.statements.erase slot }) Anything :=
    fun _ _ alike => ⟨θ, le_refl θ, alike.eraseStatement hslot, trivial⟩
  exact erased.bind fun _ _ _ le _ => Statement.agrees_drop (tied.mono le)

/-- The statements of connections that are tied are dropped alike. -/
theorem agrees_dropStatementsOf {id id' : ConnectionId} (tied : (id, id') ∈ θ.ids) :
    Agrees S θ (dropStatementsOf (E := E) id) (dropStatementsOf id') Anything := by
  refine .get_bind fun w w' alike => ?_
  refine Agrees.forM (R := EntriesTied S) ?_ ?_ (alike.statementsOf tied)
  · rintro θ₁ θ₂ entry entry' le ⟨hname, hslot, hstmt⟩
    exact ⟨hname, hslot, hstmt.mono le⟩
  · rintro θ₁ ⟨name, stmt⟩ ⟨name', stmt'⟩ ⟨hname, hslot, hstmt⟩
    obtain rfl : name = name' := hname
    exact agrees_dropStatement hslot hstmt

/-- Emptying a slot of the party agrees. -/
theorem agrees_eraseConnection (hslot : S.party.connections slot) :
    Agrees S θ (update (E := E) fun s => { s with connections := s.connections.erase slot })
      (update fun s => { s with connections := s.connections.erase slot }) Anything :=
  fun _ _ alike => ⟨θ, le_refl θ, alike.eraseConnection hslot, trivial⟩

/-- Connections that are tied are dropped alike. -/
theorem agrees_dropConnection {conn conn' : Connection} (hslot : S.party.connections slot)
    (tied : conn.Tied θ conn') :
    Agrees S θ (dropConnection (E := E) slot conn) (dropConnection slot conn') Anything :=
  (agrees_eraseConnection hslot).bind fun _ _ _ le _ => Connection.agrees_drop (tied.mono le)

/-- Keeping connections that are tied agrees. -/
theorem agrees_putConnection {conn conn' : Connection} (hslot : S.party.connections slot)
    (tied : conn.Tied θ conn') :
    Agrees S θ (putConnection (E := E) slot conn) (putConnection slot conn') Anything :=
  fun _ _ alike => ⟨θ, le_refl θ, alike.putConnection hslot tied, trivial⟩

/-- Keeping statements that are tied agrees. -/
theorem agrees_putStatement {stmt stmt' : Statement} (hslot : S.party.statements slot)
    (tied : stmt.Tied θ stmt') :
    Agrees S θ (putStatement (E := E) slot stmt) (putStatement slot stmt') Anything :=
  fun _ _ alike => ⟨θ, le_refl θ, alike.putStatement hslot tied, trivial⟩

namespace Attempt

variable {R : Ties → β → γ → Prop}

/-- An attempt may look at the session's state in both worlds. -/
theorem agrees_state {f : State E.Response → Attempt E β} {f' : State E.Response → Attempt E γ}
    (next : ∀ w w', Alike S θ w w' → Agrees S θ (f w.host).run (f' w'.host).run (Results R)) :
    Agrees S θ (lift state >>= f).run (lift state >>= f').run (Results R) :=
  fun w w' alike => next w w' alike w w' alike

/-- The party finds connections that are tied in a slot, or none in both worlds. -/
theorem agrees_connection (hslot : S.party.connections slot) {f : Connection → Attempt E β}
    {f' : Connection → Attempt E γ}
    (next : ∀ conn conn', conn.Tied θ conn' → Agrees S θ (f conn).run (f' conn').run (Results R)) :
    Agrees S θ (connection slot >>= f).run (connection slot >>= f').run (Results R) := by
  unfold connection
  rw [bind_assoc, bind_assoc]
  refine agrees_state fun w w' alike => ?_
  have both := alike.connection slot hslot
  generalize w.host.connections.get? slot = found at both
  generalize w'.host.connections.get? slot = found' at both
  cases both with
  | none => exact .run_throw _
  | some h => exact next _ _ h

/-- Something is done with the statement in a slot, if there is one and no step of it is in
progress. -/
theorem agrees_statement (hslot : S.party.statements slot) {f : Statement → Attempt E β}
    {f' : Statement → Attempt E γ}
    (next : ∀ stmt stmt', stmt.Tied θ stmt' → Agrees S θ (f stmt).run (f' stmt').run (Results R)) :
    Agrees S θ (statement slot >>= f).run (statement slot >>= f').run (Results R) := by
  unfold statement
  rw [bind_assoc, bind_assoc]
  refine agrees_state fun w w' alike => ?_
  have both := alike.statement slot hslot
  have stepping := alike.mem_stepping_iff hslot
  generalize w.host.statements.get? slot = found at both
  generalize w'.host.statements.get? slot = found' at both
  cases both with
  | none => exact .run_throw _
  | some h =>
    simp only [stepping]
    split
    · exact .run_throw _
    · exact next _ _ h

/-- Operations that agree do so in a step, too. -/
theorem agrees_operation {m m' : Fallible E (host E) α} {R : Ties → α → α → Prop}
    (h : Agrees S θ m.run m'.run (Results R)) :
    Agrees S θ (operation m).run (operation m').run (Results R) := by
  refine .run_lift_bind h fun θ₁ r r' _ hr => ?_
  cases hr with
  | ok h => exact .run_pure h
  | error e => exact .run_throw _

/-- The same result is handed on in both worlds. -/
theorem agrees_settle (result : Except BindError α) :
    Agrees S θ (settle (E := E) result).run (settle result).run (Results fun _ a b => a = b) := by
  cases result with
  | ok a => exact .run_pure rfl
  | error e => exact .run_throw _

/-- A slot of the party gives connections that are tied for exclusive use, or the same refusal. -/
theorem agrees_exclusive (hslot : S.party.connections slot) :
    Agrees S θ (exclusive (E := E) slot).run (exclusive slot).run (Results Connection.Tied) := by
  refine agrees_connection hslot fun conn conn' tied => agrees_state fun w w' alike => ?_
  have engaged := alike.mem_engaged_iff tied.1
  simp only [engaged]
  split
  · exact .run_throw _
  · refine .run_lift_bind (agrees_dropStatementsOf tied.1) fun θ₁ _ _ le _ => ?_
    exact .run_pure (tied.mono le)

/-- Making room in a slot of the party agrees. -/
theorem agrees_vacate (hslot : S.party.connections slot) :
    Agrees S θ (vacate (E := E) slot).run (vacate slot).run (Results Anything) := by
  refine agrees_state fun w w' alike => ?_
  have both := alike.connection slot hslot
  generalize w.host.connections.get? slot = found at both
  generalize w'.host.connections.get? slot = found' at both
  cases both with
  | none => exact .run_pure trivial
  | some h =>
    refine .run_bind (agrees_exclusive hslot) fun θ₁ conn conn' _ tied => ?_
    exact .run_lift (agrees_dropConnection hslot tied)

/-- The connections that a closure is to own are tied. -/
theorem agrees_owned (hslot : S.party.connections slot) :
    Agrees S θ (owned (E := E) slot).run (owned slot).run
      (Results fun θ₁ => Option.Rel (Connection.Tied θ₁)) := by
  have taken : Agrees S θ (take (E := E) slot).run (take slot).run (Results Connection.Tied) := by
    refine .run_bind (agrees_exclusive hslot) fun θ₁ conn conn' _ tied => ?_
    refine .run_lift_bind (agrees_eraseConnection hslot) fun θ₂ _ _ le _ => ?_
    exact .run_pure (tied.mono le)
  exact .run_bind taken fun θ₁ conn conn' _ tied => .run_pure (.some tied)

/-- Closures of the same code are tied if what they own is. -/
theorem agrees_newClosure {Code : Type} {within : Code → Prop} {code : Code}
    {owned owned' : Option Connection} (h : within code)
    (tied : Option.Rel (Connection.Tied θ) owned owned') :
    Agrees S θ (lift (Bridge.newClosure code owned) : Attempt E (Closure Code)).run
      (lift (Bridge.newClosure code owned')).run (Results (ClosureTied within)) := by
  refine .run_lift fun w w' alike => ⟨_, θ.le_addToken _ _, alike.newClosure, ?_⟩
  exact
    { token := List.mem_cons_self
      code := rfl
      within := h
      owned := tied.mono fun _ _ h => h.mono (θ.le_addToken _ _) }

/-- Closures of the same busy handler of the party are tied. -/
theorem agrees_handler {body : HandlerBody E.Stimulus} (within : HandlerBody.Within S.party body) :
    Agrees S θ (handler body).run (handler body).run
      (Results (ClosureTied (HandlerBody.Within S.party))) := by
  cases within with
  | own hslot =>
    refine .run_bind (agrees_owned hslot) fun θ₁ _ _ _ tied => ?_
    exact agrees_newClosure (.own hslot) tied
  | invalid => exact .run_throw _
  | whileBelow n => exact agrees_newClosure (.whileBelow n) .none
  | panic panic => exact agrees_newClosure (.panic panic) .none
  | steps again targets actions => exact agrees_newClosure (.steps again targets actions) .none

/-- Closures of the same user function of the party are tied. -/
theorem agrees_function {body : FunctionBody E.Stimulus}
    (within : FunctionBody.Within S.party body) :
    Agrees S θ (function body).run (function body).run
      (Results (ClosureTied (FunctionBody.Within S.party))) := by
  cases body with
  | own slot =>
    cases within with
    | own hslot =>
      refine .run_bind (agrees_owned hslot) fun θ₁ _ _ _ tied => ?_
      exact agrees_newClosure (.own hslot) tied
  | invalid => exact .run_throw _
  | _ => exact agrees_newClosure within .none

end Attempt

/-! ## Operations in progress -/

/-- What agrees still does while connections that are tied are in use. -/
theorem agrees_engage {id id' : ConnectionId} {m : SessionM E α} {m' : SessionM E β}
    {post : Ties → α → β → Prop} (tied : (id, id') ∈ θ.ids)
    (h : ∀ θ₁, θ ≤ θ₁ → Agrees S θ₁ m m' post)
    (stays : ∀ θ₁ θ₂ a b, θ₁ ≤ θ₂ → post θ₁ a b → post θ₂ a b) :
    Agrees S θ (engage id m) (engage id' m') post := by
  have begun : Agrees S θ (update (E := E) fun s => { s with engaged := id :: s.engaged })
      (update fun s => { s with engaged := id' :: s.engaged }) Anything :=
    fun _ _ alike => ⟨θ, le_refl θ, alike.engage tied, trivial⟩
  refine begun.bind fun θ₁ _ _ le _ => (h θ₁ le).bind fun θ₂ a b le₂ hpost => ?_
  have ended : Agrees S θ₂ (update (E := E) fun s => { s with engaged := s.engaged.erase id })
      (update fun s => { s with engaged := s.engaged.erase id' }) Anything :=
    fun _ _ alike => ⟨θ₂, le_refl θ₂, alike.disengage (le₂.1 (le.1 tied)), trivial⟩
  exact ended.bind fun θ₃ _ _ le₃ _ => .pure (stays θ₂ θ₃ a b le₃ hpost)

/-- Statements that are tied are stepped alike, with callbacks that heed the party. -/
theorem agrees_advance {cb : Callbacks E (host E)} (heeds : Heeds S cb)
    (hslot : S.party.statements slot) {stmt stmt' : Statement} (tied : stmt.Tied θ stmt') :
    Agrees S θ (advance cb slot stmt) (advance cb slot stmt') fun _ a b => a = b := by
  have begun : Agrees S θ (update (E := E) fun s => { s with stepping := slot :: s.stepping })
      (update fun s => { s with stepping := slot :: s.stepping }) Anything :=
    fun _ _ alike => ⟨θ, le_refl θ, alike.startStep hslot, trivial⟩
  refine begun.bind fun θ₁ _ _ le _ => ?_
  have stepped : Agrees S θ₁ (engage stmt.connection (stmt.step cb))
      (engage stmt'.connection (stmt'.step cb)) (GivesBack Statement.Tied) :=
    agrees_engage (le.1 tied.1)
      (fun θ₂ le₂ => Statement.agrees_step heeds (tied.mono (le.trans le₂)))
      fun _ _ _ _ le h => ⟨h.1, h.2.mono le⟩
  refine stepped.bind fun θ₂ r r' _ hr => ?_
  obtain ⟨result, after⟩ := r
  obtain ⟨result', after'⟩ := r'
  obtain ⟨rfl, hafter⟩ := hr
  have ended : Agrees S θ₂ (update (E := E) fun s => { s with stepping := s.stepping.erase slot })
      (update fun s => { s with stepping := s.stepping.erase slot }) Anything :=
    fun _ _ alike => ⟨θ₂, le_refl θ₂, alike.endStep hslot, trivial⟩
  refine ended.bind fun θ₃ _ _ le₃ _ => ?_
  exact (agrees_putStatement hslot (hafter.mono le₃)).bind fun _ _ _ _ _ => .pure rfl

end EngineBridge.Session
