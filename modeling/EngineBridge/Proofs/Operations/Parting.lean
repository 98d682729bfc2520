import EngineBridge.Proofs.Custody.Installing
import EngineBridge.Proofs.Operations.Basic

/-!
# Closures that part

When a closure goes, whatever it has captured goes with it, and that may run code of the program.
By then the closure has left the registry, or it has never been in there.  The connection that it
owns is closed, and the closures of that connection go in turn, so that such code can run while
one connection is being closed within another.

`Parting` says in which worlds it runs, and which connections are being closed there.  Moves lead
to all of these worlds, and the connections that are being closed are in nobody else's hands.
-/

set_option autoImplicit false

namespace EngineBridge

open Native Relation

variable {E : Engine} {H : Host}

/-! ## Where closures part -/

/-- A connection once it has been closed. -/
def Connection.closed (conn : Connection) : Connection :=
  { conn with state := .closed, handle := none }

namespace Bridge

/-- Closures go one after the other, from the world `w` on, and in the world `v` code of one of
them runs: when it starts to go, or when the connection that it owns has gone, or as part of the
closures of that connection.  The connections `closing` are being closed then, the outer ones
first. -/
inductive Parting : List (Registration H) → World E H → List Connection → World E H → Prop
  | starts {r : Registration H} {regs : List (Registration H)} {w : World E H} :
    Parting (r :: regs) w [] w
  /-- The engine has agreed to close the connection that the closure owns. -/
  | within {r : Registration H} {regs : List (Registration H)} {conn : Connection} {d : Database}
      {closing : List Connection} {w v : World E H} (owned : r.owned = some conn)
      (database : conn.database = .ok d)
      (agreed : (w.announced (.closeV2 d)).answer (.closeV2 d) = (0 : Int32))
      (inner : Parting (w.registry.ownedBy conn.id) (w.letGo conn d) closing v) :
    Parting (r :: regs) w (conn.closed :: closing) v
  | ends {r : Registration H} {regs : List (Registration H)} {w v : World E H}
      (gone : (dispose [r]).run w = ((), v)) : Parting (r :: regs) w [] v
  | later {r : Registration H} {regs : List (Registration H)} {closing : List Connection}
      {w w₁ v : World E H} (gone : (dispose [r]).run w = ((), w₁))
      (others : Parting regs w₁ closing v) : Parting (r :: regs) w closing v

/-- The closure in a slot is taken out and parts. -/
def PartsFrom (key : FunctionKey) (w : World E H) (closing : List Connection) (v : World E H) :
    Prop :=
  Parting (w.registry.find? key).toList (w.withRegistry (w.registry.erase key)) closing v

/-- Another closure is put into a slot, and the one that was there before parts. -/
def PartsFor (key : FunctionKey) (r : Registration H) (w : World E H) (closing : List Connection)
    (v : World E H) : Prop :=
  Parting (w.registry.find? key).toList
    ((w.withRegistry (w.registry.insert key r)).record (.reported (.replaced key.slot key.owner)))
    closing v

end Bridge

namespace Connection

/-- A connection is closed, from the world `w` on, and in the world `v` code of a closure runs
that parts then. -/
inductive Parting (conn : Connection) (w : World E H) : List Connection → World E H → Prop
  | closes {d : Database} {closing : List Connection} {v : World E H}
      (database : conn.database = .ok d)
      (agreed : (w.announced (.closeV2 d)).answer (.closeV2 d) = (0 : Int32))
      (inner : Bridge.Parting (w.registry.ownedBy conn.id) (w.letGo conn d) closing v) :
    Parting conn w (conn.closed :: closing) v

/-- The busy slot of a connection. -/
def busySlot (conn : Connection) : FunctionKey := ⟨conn.id, .busyHandler⟩

/-- The slot of a user function of a connection. -/
def functionSlot (conn : Connection) (name : String) (arity : Int32) : FunctionKey :=
  ⟨conn.id, .ofFunction name arity⟩

namespace Operation

/-- An operation changes the callbacks of a connection, from the world `w` on, and in the world
`v` code of a closure runs that parts then: the one that came along, if it is not accepted, or the
one that is in the slot or has just been replaced there. -/
inductive Parting (conn : Connection) :
    Operation H → World E H → List Connection → World E H → Prop
  | busyTimeout {ms : UInt32} {d : Database} {closing : List Connection} {w w₁ v : World E H}
      (database : conn.database = .ok d)
      (agreed : (Fallible.succeed (some d) (.busyTimeout d (nativeMilliseconds ms)) (·)).run.run
        (w.record (.requested conn.id .busyTimeout)) = (.ok (), w₁))
      (parting : Bridge.PartsFrom conn.busySlot w₁ closing v) :
    Parting conn (.busyTimeout ms) w closing v
  | clearBusyHandler {d : Database} {closing : List Connection} {w w₁ v : World E H}
      (database : conn.database = .ok d)
      (agreed : (Fallible.succeed (some d) (.busyHandler d false 0) (·)).run.run
        (w.record (.requested conn.id .clearBusyHandler)) = (.ok (), w₁))
      (parting : Bridge.PartsFrom conn.busySlot w₁ closing v) :
    Parting conn .clearBusyHandler w closing v
  | removeFunction {name : String} {arity : Int32} {d : Database} {text : CString}
      {closing : List Connection} {w w₁ v : World E H} (database : conn.database = .ok d)
      (named : CString.ofText name = .ok text)
      (agreed : (Fallible.succeed (some d) (.createFunctionV2 d text arity
          FunctionFlags.empty.textRepresentation none false false false false) (·)).run.run
        (w.record (.requested conn.id (.removeFunction name arity))) = (.ok (), w₁))
      (parting : Bridge.PartsFrom (conn.functionSlot name arity) w₁ closing v) :
    Parting conn (.removeFunction name arity) w closing v
  | declinedHandler {handler : Closure H.Handler} {e : StateError} {closing : List Connection}
      {w v : World E H} (database : conn.database = .error e)
      (parting : Bridge.Parting [.busy handler]
        (w.record (.requested conn.id (.registerBusyHandler handler.token))) closing v) :
    Parting conn (.registerBusyHandler handler) w closing v
  | replacedHandler {handler : Closure H.Handler} {d : Database} {closing : List Connection}
      {w v : World E H} (database : conn.database = .ok d)
      (parting : Bridge.PartsFor conn.busySlot (.busy handler)
        (w.record (.requested conn.id (.registerBusyHandler handler.token))) closing v) :
    Parting conn (.registerBusyHandler handler) w closing v
  | refusedHandler {handler : Closure H.Handler} {d : Database} {e : BindError}
      {closing : List Connection} {w w₁ w₂ v : World E H} (database : conn.database = .ok d)
      (registered : (Bridge.register conn.busySlot (.busy handler)).run
        (w.record (.requested conn.id (.registerBusyHandler handler.token))) = ((), w₁))
      (refused : (Fallible.succeed (some d) (.busyHandler d true conn.id.number) (·)).run.run w₁ =
        (.error e, w₂))
      (parting : Bridge.PartsFrom conn.busySlot w₂ closing v) :
    Parting conn (.registerBusyHandler handler) w closing v
  | declinedFunction {name : String} {arity : Int32} {flags : FunctionFlags}
      {function : Closure H.Function} {e : BindError} {closing : List Connection}
      {w w₁ v : World E H}
      (refused : (conn.announceFunction name arity flags).run.run
        (w.record (.requested conn.id (.registerFunction name arity function.token))) =
          (.error e, w₁))
      (parting : Bridge.Parting [.function function] w₁ closing v) :
    Parting conn (.registerFunction name arity flags function) w closing v
  | replacedFunction {name : String} {arity : Int32} {flags : FunctionFlags}
      {function : Closure H.Function} {closing : List Connection} {w w₁ v : World E H}
      (agreed : (conn.announceFunction name arity flags).run.run
        (w.record (.requested conn.id (.registerFunction name arity function.token))) =
          (.ok (), w₁))
      (parting : Bridge.PartsFor (conn.functionSlot name arity) (.function function) w₁ closing v) :
    Parting conn (.registerFunction name arity flags function) w closing v

end Operation

end Connection

/-! ## Parting closures and moves -/

variable {κ κ₁ : Custody} {w w₁ v : World E H} {closing : List Connection}
variable {rest : Multiset Connection}

/-- A computation that leads somewhere does so when it is run. -/
theorem Leads.of_run {R : Stage E H → Stage E H → Prop} {α : Type} {m : Bridge E H α} {a : α}
    {post : α → Custody → World E H → Prop} (h : Leads R m κ w post) (run : m.run w = (a, v)) :
    ∃ κ', ReflTransGen R ⟨κ, w⟩ ⟨κ', v⟩ ∧ post a κ' v := by
  obtain ⟨κ', steps, hpost⟩ := h
  have same : m w = (a, v) := run
  rw [same] at steps hpost
  exact ⟨κ', steps, hpost⟩

/-- Moves lead to a world in which some connections are being closed.  These are in nobody else's
hands, and neither are the other ones that were, and others may use what they could. -/
def Custody.Passes (κ : Custody) (w : World E H) (rest : Multiset Connection)
    (closing : List Connection) (v : World E H) : Prop :=
  ∃ κ', Moves ⟨κ, w⟩ ⟨κ', v⟩ ∧ κ'.shared = κ.shared ∧ rest + closing ≤ κ'.exclusive

/-- Moves may come before those by which connections are closed. -/
theorem Custody.Passes.after (h : κ₁.Passes w₁ rest closing v) (moves : Moves ⟨κ, w⟩ ⟨κ₁, w₁⟩)
    (shared : κ₁.shared = κ.shared) : κ.Passes w rest closing v := by
  obtain ⟨κ', more, same, hands⟩ := h
  exact ⟨κ', moves.trans more, same.trans shared, hands⟩

/-- Closures own what the first of them owns and what the others do. -/
theorem capturedBy_cons_eq (r : Registration H) (regs : List (Registration H)) :
    capturedBy (r :: regs) = capturedBy [r] + capturedBy regs := by
  have nothing : capturedBy ([] : List (Registration H)) = 0 := rfl
  rw [capturedBy_cons, capturedBy_cons r [], nothing, add_zero]

/-- The engine agrees to close a connection in nobody else's hands, and its closures are yet to
go. -/
theorem moves_letGo {conn : Connection} {d : Database} (hand : κ.exclusive = conn ::ₘ rest)
    (database : conn.database = .ok d)
    (agreed : (w.announced (.closeV2 d)).answer (.closeV2 d) = (0 : Int32)) :
    Moves ⟨κ, w⟩ ⟨{ κ with exclusive := conn.closed ::ₘ
      (capturedBy (w.registry.ownedBy conn.id) + rest) }, w.letGo conn d⟩ := by
  have announce : Move ⟨κ, w⟩ ⟨κ, w.announced (.closeV2 d)⟩ := .note trivial
  have close := Move.close (w := w.announced (.closeV2 d)) hand database agreed
  exact .head announce (.single close)

/-- Moves lead to wherever code of a parting closure runs. -/
theorem Bridge.Parting.passes {regs : List (Registration H)}
    (h : Bridge.Parting regs w closing v) (hand : κ.exclusive = capturedBy regs + rest) :
    κ.Passes w rest closing v := by
  -- the hands change while closures go, so they are generalized together with the rest
  induction h generalizing κ rest with
  | starts =>
    refine ⟨κ, .refl, rfl, ?_⟩
    rw [hand, Multiset.coe_nil, add_zero]
    exact Multiset.le_add_left _ _
  | @within r regs conn d closing w v owned database agreed inner ih =>
    rw [capturedBy_cons_of_some regs owned, Multiset.cons_add] at hand
    have moves := moves_letGo hand database agreed
    -- inside, the closed connection and what the later closures own belong to the rest
    have inside : conn.closed ::ₘ (capturedBy (w.registry.ownedBy conn.id) +
        (capturedBy regs + rest)) = capturedBy (w.registry.ownedBy conn.id) +
          (conn.closed ::ₘ (capturedBy regs + rest)) := (Multiset.add_cons _ _ _).symm
    obtain ⟨κ', more, shared, hands⟩ := ih (κ := { κ with exclusive := _ }) inside
    refine ⟨κ', moves.trans more, shared, le_trans ?_ hands⟩
    rw [← Multiset.cons_coe, Multiset.add_cons, Multiset.cons_add, Multiset.cons_le_cons_iff]
    exact add_le_add_left (Multiset.le_add_left _ _) _
  | @ends r regs w v gone =>
    rw [capturedBy_cons_eq, add_assoc] at hand
    obtain ⟨_, moves, rfl⟩ := (Bridge.leads_dispose (w := w) hand).of_run gone
    refine ⟨_, moves, rfl, ?_⟩
    rw [Multiset.coe_nil, add_zero]
    exact Multiset.le_add_left _ _
  | @later r regs closing w w₁ v gone others ih =>
    rw [capturedBy_cons_eq, add_assoc] at hand
    obtain ⟨_, moves, rfl⟩ := (Bridge.leads_dispose (w := w) hand).of_run gone
    exact (ih (κ := { κ with exclusive := capturedBy regs + rest }) rfl).after moves rfl

/-- Moves lead to wherever code of a closure runs that parts because its connection is closed. -/
theorem Connection.Parting.passes {conn : Connection} (h : conn.Parting w closing v)
    (hand : κ.exclusive = conn ::ₘ rest) : κ.Passes w rest closing v := by
  obtain ⟨database, agreed, inner⟩ := h
  have moves := moves_letGo hand database agreed
  have inside : conn.closed ::ₘ (capturedBy (w.registry.ownedBy conn.id) + rest) =
      capturedBy (w.registry.ownedBy conn.id) + (conn.closed ::ₘ rest) :=
    (Multiset.add_cons _ _ _).symm
  obtain ⟨κ', more, shared, hands⟩ := inner.passes (κ := { κ with exclusive := _ }) inside
  refine ⟨κ', moves.trans more, shared, ?_⟩
  rw [← Multiset.cons_coe, Multiset.add_cons, ← Multiset.cons_add]
  exact hands

/-- Moves lead to wherever code of a closure runs that another one has replaced. -/
theorem Bridge.PartsFor.passes {key : FunctionKey} {r : Registration H} {w₀ : World E H}
    (h : Bridge.PartsFor key r w closing v)
    (moves : Moves ⟨κ, w₀⟩ ⟨κ₁, w.withRegistry (w.registry.insert key r)⟩)
    (hand : κ₁.exclusive = capturedBy (w.registry.find? key).toList + rest)
    (shared : κ₁.shared = κ.shared) : κ.Passes w₀ rest closing v := by
  have replaced : Move ⟨κ₁, w.withRegistry (w.registry.insert key r)⟩
      ⟨κ₁, (w.withRegistry (w.registry.insert key r)).record
        (.reported (.replaced key.slot key.owner))⟩ := .note trivial
  exact (Bridge.Parting.passes h hand).after (moves.tail replaced) shared

namespace Connection

variable {conn : Connection} {d : Database}

/-- Moves lead to wherever code of a closure runs that is taken out of the busy slot. -/
theorem passes_of_busySlot (hand : conn ∈ κ.shared) (database : conn.database = .ok d)
    (mine : ∀ other token, κ.settling = some (other, token) → other = conn.id)
    (parting : Bridge.PartsFrom conn.busySlot w closing v) :
    κ.Passes w κ.exclusive closing v := by
  have remove := Move.removeBusy (w := w) hand database mine
  exact (Bridge.Parting.passes parting rfl).after (.single remove) rfl

/-- The same after the engine has agreed to something. -/
theorem passes_of_agreed {change : Change} {c : Call} {code : c.Answer → Int32}
    (hand : conn ∈ κ.shared) (database : conn.database = .ok d) (idle : κ.settling = none)
    (within : c.Within (some d) none)
    (agreed : (Fallible.succeed (some d) c code).run.run (w.record (.requested conn.id change)) =
      (.ok (), w₁))
    (parting : Bridge.PartsFrom conn.busySlot w₁ closing v) :
    κ.Passes w κ.exclusive closing v := by
  have request : Move ⟨κ, w⟩ ⟨κ, w.record (.requested conn.id change)⟩ := .note trivial
  obtain ⟨_, moves, rfl⟩ := (leads_set hand database within).of_run agreed
  have passes := passes_of_busySlot hand database (by simp [idle]) parting
  exact passes.after (.head request moves) rfl

/-- Moves lead to wherever code of a closure runs that parts because a busy handler is
registered. -/
theorem passes_of_registerBusyHandler {handler : Closure H.Handler} (hand : conn ∈ κ.shared)
    (owned : κ.exclusive = capturedBy (H := H) [.busy handler] + rest) (idle : κ.settling = none)
    (h : (Operation.registerBusyHandler handler).Parting conn w closing v) :
    κ.Passes w rest closing v := by
  have request : Move ⟨κ, w⟩
      ⟨κ, w.record (.requested conn.id (.registerBusyHandler handler.token))⟩ := .note trivial
  let settling : Custody :=
    { κ with exclusive := rest, settling := some (conn.id, some handler.token) }
  cases h with
  | declinedHandler database parting => exact (parting.passes owned).after (.single request) rfl
  | replacedHandler database parting =>
    have install := Move.installBusy (w := w.record
      (.requested conn.id (.registerBusyHandler handler.token)))
      hand database owned idle List.mem_cons_self
    exact Bridge.PartsFor.passes parting (.head request (.single install)) rfl rfl
  | @refusedHandler _ d e _ _ w₁ w₂ _ database registered refused parting =>
    obtain ⟨_, moves, rfl⟩ := (Bridge.leads_registerBusy hand database owned idle
      List.mem_cons_self).of_run registered
    have call : Leads Move (Fallible.succeed (some d) (.busyHandler d true conn.id.number) (·) :
        Fallible E H Unit).run settling w₁ fun _ κ' _ => κ' = settling :=
      leads_set hand database (.of_database (fun _ => trivial) rfl)
    obtain ⟨_, more, rfl⟩ := call.of_run refused
    have passes : settling.Passes w₂ rest closing v :=
      passes_of_busySlot hand database (by simp [settling]) parting
    exact passes.after (.head request (moves.trans more)) rfl

/-- Moves lead to wherever code of a closure runs that parts because a user function is
registered. -/
theorem passes_of_registerFunction {name : String} {arity : Int32} {flags : FunctionFlags}
    {function : Closure H.Function} (hand : conn ∈ κ.shared)
    (owned : κ.exclusive = capturedBy [.function function] + rest)
    (h : (Operation.registerFunction name arity flags function).Parting conn w closing v) :
    κ.Passes w rest closing v := by
  let requested := w.record (.requested conn.id (.registerFunction name arity function.token))
  have request : Move ⟨κ, w⟩ ⟨κ, requested⟩ := .note trivial
  have announcement := announceFunction_cases (w := requested) name arity flags hand
  cases h with
  | declinedFunction refused parting =>
    -- an announcement that fails leaves the closure in hand
    rcases announcement with ⟨d, text, -, -, -, agreed⟩ | declined
    · cases agreed.symm.trans refused
    · obtain ⟨_, moves, -, rfl⟩ := declined.of_run refused
      exact (parting.passes owned).after (.head request moves) rfl
  | replacedFunction agreed parting =>
    rcases announcement with ⟨d, text, database, named, done, called⟩ | declined
    · cases called.symm.trans agreed
      have announce : Move ⟨κ, requested⟩
          ⟨κ, requested.announced (announcing conn d text name arity flags)⟩ := .note trivial
      have install := Move.installFunction hand database named owned rfl done
      exact Bridge.PartsFor.passes parting (.head request (.head announce (.single install))) rfl rfl
    · obtain ⟨_, -, ⟨e, ⟨⟩⟩, -⟩ := declined.of_run agreed

/-- Moves lead to wherever code of a closure runs that parts because a user function is
removed. -/
theorem passes_of_removeFunction {name : String} {arity : Int32} (hand : conn ∈ κ.shared)
    (h : (Operation.removeFunction (H := H) name arity).Parting conn w closing v) :
    κ.Passes w κ.exclusive closing v := by
  let requested := w.record (.requested conn.id (.removeFunction name arity))
  have request : Move ⟨κ, w⟩ ⟨κ, requested⟩ := .note trivial
  obtain - | - | @⟨_, _, d, text, _, _, w₁, _, database, named, agreed, parting⟩ := h
  let c : Call := .createFunctionV2 d text arity FunctionFlags.empty.textRepresentation none
    false false false false
  by_cases done : (requested.announced c).answer c = (0 : Int32)
  · cases (Fallible.succeed_run (some d) c (·) done).symm.trans agreed
    have announce : Move ⟨κ, requested⟩ ⟨κ, requested.announced c⟩ := .note trivial
    have remove := Move.removeFunction hand database named done
    exact (Bridge.Parting.passes parting rfl).after
      (.head request (.head announce (.single remove))) rfl
  · cases (Fallible.succeed_run_error (some d) c (·) done).symm.trans agreed

/-- Moves lead to wherever code of a closure runs that parts because of an operation. -/
theorem Operation.Parting.passes {op : Operation H} (h : op.Parting conn w closing v)
    (hand : conn ∈ κ.shared) (idle : κ.settling = none)
    (owned : κ.exclusive = capturedBy op.closure.toList + rest) : κ.Passes w rest closing v := by
  have alone (none : op.closure = none) : κ.exclusive = rest := by
    rw [owned, none]
    exact zero_add rest
  cases op with
  | busyTimeout ms =>
    obtain @⟨_, d, _, _, _, _, database, agreed, parting⟩ := h
    have within : (Call.busyTimeout d (nativeMilliseconds ms)).Within (some d) none :=
      .of_database (fun _ => trivial) rfl
    exact alone rfl ▸ passes_of_agreed hand database idle within agreed parting
  | clearBusyHandler =>
    obtain - | @⟨d, _, _, _, _, database, agreed, parting⟩ := h
    have within : (Call.busyHandler d false 0).Within (some d) none :=
      .of_database (fun _ => trivial) rfl
    exact alone rfl ▸ passes_of_agreed hand database idle within agreed parting
  | removeFunction => exact alone rfl ▸ passes_of_removeFunction hand h
  | registerBusyHandler => exact passes_of_registerBusyHandler hand owned idle h
  | registerFunction => exact passes_of_registerFunction hand owned h
  | _ => cases h

end Connection

end EngineBridge
