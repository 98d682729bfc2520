import EngineBridge.Proofs.Isolation.Disposal
import EngineBridge.Proofs.Isolation.Statements

/-!
# Operations on connections agree

Every operation on a connection, done in one world to a connection and in another one to the
connection that it is tied to, does the same for the party that has them.
-/

set_option autoImplicit false

namespace EngineBridge

open Native Session

variable {E : Engine} {S : Setting E} {θ : Ties} {α : Type}

/-! ## Closing -/

namespace Connection

variable {dispose dispose' : List (Registration (host E)) → SessionM E Unit}
  {conn conn' : Connection}

/-- Closures that are tied are let go in the same way. -/
abbrev Disposes (S : Setting E)
    (dispose dispose' : List (Registration (host E)) → SessionM E Unit) : Prop :=
  ∀ θ regs regs', List.Forall₂ (RegistrationTied S.party θ) regs regs' →
    Agrees S θ (dispose regs) (dispose' regs') Anything

/-- Interrupts for connections that are tied are stopped alike. -/
theorem agrees_disarm {id id' : ConnectionId} (tied : (id, id') ∈ θ.ids) :
    Agrees S θ (Bridge.disarm id : SessionM E Unit) (Bridge.disarm id') Anything :=
  fun _ _ alike => ⟨θ, le_refl θ, alike.disarm tied, trivial⟩

/-- What connections that are tied own is taken out of both registries. -/
theorem agrees_eraseOwner {id id' : ConnectionId} (tied : (id, id') ∈ θ.ids) :
    Agrees S θ
      (modifyGet fun w => (w.registry.ownedBy id, { w with registry := w.registry.eraseOwner id }) :
        SessionM E (List (Registration (host E))))
      (modifyGet fun w =>
        (w.registry.ownedBy id', { w with registry := w.registry.eraseOwner id' }))
      fun θ₁ => List.Forall₂ (RegistrationTied S.party θ₁) :=
  .modifyGet fun _ _ alike => ⟨alike.eraseOwner tied, alike.ownedBy tied⟩

/-- Connections that are tied are closed alike, if closures are let go alike. -/
theorem agrees_closeWith (disposes : Disposes S dispose dispose') (tied : conn.Tied θ conn') :
    Agrees S θ (conn.closeWith dispose) (conn'.closeWith dispose')
      (GivesBack Connection.Tied) := by
  obtain ⟨id', hid, rfl⟩ := tied.exists_eq
  have database : ({ conn with id := id' } : Connection).database = conn.database := rfl
  unfold closeWith
  rw [database]
  cases conn.database with
  | error e => exact .pure ⟨rfl, tied⟩
  | ok d =>
    have called : Repeats S (Bridge.call (.closeV2 d) : SessionM E Int32) := .call trivial
    refine (called θ).bind fun θ₁ code _ le heq => ?_
    subst heq
    have hid₁ := le.1 hid
    dsimp only
    split
    · refine (agrees_disarm hid₁).bind fun θ₂ _ _ le₂ _ => ?_
      have hid₂ := le₂.1 hid₁
      refine (agrees_eraseOwner hid₂).bind fun θ₃ released released' le₃ hreleased => ?_
      have hid₃ := le₃.1 hid₂
      refine (disposes θ₃ released released' hreleased).bind fun θ₄ _ _ le₄ _ => ?_
      have hid₄ := le₄.1 hid₃
      rw [hreleased.length_eq]
      exact .bind (.report (.closed _ hid₄)) fun θ₅ _ _ le₅ _ => .pure ⟨rfl, le₅.1 hid₄, rfl⟩
    · refine .bind (Repeats.diagnose _ _ _ θ₁) fun θ₂ e _ le₂ heq => ?_
      subst heq
      exact .pure ⟨rfl, le₂.1 hid₁, rfl⟩

/-- Connections that are tied go out of use alike, if closures are let go alike. -/
theorem agrees_dropWith (disposes : Disposes S dispose dispose') (tied : conn.Tied θ conn') :
    Agrees S θ (conn.dropWith dispose) (conn'.dropWith dispose') Anything := by
  have closed := agrees_closeWith disposes tied
  obtain ⟨id', hid, rfl⟩ := tied.exists_eq
  unfold dropWith
  dsimp only
  split
  · refine closed.bind fun θ₁ r r' le hr => ?_
    rw [← hr.1]
    split
    · exact .pure trivial
    · exact .report (.closeFailed _ (le.1 hid))
  · exact .pure trivial

end Connection

namespace Bridge

open Connection

/-- Closures that are tied are let go alike, however deep they are nested. -/
theorem agrees_disposeTo (depth : Nat) :
    Disposes S (disposeTo depth) (disposeTo depth) := by
  induction depth with
  | zero => exact fun θ _ _ _ => .pure trivial
  | succ depth ih =>
    intro θ regs regs' tied
    refine Agrees.forM (fun _ _ _ _ le h => h.mono le) (fun θ₁ r r' hr => ?_) tied
    have owned := hr.owned
    generalize r.owned = owner at owned
    generalize r'.owned = owner' at owned
    cases owned with
    | none => exact .pure trivial
    | some h => exact agrees_dropWith ih h

/-- Closures are let go, whatever the sizes of the two registries. -/
theorem agrees_dispose :
    Disposes S (dispose (E := E)) dispose := by
  intro θ regs regs' tied w w' alike
  -- the two registries differ in size, since others have closures in the first one
  have left : w.registry.size < max w.registry.size w'.registry.size + 1 := by omega
  have right : w'.registry.size < max w.registry.size w'.registry.size + 1 := by omega
  rw [dispose_eq left, dispose_eq right]
  exact agrees_disposeTo _ θ regs regs' tied w w' alike

variable {key key' : FunctionKey} {r r' : Registration (host E)}

/-- Closures that are tied go alike when others take their place. -/
theorem agrees_supersede {replaced replaced' : Option (Registration (host E))}
    (tied : key.Tied θ.ids key')
    (hr : Option.Rel (RegistrationTied S.party θ) replaced replaced') :
    Agrees S θ (supersede key replaced)
      (supersede key' replaced') Anything := by
  cases hr with
  | none => exact .pure trivial
  | some hr =>
    have replaced : Event.Tied θ (.replaced key.slot key.owner) (.replaced key'.slot key'.owner) :=
      tied.2 ▸ .replaced _ tied.1
    refine .bind (.report replaced) fun θ₁ _ _ le _ => ?_
    exact agrees_dispose θ₁ _ _ (.cons (hr.mono le) .nil)

/-- Closures that are tied are registered alike. -/
theorem agrees_register (tied : key.Tied θ.ids key') (hr : RegistrationTied S.party θ r r') :
    Agrees S θ (register key r) (register key' r')
      Anything := by
  have inserted : Agrees S θ
      (modifyGet fun w =>
        (w.registry.find? key, { w with registry := w.registry.insert key r }) : SessionM E _)
      (modifyGet fun w =>
        (w.registry.find? key', { w with registry := w.registry.insert key' r' }))
      fun θ₁ => Option.Rel (RegistrationTied S.party θ₁) :=
    .modifyGet fun _ _ alike => ⟨alike.insert tied hr, alike.find tied⟩
  exact inserted.bind fun θ₁ _ _ le found => agrees_supersede (tied.mono le.1) found

/-- Slots that are tied are emptied alike. -/
theorem agrees_release (tied : key.Tied θ.ids key') :
    Agrees S θ (release key : SessionM E Unit)
      (release key') Anything := by
  have erased : Agrees S θ
      (modifyGet fun w =>
        (w.registry.find? key, { w with registry := w.registry.erase key }) : SessionM E _)
      (modifyGet fun w => (w.registry.find? key', { w with registry := w.registry.erase key' }))
      fun θ₁ => Option.Rel (RegistrationTied S.party θ₁) :=
    .modifyGet fun _ _ alike => ⟨alike.erase tied, alike.find tied⟩
  refine erased.bind fun θ₁ removed removed' _ found => ?_
  refine agrees_dispose θ₁ _ _ ?_
  cases found with
  | none => exact .nil
  | some h => exact .cons h .nil

end Bridge

end EngineBridge
