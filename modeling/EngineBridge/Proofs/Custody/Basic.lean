import EngineBridge.Transcript
import EngineBridge.Upcall
import Mathlib.Data.Multiset.AddSub
import Mathlib.Logic.Relation

/-!
# Custody

The library is safe because of who holds what: a connection that is closed is held by
nobody else, a statement is let go before its connection, and a closure takes along the
connection it owns.  This file says so as a system of moves.  A `Stage` is a world
together with what a program has in hand there, and a `Move` is a smallest change of a
stage that keeps the rules.

What the library and its sessions do comes down to moves (`Leads`), so that an
invariant has to be checked against moves only.
-/

set_option autoImplicit false

namespace EngineBridge

open Native

variable {E : Engine} {H : Host}

/-- What a program has in hand, the closures in the registry left aside. -/
structure Custody where
  /-- The connections that others may use too; a statement depends on one of them. -/
  shared : Multiset Connection := 0
  /-- The connections that nobody else can use and no statement depends on. -/
  exclusive : Multiset Connection := 0
  statements : Multiset Statement := 0
  /-- The object that an attempt to open a connection has brought about so far. -/
  opening : Option Database := none
  /-- The connection whose busy slot is being changed, and the closure that is in the slot
  for the time being. -/
  settling : Option (ConnectionId × Option Nat) := none

/-- A world together with what a program has in hand there. -/
structure Stage (E : Engine) (H : Host) where
  custody : Custody
  world : World E H

/-- The connections that closures in the registry own. -/
def Registry.captured (r : Registry H) : Multiset Connection :=
  (r.entries.filterMap (·.2.owned) : List Connection)

/-- The connections that some closures own. -/
def capturedBy (registrations : List (Registration H)) : Multiset Connection :=
  (registrations.filterMap (·.owned) : List Connection)

namespace World

/-- The world with another registry. -/
def withRegistry (w : World E H) (registry : Registry H) : World E H := { w with registry }

/-- The closure in the busy slot of a connection, by its number. -/
def busyToken (w : World E H) (id : ConnectionId) : Option Nat :=
  match w.registry.find? ⟨id, .busyHandler⟩ with
  | some (.busy handler) => some handler.token
  | _ => none

end World

/-- An entry that changes nothing in the account that the moves keep. -/
def Entry.IsNote : Entry → Prop
  | .reported (.opened ..) | .called .. | .began .. | .ended (.step ..) _ => False
  | .settled _ change _ =>
    (∃ name arity token, change = .registerFunction name arity token) ∨
      ∃ name arity, change = .removeFunction name arity
  | _ => True

/-- A call that, answered so, changes nothing in the account that the moves keep. -/
def Native.Call.IsPlain : (c : Call) → c.Answer → Prop
  | .openV2 .., _ | .closeV2 .., _ | .reset .., _ | .finalize .., _ => False
  | .prepareV2 .., a => ¬ (a.code = 0 ∧ a.program.isSome)
  | .createFunctionV2 .., code => code ≠ 0
  | _, _ => True

/-- The state of a statement after a step that ended with a code. -/
def StatementState.afterStep (code : Int32) : StatementState :=
  if ResultClass.ofCode code = .row then .stepping else .done

namespace Stage

/-- All connections that are held, in hand or by closures in the registry. -/
def held (s : Stage E H) : Multiset Connection :=
  s.custody.shared + s.custody.exclusive + s.world.registry.captured

/-- What others may use is held. -/
theorem mem_held_of_shared {s : Stage E H} {x : Connection} (hand : x ∈ s.custody.shared) :
    x ∈ s.held :=
  Multiset.mem_add.mpr (.inl (Multiset.mem_add.mpr (.inl hand)))

/-- What nobody else can use is held. -/
theorem mem_held_of_exclusive {s : Stage E H} {x : Connection}
    (hand : x ∈ s.custody.exclusive) : x ∈ s.held :=
  Multiset.mem_add.mpr (.inl (Multiset.mem_add.mpr (.inr hand)))

/-- The objects of the engine that a program may name in a call. -/
def Reaches (s : Stage E H) : Operand → Prop
  | .database d =>
    (∃ x ∈ s.held, x.handle = some d) ∨ (∃ t ∈ s.custody.statements, t.database = d) ∨
      s.custody.opening = some d ∨ ∃ id, s.world.target id = some d
  | .program p => ∃ t ∈ s.custody.statements, t.handle = some p
  | _ => True

/-- A change of a busy slot has come to its end in a way that fits what is in the slot. -/
def Settles (change : Change) (result : Except BindError Unit) (token : Option Nat) : Prop :=
  match change, result with
  | .registerBusyHandler new, .ok _ => token = some new
  | .registerBusyHandler _, .error _ => token = none
  | .clearBusyHandler, .ok _ | .busyTimeout, .ok _ => token = none
  | _, _ => False

end Stage

open Stage

/-- The smallest changes of a world and of what a program has in hand. -/
inductive Move : Stage E H → Stage E H → Prop
  /-- The engine goes on by itself. -/
  | engine {κ : Custody} {w : World E H} (state : E.State) :
    Move ⟨κ, w⟩ ⟨κ, { w with engine := state }⟩
  | closure {κ : Custody} {w : World E H} :
    Move ⟨κ, w⟩ ⟨κ, { w with closures := w.closures + 1 }⟩
  | note {κ : Custody} {w : World E H} {entry : Entry} (h : entry.IsNote) :
    Move ⟨κ, w⟩ ⟨κ, w.record entry⟩
  | call {κ : Custody} {w : World E H} {c : Call} (plain : c.IsPlain (w.answer c))
      (reach : ∀ o ∈ c.operands, Reaches ⟨κ, w⟩ o) : Move ⟨κ, w⟩ ⟨κ, w.asked c⟩
  | began {κ : Custody} {w : World E H} {x : Execution}
      (reach : ∀ o ∈ x.operands, Reaches ⟨κ, w⟩ o) : Move ⟨κ, w⟩ ⟨κ, w.record (.began x)⟩
  -- connections
  | create {κ : Custody} {w : World E H} :
    Move ⟨κ, w⟩ ⟨{ κ with exclusive := { id := ⟨w.connections + 1⟩ } ::ₘ κ.exclusive },
      { w with connections := w.connections + 1 }⟩
  | allocate {κ : Custody} {w : World E H} {path : CString} {flags : Int32}
      {vfs : Option CString} (idle : κ.opening = none) :
    Move ⟨κ, w⟩ ⟨{ κ with opening := (w.answer (.openV2 path flags vfs)).database },
      w.asked (.openV2 path flags vfs)⟩
  | abandon {κ : Custody} {w : World E H} {d : Database} (opening : κ.opening = some d) :
    Move ⟨κ, w⟩ ⟨{ κ with opening := none }, w.asked (.closeV2 d)⟩
  | adopt {κ : Custody} {w : World E H} {x : Connection} {rest : Multiset Connection}
      {d : Database} {path : String} (opening : κ.opening = some d)
      (hand : κ.exclusive = x ::ₘ rest) (unopened : x.state = .unopened) :
    Move ⟨κ, w⟩
      ⟨{ κ with
          opening := none
          exclusive := { x with state := .opened, handle := some d, path := path } ::ₘ rest },
        ((Bridge.arm x.id d w).2).record (.reported (.opened x.id path))⟩
  | close {κ : Custody} {w : World E H} {x : Connection} {rest : Multiset Connection}
      {d : Database} (hand : κ.exclusive = x ::ₘ rest) (database : x.database = .ok d)
      (done : w.answer (.closeV2 d) = (0 : Int32)) :
    Move ⟨κ, w⟩
      ⟨{ κ with exclusive := { x with state := .closed, handle := none } ::ₘ
          (capturedBy (w.registry.ownedBy x.id) + rest) },
        ((Bridge.disarm x.id (w.asked (.closeV2 d))).2).withRegistry (w.registry.eraseOwner x.id)⟩
  | refuseClose {κ : Custody} {w : World E H} {x : Connection} {d : Database}
      (hand : x ∈ κ.exclusive) (database : x.database = .ok d)
      (failed : w.answer (.closeV2 d) ≠ (0 : Int32)) : Move ⟨κ, w⟩ ⟨κ, w.asked (.closeV2 d)⟩
  /-- A connection goes out of use; one that is open has been asked to close. -/
  | discard {κ : Custody} {w : World E H} {x : Connection} {rest : Multiset Connection}
      (hand : κ.exclusive = x ::ₘ rest)
      (tried : ∀ d, x.database = .ok d → ∃ code, .called (.closeV2 d) code ∈ w.transcript) :
    Move ⟨κ, w⟩ ⟨{ κ with exclusive := rest }, w⟩
  | reserve {κ : Custody} {w : World E H} {x : Connection} {rest : Multiset Connection}
      (hand : κ.shared = x ::ₘ rest) (free : ∀ t ∈ κ.statements, t.connection ≠ x.id) :
    Move ⟨κ, w⟩ ⟨{ κ with shared := rest, exclusive := x ::ₘ κ.exclusive }, w⟩
  | share {κ : Custody} {w : World E H} {x : Connection} {rest : Multiset Connection}
      (hand : κ.exclusive = x ::ₘ rest) :
    Move ⟨κ, w⟩ ⟨{ κ with shared := x ::ₘ κ.shared, exclusive := rest }, w⟩
  -- statements
  | prepare {κ : Custody} {w : World E H} {x : Connection} {d : Database} {text : CString}
      {size : Int32} {p : Program} (sql : String) (hand : x ∈ κ.shared)
      (database : x.database = .ok d) (done : (w.answer (.prepareV2 d text size)).code = 0)
      (made : (w.answer (.prepareV2 d text size)).program = some p) :
    Move ⟨κ, w⟩
      ⟨{ κ with statements := ⟨x.id, d, some p, .prepared, sql⟩ ::ₘ κ.statements },
        w.asked (.prepareV2 d text size)⟩
  | reset {κ : Custody} {w : World E H} {t : Statement} {rest : Multiset Statement} {p : Program}
      (hand : κ.statements = t ::ₘ rest) (handle : t.handle = some p) :
    Move ⟨κ, w⟩
      ⟨{ κ with statements := { t with state := .prepared } ::ₘ rest }, w.asked (.reset p)⟩
  | step {κ : Custody} {w : World E H} {t : Statement} {rest : Multiset Statement} {p : Program}
      {code : Int32} (hand : κ.statements = t ::ₘ rest) (handle : t.handle = some p) :
    Move ⟨κ, w⟩
      ⟨{ κ with statements := { t with state := .afterStep code } ::ₘ rest },
        w.record (.ended (.step p) code)⟩
  | finalize {κ : Custody} {w : World E H} {t : Statement} {rest : Multiset Statement}
      {p : Program} (hand : κ.statements = t ::ₘ rest) (handle : t.handle = some p) :
    Move ⟨κ, w⟩
      ⟨{ κ with statements := { t with handle := none, state := .finalized } ::ₘ rest },
        w.asked (.finalize p)⟩
  | forget {κ : Custody} {w : World E H} {t : Statement} {rest : Multiset Statement}
      (hand : κ.statements = t ::ₘ rest) (handle : t.handle = none) :
    Move ⟨κ, w⟩ ⟨{ κ with statements := rest }, w⟩
  -- user functions
  | installFunction {κ : Custody} {w : World E H} {x : Connection} {d : Database} {text : CString}
      {name : String} {arity : Int32} {rep : Int32} {function : Closure H.Function}
      {rest : Multiset Connection} {earlier : List Entry} (hand : x ∈ κ.shared)
      (database : x.database = .ok d) (named : CString.ofText name = .ok text)
      (owned : κ.exclusive = capturedBy [.function function] + rest)
      (asked : w.transcript = .reported (.nativeCall .createFunctionV2) ::
        .requested x.id (.registerFunction name arity function.token) :: earlier)
      (done : w.answer (.createFunctionV2 d text arity rep (some ⟨x.id, .ofFunction name arity⟩)
        true false false true) = (0 : Int32)) :
    Move ⟨κ, w⟩
      ⟨{ κ with exclusive :=
          capturedBy (w.registry.find? ⟨x.id, .ofFunction name arity⟩).toList + rest },
        (w.asked (.createFunctionV2 d text arity rep (some ⟨x.id, .ofFunction name arity⟩)
          true false false true)).withRegistry
            (w.registry.insert ⟨x.id, .ofFunction name arity⟩ (.function function))⟩
  | removeFunction {κ : Custody} {w : World E H} {x : Connection} {d : Database} {text : CString}
      {name : String} {arity : Int32} {rep : Int32} (hand : x ∈ κ.shared)
      (database : x.database = .ok d) (named : CString.ofText name = .ok text)
      (done : w.answer (.createFunctionV2 d text arity rep none false false false false) =
        (0 : Int32)) :
    Move ⟨κ, w⟩
      ⟨{ κ with exclusive :=
          capturedBy (w.registry.find? ⟨x.id, .ofFunction name arity⟩).toList + κ.exclusive },
        (w.asked (.createFunctionV2 d text arity rep none false false false false)).withRegistry
          (w.registry.erase ⟨x.id, .ofFunction name arity⟩)⟩
  -- busy handlers
  | installBusy {κ : Custody} {w : World E H} {x : Connection} {handler : Closure H.Handler}
      {d : Database} {rest : Multiset Connection} (hand : x ∈ κ.shared)
      (database : x.database = .ok d)
      (owned : κ.exclusive = capturedBy (H := H) [.busy handler] + rest)
      (idle : κ.settling = none)
      (asked : .requested x.id (.registerBusyHandler handler.token) ∈ w.transcript) :
    Move ⟨κ, w⟩
      ⟨{ κ with
          exclusive := capturedBy (w.registry.find? ⟨x.id, .busyHandler⟩).toList + rest
          settling := some (x.id, some handler.token) },
        w.withRegistry (w.registry.insert ⟨x.id, .busyHandler⟩ (.busy handler))⟩
  | removeBusy {κ : Custody} {w : World E H} {x : Connection} {d : Database} (hand : x ∈ κ.shared)
      (database : x.database = .ok d)
      (mine : ∀ other token, κ.settling = some (other, token) → other = x.id) :
    Move ⟨κ, w⟩
      ⟨{ κ with
          exclusive := capturedBy (w.registry.find? ⟨x.id, .busyHandler⟩).toList + κ.exclusive
          settling := some (x.id, none) },
        w.withRegistry (w.registry.erase ⟨x.id, .busyHandler⟩)⟩
  | settle {κ : Custody} {w : World E H} {id : ConnectionId} {token : Option Nat}
      {change : Change} {result : Except BindError Unit} (mine : κ.settling = some (id, token))
      (fits : Settles change result token) :
    Move ⟨κ, w⟩ ⟨{ κ with settling := none }, w.record (.settled id change result)⟩
  /-- A change of a busy slot fails before anything has changed. -/
  | refuseBusy {κ : Custody} {w : World E H} {x : Connection} {change : Change} {e : BindError}
      (hand : x ∈ κ.shared)
      (early : change = .clearBusyHandler ∨ change = .busyTimeout ∨ ∀ d, x.database ≠ .ok d) :
    Move ⟨κ, w⟩ ⟨κ, w.record (.settled x.id change (.error e))⟩

/-- Any number of moves. -/
abbrev Moves : Stage E H → Stage E H → Prop := Relation.ReflTransGen Move

end EngineBridge
