import EngineBridge.Upcall
import Mathlib.Data.List.Forall2
import Mathlib.Order.Defs.PartialOrder

/-!
# Ties between two runs

Two runs of the same operations need not give the same numbers to their connections and their
closures.  Ties say which connection of the one run stands for which connection of the other
one, and likewise for closures.  Things that happen in the two runs are tied if they differ in
nothing else.

Ties only grow while the two runs go on, and what is tied stays tied.
-/

set_option autoImplicit false

/-- What is related stays related by a weaker relation. -/
theorem Option.Rel.mono {α β : Type} {R R₁ : α → β → Prop} (imp : ∀ a b, R a b → R₁ a b)
    {a : Option α} {b : Option β} (h : Option.Rel R a b) : Option.Rel R₁ a b := by
  cases h with
  | none => exact .none
  | some h => exact .some (imp _ _ h)

namespace EngineBridge

open Native

/-- Pairs in which nothing has two partners. -/
def OneToOne {α β : Type} (pairs : List (α × β)) : Prop :=
  ∀ p ∈ pairs, ∀ q ∈ pairs, p.1 = q.1 ↔ p.2 = q.2

/-- Connections of one run with those of another. -/
abbrev IdTies := List (ConnectionId × ConnectionId)

/-- What of one run corresponds to what of another. -/
structure Ties where
  ids : IdTies := []
  tokens : List (Nat × Nat) := []

/-- What a run knows of its connections and closures. -/
structure Known where
  ids : List ConnectionId
  tokens : List Nat

namespace Ties

instance : Preorder Ties where
  le θ θ₁ := θ.ids ⊆ θ₁.ids ∧ θ.tokens ⊆ θ₁.tokens
  le_refl _ := ⟨List.Subset.refl _, List.Subset.refl _⟩
  le_trans _ _ _ h h₁ := ⟨List.Subset.trans h.1 h₁.1, List.Subset.trans h.2 h₁.2⟩

/-- What is tied in the first run. -/
def left (θ : Ties) : Known := ⟨θ.ids.map (·.1), θ.tokens.map (·.1)⟩

/-- What is tied in the second run. -/
def right (θ : Ties) : Known := ⟨θ.ids.map (·.2), θ.tokens.map (·.2)⟩

end Ties

variable {θ θ₁ : Ties}

/-! ## What is tied -/

/-- Connections that differ in their identity only. -/
def Connection.Tied (θ : Ties) (conn conn' : Connection) : Prop :=
  (conn.id, conn'.id) ∈ θ.ids ∧ conn' = { conn with id := conn'.id }

/-- Statements that differ in the identity of their connection only. -/
def Statement.Tied (θ : Ties) (stmt stmt' : Statement) : Prop :=
  (stmt.connection, stmt'.connection) ∈ θ.ids ∧ stmt' = { stmt with connection := stmt'.connection }

/-- The same slot of connections that are tied. -/
def FunctionKey.Tied (ids : IdTies) (key key' : FunctionKey) : Prop :=
  (key.owner, key'.owner) ∈ ids ∧ key.slot = key'.slot

/-- Changes that differ in the number of the closure only. -/
inductive Change.Tied (θ : Ties) : Change → Change → Prop
  | busyTimeout : Tied θ .busyTimeout .busyTimeout
  | registerBusyHandler {token token' : Nat} (h : (token, token') ∈ θ.tokens) :
      Tied θ (.registerBusyHandler token) (.registerBusyHandler token')
  | clearBusyHandler : Tied θ .clearBusyHandler .clearBusyHandler
  | registerFunction (name : String) (arity : Int32) {token token' : Nat}
      (h : (token, token') ∈ θ.tokens) :
      Tied θ (.registerFunction name arity token) (.registerFunction name arity token')
  | removeFunction (name : String) (arity : Int32) :
      Tied θ (.removeFunction name arity) (.removeFunction name arity)

/-- The event is about no connection. -/
def Event.Nameless : Event → Prop
  | .opened .. | .closed .. | .closeFailed .. | .prepared .. | .replaced .. => False
  | .handlerPanicked .. => False
  | _ => True

/-- Events that differ in the identity of a connection only. -/
inductive Event.Tied (θ : Ties) : Event → Event → Prop
  | nameless {event : Event} (h : event.Nameless) : Tied θ event event
  | opened {id id' : ConnectionId} (path : String) (h : (id, id') ∈ θ.ids) :
      Tied θ (.opened id path) (.opened id' path)
  | closed {id id' : ConnectionId} (released : Nat) (h : (id, id') ∈ θ.ids) :
      Tied θ (.closed id released) (.closed id' released)
  | closeFailed {id id' : ConnectionId} (cause : BindError) (h : (id, id') ∈ θ.ids) :
      Tied θ (.closeFailed id cause) (.closeFailed id' cause)
  | prepared {id id' : ConnectionId} (sql : String) (h : (id, id') ∈ θ.ids) :
      Tied θ (.prepared id sql) (.prepared id' sql)
  | replaced {id id' : ConnectionId} (slot : Slot) (h : (id, id') ∈ θ.ids) :
      Tied θ (.replaced slot id) (.replaced slot id')
  | handlerPanicked {id id' : ConnectionId} (message : String) (h : (id, id') ∈ θ.ids) :
      Tied θ (.handlerPanicked id message) (.handlerPanicked id' message)

namespace Native

/-- Neither the call nor its answer has to do with the context of a callback. -/
def Call.Contextless : Call → Prop
  | .busyHandler _ installed _ => installed = false
  | .createFunctionV2 _ _ _ _ context _ _ _ _ => context = none
  | .userData _ => False
  | _ => True

/-- Calls that differ in the context of a callback only. -/
inductive Call.Tied (ids : IdTies) : Call → Call → Prop
  | contextless {c : Call} (h : c.Contextless) : Tied ids c c
  | busyHandler (d : Database) {id id' : ConnectionId} (h : (id, id') ∈ ids) :
      Tied ids (.busyHandler d true id.number) (.busyHandler d true id'.number)
  | createFunctionV2 (d : Database) (name : CString) (arity textRepresentation : Int32)
      {key key' : FunctionKey} (scalar step final destroy : Bool) (h : key.Tied ids key') :
      Tied ids
        (.createFunctionV2 d name arity textRepresentation (some key) scalar step final destroy)
        (.createFunctionV2 d name arity textRepresentation (some key') scalar step final destroy)
  | userData (context : Context) : Tied ids (.userData context) (.userData context)

/-- Calls that are tied go to the same export. -/
theorem Call.Tied.symbol_eq {ids : IdTies} {c c' : Call} (h : c.Tied ids c') :
    c.symbol = c'.symbol := by
  cases h with
  | contextless => rfl
  | busyHandler => rfl
  | createFunctionV2 => rfl
  | userData => rfl

/-- Calls with their answers that differ in the context of a callback only. -/
inductive Answered (ids : IdTies) : (c : Call) → c.Answer → (c' : Call) → c'.Answer → Prop
  | contextless {c : Call} (h : c.Contextless) (answer : c.Answer) : Answered ids c answer c answer
  | busyHandler (d : Database) {id id' : ConnectionId} (h : (id, id') ∈ ids) (code : Int32) :
      Answered ids (.busyHandler d true id.number) code (.busyHandler d true id'.number) code
  | createFunctionV2 (d : Database) (name : CString) (arity textRepresentation : Int32)
      {key key' : FunctionKey} (scalar step final destroy : Bool) (h : key.Tied ids key')
      (code : Int32) :
      Answered ids
        (.createFunctionV2 d name arity textRepresentation (some key) scalar step final destroy)
        code
        (.createFunctionV2 d name arity textRepresentation (some key') scalar step final destroy)
        code
  | userData (context : Context) {key key' : Option FunctionKey}
      (h : Option.Rel (FunctionKey.Tied ids) key key') :
      Answered ids (.userData context) key (.userData context) key'

/-- Only the answers to questions for a context differ. -/
theorem Answered.heq {ids : IdTies} {c c' : Call} {answer : c.Answer} {answer' : c'.Answer}
    (h : Answered ids c answer c' answer') (other : ∀ context, c ≠ .userData context) :
    HEq answer answer' := by
  cases h with
  | contextless => exact HEq.rfl
  | busyHandler => exact HEq.rfl
  | createFunctionV2 => exact HEq.rfl
  | userData context => exact absurd rfl (other context)

/-- A call that has nothing to do with a context has the same answer in both runs. -/
theorem Answered.eq {ids : IdTies} {c : Call} {answer answer' : c.Answer}
    (h : Answered ids c answer c answer') (contextless : c.Contextless) : answer = answer' := by
  refine eq_of_heq (h.heq ?_)
  rintro context rfl
  exact contextless

/-- The contexts in the answers to a question for one are tied. -/
theorem Answered.keys {ids : IdTies} {context : Context} {key key' : Option FunctionKey}
    (h : Answered ids (.userData context) key (.userData context) key') :
    Option.Rel (FunctionKey.Tied ids) key key' := by
  cases h with
  | contextless contextless => exact contextless.elim
  | userData _ h => exact h

end Native

/-- Things that happen in the two runs, and differ in nothing but identities. -/
inductive Entry.Tied (θ : Ties) : Entry → Entry → Prop
  | called {c c' : Call} {answer : c.Answer} {answer' : c'.Answer}
      (h : Answered θ.ids c answer c' answer') : Tied θ (.called c answer) (.called c' answer')
  | began (execution : Execution) : Tied θ (.began execution) (.began execution)
  | ended (execution : Execution) (code : Int32) :
      Tied θ (.ended execution code) (.ended execution code)
  | reported {event event' : Event} (h : event.Tied θ event') :
      Tied θ (.reported event) (.reported event')
  | handled {token token' : Nat} (attempts : UInt32) (h : (token, token') ∈ θ.tokens) :
      Tied θ (.handled token attempts) (.handled token' attempts)
  | invoked {token token' : Nat} (arguments : List Value) (h : (token, token') ∈ θ.tokens) :
      Tied θ (.invoked token arguments) (.invoked token' arguments)
  | requested {id id' : ConnectionId} {change change' : Change} (h : (id, id') ∈ θ.ids)
      (hchange : change.Tied θ change') : Tied θ (.requested id change) (.requested id' change')
  | settled {id id' : ConnectionId} {change change' : Change} (result : Except BindError Unit)
      (h : (id, id') ∈ θ.ids) (hchange : change.Tied θ change') :
      Tied θ (.settled id change result) (.settled id' change' result)

/-- A connection that is tied to another one has the same state and the same object. -/
theorem Connection.Tied.exists_eq {conn conn' : Connection} (h : conn.Tied θ conn') :
    ∃ id', (conn.id, id') ∈ θ.ids ∧ conn' = { conn with id := id' } :=
  ⟨conn'.id, h⟩

/-- The second of two statements that are tied is the first with another connection. -/
theorem Statement.Tied.exists_eq {stmt stmt' : Statement} (h : stmt.Tied θ stmt') :
    ∃ id', (stmt.connection, id') ∈ θ.ids ∧ stmt' = { stmt with connection := id' } :=
  ⟨stmt'.connection, h⟩

/-! ## What is tied stays tied -/

/-- Connections stay tied when more is. -/
theorem Connection.Tied.mono (le : θ ≤ θ₁) {conn conn' : Connection} (h : conn.Tied θ conn') :
    conn.Tied θ₁ conn' :=
  ⟨le.1 h.1, h.2⟩

/-- Statements stay tied when more is. -/
theorem Statement.Tied.mono (le : θ ≤ θ₁) {stmt stmt' : Statement} (h : stmt.Tied θ stmt') :
    stmt.Tied θ₁ stmt' :=
  ⟨le.1 h.1, h.2⟩

/-- Slots stay tied when more connections are. -/
theorem FunctionKey.Tied.mono {ids ids₁ : IdTies} (le : ids ⊆ ids₁) {key key' : FunctionKey}
    (h : key.Tied ids key') : key.Tied ids₁ key' :=
  ⟨le h.1, h.2⟩

/-- Changes stay tied when more is. -/
theorem Change.Tied.mono (le : θ ≤ θ₁) {change change' : Change} (h : change.Tied θ change') :
    change.Tied θ₁ change' := by
  cases h with
  | busyTimeout => exact .busyTimeout
  | registerBusyHandler h => exact .registerBusyHandler (le.2 h)
  | clearBusyHandler => exact .clearBusyHandler
  | registerFunction name arity h => exact .registerFunction name arity (le.2 h)
  | removeFunction name arity => exact .removeFunction name arity

/-- Events stay tied when more is. -/
theorem Event.Tied.mono (le : θ ≤ θ₁) {event event' : Event} (h : event.Tied θ event') :
    event.Tied θ₁ event' := by
  cases h with
  | nameless h => exact .nameless h
  | opened path h => exact .opened path (le.1 h)
  | closed released h => exact .closed released (le.1 h)
  | closeFailed cause h => exact .closeFailed cause (le.1 h)
  | prepared sql h => exact .prepared sql (le.1 h)
  | replaced slot h => exact .replaced slot (le.1 h)
  | handlerPanicked message h => exact .handlerPanicked message (le.1 h)

/-- Calls stay tied when more connections are. -/
theorem Native.Call.Tied.mono {ids ids₁ : IdTies} (le : ids ⊆ ids₁) {c c' : Call}
    (h : c.Tied ids c') : c.Tied ids₁ c' := by
  cases h with
  | contextless h => exact .contextless h
  | busyHandler d h => exact .busyHandler d (le h)
  | createFunctionV2 d name arity rep scalar step final destroy h =>
    exact .createFunctionV2 d name arity rep scalar step final destroy (h.mono le)
  | userData context => exact .userData context

/-- Answers stay tied when more connections are. -/
theorem Native.Answered.mono {ids ids₁ : IdTies} (le : ids ⊆ ids₁) {c c' : Call}
    {answer : c.Answer} {answer' : c'.Answer} (h : Answered ids c answer c' answer') :
    Answered ids₁ c answer c' answer' := by
  cases h with
  | contextless h => exact .contextless h answer
  | busyHandler d h code => exact .busyHandler d (le h) code
  | createFunctionV2 d name arity rep scalar step final destroy h code =>
    exact .createFunctionV2 d name arity rep scalar step final destroy (h.mono le) code
  | userData context h => exact .userData context (h.mono fun _ _ h => h.mono le)

/-- Entries stay tied when more is. -/
theorem Entry.Tied.mono (le : θ ≤ θ₁) {entry entry' : Entry} (h : entry.Tied θ entry') :
    entry.Tied θ₁ entry' := by
  cases h with
  | called h => exact .called (h.mono le.1)
  | began execution => exact .began execution
  | ended execution code => exact .ended execution code
  | reported h => exact .reported (h.mono le)
  | handled attempts h => exact .handled attempts (le.2 h)
  | invoked arguments h => exact .invoked arguments (le.2 h)
  | requested h hchange => exact .requested (le.1 h) (hchange.mono le)
  | settled result h hchange => exact .settled result (le.1 h) (hchange.mono le)

end EngineBridge
