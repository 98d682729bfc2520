import EngineBridge.Proofs.Isolation.Ties
import EngineBridge.Session.Run

/-!
# Parties of a session

A party has slots of its own and takes steps on these only, also in its callbacks, and what a
callback owns comes out of a slot of the same party.

What a party registers, and what its steps report, is tied in two runs if it differs in the
identities of connections and the numbers of closures only.
-/

set_option autoImplicit false

namespace EngineBridge

/-- Results that are tied, or else the same error. -/
inductive ResultTied {ε α β : Type} (R : α → β → Prop) : Except ε α → Except ε β → Prop
  | ok {a : α} {b : β} (h : R a b) : ResultTied R (.ok a) (.ok b)
  | error (e : ε) : ResultTied R (.error e) (.error e)

/-- Results stay tied by a weaker relation. -/
theorem ResultTied.mono {ε α β : Type} {R R₁ : α → β → Prop} (imp : ∀ a b, R a b → R₁ a b)
    {a : Except ε α} {b : Except ε β} (h : ResultTied R a b) : ResultTied R₁ a b := by
  cases h with
  | ok h => exact .ok (imp _ _ h)
  | error e => exact .error e

namespace Session

open Native

variable {E : Engine} {ι : Type} {θ θ₁ : Ties}

/-- The slots of a party. -/
structure Party where
  connections : String → Prop
  statements : String → Prop
  interrupts : String → Prop

/-- The slots that a step names are those of a party. -/
def Target.Within (P : Party) (t : Target) : Prop :=
  (∀ slot, t.connection = some slot → P.connections slot) ∧
    ∀ slot, t.statement = some slot → P.statements slot

/-- What a step does to a connection, when it makes no callback and fills no other slot. -/
def Action.IsPlain : Action ι → Prop
  | .create | .connect .. | .openWith .. | .close | .dropConnection | .executeBatch _ => True
  | .busyTimeout _ | .clearBusyHandler | .removeFunction .. | .errmsg | .version => True
  | .changes | .totalChanges | .limit .. | .enableLoadExtension _ | .interrupt => True
  | .describeConnection => True
  | _ => False

/-- What a step does to a statement, once it has been prepared. -/
def Action.IsOnStatement : Action ι → Prop
  | .dropStatement | .step | .reset | .finalize | .query _ | .describeStatement => True
  | _ => False

mutual

/-- Everything that a step does concerns the slots of a party, and what callbacks do does so
too.  No step changes the settings that all connections share. -/
inductive Action.Within (P : Party) : Target → Action ι → Prop
  | plain {t : Target} {action : Action ι} (plain : action.IsPlain)
      (slot : P.connections t.connectionSlot) : Action.Within P t action
  | registerBusyHandler {t : Target} {body : HandlerBody ι} (slot : P.connections t.connectionSlot)
      (within : HandlerBody.Within P body) : Action.Within P t (.registerBusyHandler body)
  | registerFunction {t : Target} {body : FunctionBody ι} (name : String) (arity : Int32)
      (flags : FunctionFlags) (slot : P.connections t.connectionSlot)
      (within : FunctionBody.Within P body) :
      Action.Within P t (.registerFunction name arity flags body)
  | keepInterruptHandle {t : Target} {kept : String} (slot : P.connections t.connectionSlot)
      (within : P.interrupts kept) : Action.Within P t (.keepInterruptHandle kept)
  | interruptBy {t : Target} {kept : String} (within : P.interrupts kept) :
      Action.Within P t (.interruptBy kept)
  | prepare {t : Target} (sql : String) (slot : P.connections t.connectionSlot)
      (within : P.statements t.statementSlot) : Action.Within P t (.prepare sql)
  | onStatement {t : Target} {action : Action ι} (statement : action.IsOnStatement)
      (slot : P.statements t.statementSlot) : Action.Within P t action
  | stimulate {t : Target} (stimulus : ι) : Action.Within P t (.stimulate stimulus)
  | invalid {t : Target} : Action.Within P t .invalid

/-- What a busy handler does concerns the slots of a party. -/
inductive HandlerBody.Within (P : Party) : HandlerBody ι → Prop
  | whileBelow (n : Int) : HandlerBody.Within P (.whileBelow n)
  | panic (panic : Panic) : HandlerBody.Within P (.panic panic)
  | steps {steps : List (Target × Action ι)} (again : Bool)
      (targets : ∀ step ∈ steps, step.1.Within P)
      (actions : ∀ step ∈ steps, Action.Within P step.1 step.2) :
      HandlerBody.Within P (.steps steps again)
  | own {slot : String} (within : P.connections slot) : HandlerBody.Within P (.own slot)
  | invalid : HandlerBody.Within P .invalid

/-- What a user function does concerns the slots of a party. -/
inductive FunctionBody.Within (P : Party) : FunctionBody ι → Prop
  | constant (value : Value) : FunctionBody.Within P (.constant value)
  | argument (n : Int) : FunctionBody.Within P (.argument n)
  | describe : FunctionBody.Within P .describe
  | count : FunctionBody.Within P .count
  | sum : FunctionBody.Within P .sum
  | text : FunctionBody.Within P .text
  | kinds : FunctionBody.Within P .kinds
  | error (message : String) : FunctionBody.Within P (.error message)
  | panic (panic : Panic) : FunctionBody.Within P (.panic panic)
  | runs : FunctionBody.Within P .runs
  | steps {steps : List (Target × Action ι)} (targets : ∀ step ∈ steps, step.1.Within P)
      (actions : ∀ step ∈ steps, Action.Within P step.1 step.2) :
      FunctionBody.Within P (.steps steps)
  | own {slot : String} (within : P.connections slot) : FunctionBody.Within P (.own slot)
  | invalid : FunctionBody.Within P .invalid

end

/-- The step is one of a party. -/
def Step.Within (P : Party) (step : Step ι) : Prop :=
  step.1.Within P ∧ Action.Within P step.1 step.2

/-! ## What parties register -/

/-- Closures of a party with the same code, which own connections that are tied, if any. -/
structure ClosureTied {Code : Type} (within : Code → Prop) (θ : Ties) (c c' : Closure Code) :
    Prop where
  token : (c.token, c'.token) ∈ θ.tokens
  code : c'.code = c.code
  within : within c.code
  owned : Option.Rel (Connection.Tied θ) c.owned c'.owned

/-- Closures of the same kind that are tied. -/
inductive RegistrationTied (P : Party) (θ : Ties) :
    Registration (host E) → Registration (host E) → Prop
  | busy {c c' : Closure (HandlerBody E.Stimulus)} (h : ClosureTied (HandlerBody.Within P) θ c c') :
      RegistrationTied P θ (.busy c) (.busy c')
  | function {c c' : Closure (FunctionBody E.Stimulus)}
      (h : ClosureTied (FunctionBody.Within P) θ c c') :
      RegistrationTied P θ (.function c) (.function c')

/-- The same slot with closures that are tied. -/
def SlotTied (P : Party) (θ : Ties) (entry entry' : EngineBridge.Slot × Registration (host E)) :
    Prop :=
  entry.1 = entry'.1 ∧ RegistrationTied P θ entry.2 entry'.2

/-- Closures stay tied when more is. -/
theorem ClosureTied.mono {Code : Type} {within : Code → Prop} (le : θ ≤ θ₁) {c c' : Closure Code}
    (h : ClosureTied within θ c c') : ClosureTied within θ₁ c c' where
  token := le.2 h.token
  code := h.code
  within := h.within
  owned := h.owned.mono fun _ _ h => h.mono le

/-- Registrations stay tied when more is. -/
theorem RegistrationTied.mono {P : Party} (le : θ ≤ θ₁) {r r' : Registration (host E)}
    (h : RegistrationTied P θ r r') : RegistrationTied P θ₁ r r' := by
  cases h with
  | busy h => exact .busy (h.mono le)
  | function h => exact .function (h.mono le)

/-- Registrations that are tied own connections that are tied, or none. -/
theorem RegistrationTied.owned {P : Party} {r r' : Registration (host E)}
    (h : RegistrationTied P θ r r') : Option.Rel (Connection.Tied θ) r.owned r'.owned := by
  cases h with
  | busy h => exact h.owned
  | function h => exact h.owned

/-- Slots stay tied when more is. -/
theorem SlotTied.mono {P : Party} (le : θ ≤ θ₁)
    {entry entry' : EngineBridge.Slot × Registration (host E)} (h : SlotTied P θ entry entry') :
    SlotTied P θ₁ entry entry' :=
  ⟨h.1, h.2.mono le⟩

/-! ## What steps report -/

/-- What a step gives, apart from identities. -/
inductive PayloadTied {ρ : Type} (θ : Ties) : Payload ρ → Payload ρ → Prop
  | nothing : PayloadTied θ .nothing .nothing
  | integer (n : Int) : PayloadTied θ (.integer n) (.integer n)
  | real (x : Binary64) : PayloadTied θ (.real x) (.real x)
  | text (text : Option String) : PayloadTied θ (.text text) (.text text)
  | octets (bs : Option Bytes) : PayloadTied θ (.octets bs) (.octets bs)
  | value (value : Value) : PayloadTied θ (.value value) (.value value)
  | connection {conn conn' : Connection} (h : conn.Tied θ conn') :
      PayloadTied θ (.connection conn) (.connection conn')
  | statement {stmt stmt' : Statement} (h : stmt.Tied θ stmt') :
      PayloadTied θ (.statement stmt) (.statement stmt')
  | response (response : ρ) : PayloadTied θ (.response response) (.response response)

/-- Reports that differ in identities only. -/
structure ReportTied {ρ : Type} (θ : Ties) (r r' : Report ρ) : Prop where
  result : ResultTied (PayloadTied θ) r.result r'.result
  connection : r.connection = r'.connection
  statement : r.statement = r'.statement

/-- Records that differ in identities only. -/
structure RecordTied {ρ : Type} (θ : Ties) (r r' : Record ρ) : Prop where
  report : ReportTied θ r.report r'.report
  nested : List.Forall₂ (ReportTied θ) r.nested r'.nested
  entries : List.Forall₂ (Entry.Tied θ) r.entries r'.entries

/-- Payloads stay tied when more is. -/
theorem PayloadTied.mono {ρ : Type} (le : θ ≤ θ₁) {payload payload' : Payload ρ}
    (h : PayloadTied θ payload payload') : PayloadTied θ₁ payload payload' := by
  cases h with
  | nothing => exact .nothing
  | integer n => exact .integer n
  | real x => exact .real x
  | text text => exact .text text
  | octets bs => exact .octets bs
  | value value => exact .value value
  | connection h => exact .connection (h.mono le)
  | statement h => exact .statement (h.mono le)
  | response response => exact .response response

/-- Reports stay tied when more is. -/
theorem ReportTied.mono {ρ : Type} (le : θ ≤ θ₁) {r r' : Report ρ} (h : ReportTied θ r r') :
    ReportTied θ₁ r r' :=
  { h with result := h.result.mono fun _ _ h => h.mono le }

/-- Records stay tied when more is. -/
theorem RecordTied.mono {ρ : Type} (le : θ ≤ θ₁) {r r' : Record ρ} (h : RecordTied θ r r') :
    RecordTied θ₁ r r' where
  report := h.report.mono le
  nested := h.nested.imp fun _ _ h => h.mono le
  entries := h.entries.imp fun _ _ h => h.mono le

end Session

end EngineBridge
