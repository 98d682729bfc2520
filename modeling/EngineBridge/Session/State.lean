import EngineBridge.Session.Step

/-!
# The state of a session

The slots, what is in use while callbacks run, and what steps report.
-/

set_option autoImplicit false

namespace EngineBridge.Session

open Native

/-- Entries in the order of their names with one more, in place of any other of its
name. -/
def place {α : Type} (name : String) (value : α) : List (String × α) → List (String × α)
  | [] => [(name, value)]
  | (other, v) :: rest =>
    if name < other then (name, value) :: (other, v) :: rest
    else if name = other then (name, value) :: rest
    else (other, v) :: place name value rest

/-- Only the name that is placed is added. -/
theorem name_mem_place {α : Type} {name : String} {value : α} {entries : List (String × α)}
    {entry : String × α} (h : entry ∈ place name value entries) :
    entry = (name, value) ∨ entry ∈ entries := by
  induction entries with
  | nil => simpa [place] using h
  | cons first rest ih =>
    obtain ⟨other, v⟩ := first
    simp only [place] at h
    split at h
    · simpa using h
    · split at h
      · rcases List.mem_cons.mp h with h | h
        · exact .inl h
        · exact .inr (List.mem_cons_of_mem _ h)
      · rcases List.mem_cons.mp h with h | h
        · exact .inr (h ▸ List.mem_cons_self)
        · exact (ih h).imp_right (List.mem_cons_of_mem _)

/-- Entries stay in order when one is placed. -/
theorem pairwise_place {α : Type} (name : String) (value : α) {entries : List (String × α)}
    (h : entries.Pairwise (·.1 < ·.1)) : (place name value entries).Pairwise (·.1 < ·.1) := by
  induction entries with
  | nil => simp [place]
  | cons first rest ih =>
    obtain ⟨other, v⟩ := first
    obtain ⟨hfirst, hrest⟩ := List.pairwise_cons.mp h
    simp only [place]
    split
    · next hlt =>
      refine List.pairwise_cons.mpr ⟨?_, h⟩
      rintro entry he
      rcases List.mem_cons.mp he with rfl | he
      · exact hlt
      · exact String.lt_trans hlt (hfirst entry he)
    · next hge =>
      split
      · next heq =>
        subst heq
        exact List.pairwise_cons.mpr ⟨hfirst, hrest⟩
      · next hne =>
        refine List.pairwise_cons.mpr ⟨?_, ih hrest⟩
        intro entry he
        rcases name_mem_place he with rfl | he
        · exact Std.lt_of_le_of_ne (String.not_lt.mp hge) (Ne.symm hne)
        · exact hfirst entry he

/-- Values by slot name, in the order of the names. -/
structure Slots (α : Type) where
  entries : List (String × α) := []
  /-- No two entries have the same name. -/
  ordered : entries.Pairwise (·.1 < ·.1) := by exact List.Pairwise.nil

namespace Slots

variable {α : Type}

/-- The value in a slot. -/
def get? (slots : Slots α) (name : String) : Option α :=
  slots.entries.lookup name

/-- The slots with a value in one of them. -/
def put (slots : Slots α) (name : String) (value : α) : Slots α :=
  ⟨place name value slots.entries, pairwise_place name value slots.ordered⟩

/-- The slots with one of them emptied. -/
def erase (slots : Slots α) (name : String) : Slots α :=
  ⟨slots.entries.filter (·.1 != name), slots.ordered.filter _⟩

/-- A slot holds what was put there last. -/
theorem get?_put_self (slots : Slots α) (name : String) (value : α) :
    (slots.put name value).get? name = some value := by
  obtain ⟨entries, ordered⟩ := slots
  simp only [get?, put]
  clear ordered
  induction entries with
  | nil => simp [place]
  | cons entry rest ih =>
    obtain ⟨other, v⟩ := entry
    simp only [place]
    split
    · simp
    · split
      · simp
      · next hne =>
        rw [List.lookup_cons, beq_false_of_ne hne]
        exact ih

/-- Putting a value into one slot leaves the others alone. -/
theorem get?_put_of_ne (slots : Slots α) {name other : String} (h : other ≠ name) (value : α) :
    (slots.put name value).get? other = slots.get? other := by
  have hb := beq_false_of_ne h
  obtain ⟨entries, ordered⟩ := slots
  simp only [get?, put]
  clear ordered
  induction entries with
  | nil => simp [place, List.lookup_cons, hb]
  | cons entry rest ih =>
    obtain ⟨first, v⟩ := entry
    simp only [place]
    split
    · simp [List.lookup_cons, hb]
    · split
      · next he =>
        subst he
        simp [List.lookup_cons, hb]
      · simp only [List.lookup_cons, ih]

/-- An emptied slot holds nothing. -/
theorem get?_erase_self (slots : Slots α) (name : String) :
    (slots.erase name).get? name = none := by
  simpa [get?, erase, List.lookup_eq_none_iff] using fun _ _ _ h he => h he.symm

/-- Emptying one slot leaves the others alone. -/
theorem get?_erase_of_ne (slots : Slots α) {name other : String} (h : other ≠ name) :
    (slots.erase name).get? other = slots.get? other := by
  have hb := beq_false_of_ne h
  obtain ⟨entries, ordered⟩ := slots
  simp only [get?, erase]
  clear ordered
  induction entries with
  | nil => rfl
  | cons entry rest ih =>
    obtain ⟨first, v⟩ := entry
    by_cases hf : first = name
    · subst hf
      simpa [List.lookup_cons, hb] using ih
    · rw [List.filter_cons_of_pos (by simpa using hf), List.lookup_cons, List.lookup_cons, ih]

end Slots

/-- Why a step gave no result. -/
inductive Failure where
  /-- The operation failed. -/
  | operation (cause : BindError)
  /-- The slot is empty. -/
  | noSlot
  /-- A call on the connection or the statement is in progress. -/
  | borrowed
  /-- The step makes no sense. -/
  | badRequest
  /-- Callbacks are nested too deeply. -/
  | tooDeep
deriving DecidableEq

/-- The result of a step, the responses of the engine being of type `ρ`. -/
inductive Payload (ρ : Type) where
  | nothing
  | integer (n : Int)
  | real (x : Binary64)
  | text (text : Option String)
  | octets (bs : Option Bytes)
  | value (value : Value)
  | connection (conn : Connection)
  | statement (stmt : Statement)
  | response (response : ρ)

/-- What a step reports: its result, and how the handle that it was about stands
afterwards. -/
structure Report (ρ : Type) where
  result : Except Failure (Payload ρ)
  /-- State of the connection, whether it has an object, and its number of callbacks. -/
  connection : Option (ConnectionState × Bool × Nat)
  /-- State of the statement and whether it has an object. -/
  statement : Option (StatementState × Bool)

/-- The state of a session. -/
structure State (ρ : Type) where
  connections : Slots Connection := {}
  statements : Slots Statement := {}
  /-- For each interrupt handle that was kept, the connection it interrupts. -/
  interrupts : Slots ConnectionId := {}
  /-- The connections with an execution in progress. -/
  engaged : List ConnectionId := []
  /-- The slots of statements with a step in progress. -/
  stepping : List String := []
  /-- The reports of steps run by callbacks, the latest first. -/
  nested : List (Report ρ) := []

/-- A session as a program that uses an engine. -/
@[reducible] def host (E : Engine) : Host where
  State := State E.Response
  Handler := HandlerBody E.Stimulus
  Function := FunctionBody E.Stimulus

/-- A computation in the world of a session. -/
abbrev SessionM (E : Engine) := Bridge E (host E)

/-- A computation in the world of a session that can fail. -/
abbrev Attempt (E : Engine) := ExceptT Failure (SessionM E)

variable {E : Engine}

/-- The state of the session. -/
def state : SessionM E (State E.Response) := do
  pure (← get).host

/-- Change the state of the session. -/
def update (change : State E.Response → State E.Response) : SessionM E Unit :=
  modify fun w => { w with host := change w.host }

/-- Put a connection into a slot. -/
def putConnection (slot : String) (conn : Connection) : SessionM E Unit :=
  update fun s => { s with connections := s.connections.put slot conn }

/-- Put a statement into a slot. -/
def putStatement (slot : String) (stmt : Statement) : SessionM E Unit :=
  update fun s => { s with statements := s.statements.put slot stmt }

namespace Attempt

/-- A computation that cannot fail, as an attempt. -/
def lift {α : Type} (computation : SessionM E α) : Attempt E α :=
  ExceptT.lift computation

/-- An operation, as an attempt. -/
def operation {α : Type} (computation : Fallible E (host E) α) : Attempt E α := do
  match ← lift computation.run with
  | .ok a => pure a
  | .error e => throw (.operation e)

/-- The connection in a slot. -/
def connection (slot : String) : Attempt E Connection := do
  match (← lift state).connections.get? slot with
  | some conn => pure conn
  | none => throw .noSlot

/-- The statement in a slot, unless a step of it is in progress. -/
def statement (slot : String) : Attempt E Statement := do
  let s ← lift state
  match s.statements.get? slot with
  | none => throw .noSlot
  | some stmt => if slot ∈ s.stepping then throw .borrowed else pure stmt

end Attempt

/-- Empty the slot of a statement and let the statement go. -/
def dropStatement (slot : String) (stmt : Statement) : SessionM E Unit := do
  update fun s => { s with statements := s.statements.erase slot }
  stmt.drop

/-- Let the statements of a connection go, in the order of their slots. -/
def dropStatementsOf (id : ConnectionId) : SessionM E Unit := do
  let s ← state
  (s.statements.entries.filter (·.2.connection = id)).forM fun (slot, stmt) =>
    dropStatement slot stmt

/-- Empty the slot of a connection and let the connection go. -/
def dropConnection (slot : String) (conn : Connection) : SessionM E Unit := do
  update fun s => { s with connections := s.connections.erase slot }
  conn.drop

namespace Attempt

/-- The connection in a slot, all to oneself: nothing may be in progress on it, and its
statements go. -/
def exclusive (slot : String) : Attempt E Connection := do
  let conn ← connection slot
  if conn.id ∈ (← lift state).engaged then throw .borrowed
  lift (dropStatementsOf conn.id)
  pure conn

/-- Make a slot empty. -/
def vacate (slot : String) : Attempt E Unit := do
  match (← lift state).connections.get? slot with
  | none => pure ()
  | some _ =>
    let conn ← exclusive slot
    lift (dropConnection slot conn)

/-- Take the connection out of a slot. -/
def take (slot : String) : Attempt E Connection := do
  let conn ← exclusive slot
  lift (update fun s => { s with connections := s.connections.erase slot })
  pure conn

end Attempt

end EngineBridge.Session
