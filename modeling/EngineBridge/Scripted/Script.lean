import EngineBridge.Scripted.Cell

/-!
# Scripts

A script says how the scripted engine is to behave: for each export a queue of items, of
which each call takes the next one.  A call whose queue is empty behaves by default.
-/

set_option autoImplicit false

namespace EngineBridge.Scripted

/-- The names of a result column, where it has them. -/
structure Column where
  name : Option Bytes := none
  table : Option Bytes := none
  decltype : Option Bytes := none
deriving DecidableEq

/-- How a call that gives a result code is to behave. -/
structure Reaction where
  /-- The result code, if not the default one. -/
  code : Option Int32 := none
  /-- The message that the call leaves behind, if it leaves one; it may be a null. -/
  message : Option (Option Bytes) := none
  /-- After how many attempts a lock is free, if there is one. -/
  lockedFor : Option Int := none
  /-- Whether an object is made, where the call makes one. -/
  makesObject : Bool := true
  /-- Whether the table of functions stays as it is. -/
  keepsFunctions : Bool := false
  /-- Where the text that is not used begins: absent for its end, or a null. -/
  tail : Option (Option Int) := none
  columns : List Column := []
  rows : List (List CellSource) := []
  parameters : Int32 := 0

/-- One item of a script. -/
inductive Item where
  | number (n : Int)
  | text (text : Option Bytes)
  | reaction (r : Reaction)

namespace Item

/-- The item as a reaction; a number is a result code. -/
def toReaction : Item → Reaction
  | .number n => { code := some (Int32.ofInt n) }
  | .reaction r => r
  | _ => {}

/-- The item as a number. -/
def toNumber : Item → Int32
  | .number n => Int32.ofInt n
  | _ => 0

/-- The item as a text. -/
def toText : Item → Option Bytes
  | .text t => t
  | _ => none

end Item

/-- A script: items in order, each with the export it is for. -/
structure Script where
  items : List (Symbol × Item) := []

namespace Script

/-- The first item for an export in a list of items, and the items without it. -/
def pull (symbol : Symbol) : List (Symbol × Item) → Option (Item × List (Symbol × Item))
  | [] => none
  | (s, item) :: rest =>
    if s = symbol then some (item, rest)
    else (pull symbol rest).map fun (found, rest) => (found, (s, item) :: rest)

/-- The next item for an export, and the script without it. -/
def take (script : Script) (symbol : Symbol) : Option Item × Script :=
  match pull symbol script.items with
  | none => (none, script)
  | some (item, rest) => (some item, ⟨rest⟩)

/-- One script after the other. -/
def append (first second : Script) : Script := ⟨first.items ++ second.items⟩

end Script

end EngineBridge.Scripted
