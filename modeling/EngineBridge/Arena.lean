import EngineBridge.Codec

/-!
# Arenas

A stretch of scratch memory that holds the arguments of one native call and is
given back as a whole.
-/

set_option autoImplicit false

namespace EngineBridge

/-- The memory handed out so far, the latest first. -/
structure Arena where
  blocks : List Bytes := []

namespace Arena

/-- The octets reserved. -/
def reserved (a : Arena) : Nat :=
  a.blocks.flatten.length

/-- Copy a text into the arena as a string for the engine. -/
def allocateText (a : Arena) (text : String) : Except CodecError CString × Arena :=
  match CString.ofText text with
  | .error e => (.error e, a)
  | .ok s => (.ok s, ⟨s.memory :: a.blocks⟩)

/-- Copy several texts, each on its own success. -/
def allocateTexts (a : Arena) : List String → List (Except CodecError CString) × Arena
  | [] => ([], a)
  | text :: rest =>
    let (s, a) := a.allocateText text
    let (ss, a) := a.allocateTexts rest
    (s :: ss, a)

/-- Reserve a pointer that is null until the engine writes it. -/
def allocatePointer (a : Arena) : Option Bytes × Arena :=
  (none, ⟨List.replicate 8 0 :: a.blocks⟩)

/-- How an arena is shown. -/
def describe (a : Arena) : String :=
  "NativeArena \x7b allocated_bytes: " ++ toString a.reserved ++ " \x7d"

end Arena

end EngineBridge
