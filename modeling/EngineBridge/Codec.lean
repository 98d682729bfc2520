import EngineBridge.Text.Utf8

/-!
# Values at the native boundary

How texts and octets are handed to the engine, and how what the engine hands back
is read.

A pointer is an `Option Bytes`: `none` is the null pointer, and behind a pointer
that is not null memory reads as the listed octets and as zero after them.
Strings for the engine end with a zero octet, so a text that holds one cannot be
passed; everything else travels as a pointer with a 32-bit length.  A length that
is zero or negative stands for the empty value, whatever the pointer is, and a
null pointer with a positive length for an absent one.
-/

set_option autoImplicit false

namespace EngineBridge

/-- Why a value could not cross the boundary. -/
inductive CodecError where
  /-- A text for the engine holds a zero octet at this offset. -/
  | interiorNul (position : Nat)
  /-- Text from the engine is UTF-8 only up to this offset. -/
  | invalidUtf8 (validUpTo : Nat)
  /-- A value of this many octets has no 32-bit length. -/
  | tooLarge (length : Nat)
deriving DecidableEq

/-- The wording of a codec error. -/
def CodecError.message : CodecError → String
  | .interiorNul position => s!"string contains an interior NUL byte at offset {position}"
  | .invalidUtf8 validUpTo => s!"native text is not valid UTF-8 (valid up to byte {validUpTo})"
  | .tooLarge length => s!"value of {length} bytes exceeds the native length limit"

/-- A string that ends at its first zero octet. -/
structure CString where
  /-- The memory at the pointer, the closing zero included. -/
  memory : Bytes
deriving DecidableEq

namespace CString

/-- The octets of a string, up to its end. -/
def content (s : CString) : Bytes :=
  s.memory.takeWhile (· != 0)

/-- Octets with a closing zero. -/
def ofBytes (bs : Bytes) : CString :=
  ⟨bs ++ [0]⟩

/-- A text as a string for the engine; a zero octet inside would cut it short and is
refused. -/
def ofText (text : String) : Except CodecError CString :=
  let bs := Utf8.encode text
  match bs.findIdx? (· == 0) with
  | some position => .error (.interiorNul position)
  | none => .ok (ofBytes bs)

/-- The engine reads the whole text in a string made from it. -/
theorem content_ofText {text : String} {s : CString} (h : ofText text = .ok s) :
    s.content = Utf8.encode text := by
  simp only [ofText] at h
  split at h
  · simp at h
  · next hn =>
    obtain rfl := Except.ok.inj h
    have hz : ∀ b ∈ Utf8.encode text, (b != 0) = true := by
      simpa [List.findIdx?_eq_none_iff] using hn
    simp [content, ofBytes, List.takeWhile_append_of_pos hz]

/-- The text at a string pointer, if the pointer is not null. -/
def decode : Option CString → Except CodecError (Option String)
  | none => .ok none
  | some s =>
    match Utf8.decode s.content with
    | .ok text => .ok (some text)
    | .error validUpTo => .error (.invalidUtf8 validUpTo)

end CString

/-- The largest length that the engine can be told. -/
def maxLength : Nat := 2147483647

/-- A number of octets as a native length. -/
def nativeLength (n : Nat) : Except CodecError Int32 :=
  if n ≤ maxLength then .ok (Int32.ofNat n) else .error (.tooLarge n)

/-- A value for the engine: a pointer that is never null, and a length. -/
structure Buffer where
  /-- The memory at the pointer. -/
  memory : Bytes
  /-- How many octets of it belong to the value. -/
  length : Int32
deriving DecidableEq

namespace Buffer

/-- Octets as a value for the engine.  The empty value points at a zero octet, so that
it is not taken for an absent one. -/
def ofBytes (bs : Bytes) : Except CodecError Buffer :=
  match nativeLength bs.length with
  | .error e => .error e
  | .ok length => .ok ⟨if bs.isEmpty then [0] else bs, length⟩

/-- A text as a value for the engine. -/
def ofText (text : String) : Except CodecError Buffer :=
  ofBytes (Utf8.encode text)

end Buffer

/-- The first `n` octets of a memory that reads as zero after those listed. -/
def readMemory (memory : Bytes) (n : Nat) : Bytes :=
  memory.take n ++ List.replicate (n - memory.length) 0

/-- The octets of a value from the engine, or `none` if it is absent. -/
def decodeBlob (pointer : Option Bytes) (length : Int32) : Option Bytes :=
  if length ≤ 0 then some []
  else pointer.map fun memory => readMemory memory length.toInt.toNat

/-- The text of a value from the engine, or `none` if it is absent. -/
def decodeText (pointer : Option Bytes) (length : Int32) : Except CodecError (Option String) :=
  match decodeBlob pointer length with
  | none => .ok none
  | some bs =>
    match Utf8.decode bs with
    | .ok text => .ok (some text)
    | .error validUpTo => .error (.invalidUtf8 validUpTo)

end EngineBridge
