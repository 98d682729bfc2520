import EngineBridge.Binary64
import EngineBridge.Text.Utf8

/-!
# Hexadecimal forms

Numbers, octets and the bits of binary64 numbers in lower-case hexadecimal digits.
-/

set_option autoImplicit false

namespace EngineBridge.Text

/-- The digits of a number, without leading zeros. -/
def hexDigits (n : Nat) : String :=
  String.ofList (Nat.toDigits 16 n)

/-- The digits of a number, filled up with zeros to a width. -/
def hexPadded (width : Nat) (n : Nat) : String :=
  let ds := Nat.toDigits 16 n
  String.ofList (List.replicate (width - ds.length) '0' ++ ds)

/-- Octets as pairs of digits. -/
def hexOctets (bs : Bytes) : String :=
  String.join (bs.map fun b => hexPadded 2 b.toNat)

/-- The bits of a binary64 number as sixteen digits. -/
def hexReal (x : Binary64) : String := hexPadded 16 x.bits.toNat

/-- The value of a digit. -/
def hexValue? (c : Char) : Option Nat :=
  if '0' ≤ c ∧ c ≤ '9' then some (c.toNat - '0'.toNat)
  else if 'a' ≤ c ∧ c ≤ 'f' then some (c.toNat - 'a'.toNat + 10)
  else if 'A' ≤ c ∧ c ≤ 'F' then some (c.toNat - 'A'.toNat + 10)
  else none

/-- The octets that pairs of digits stand for. -/
def octetsOfHex? : List Char → Option Bytes
  | [] => some []
  | [_] => none
  | a :: b :: rest => do
    let high ← hexValue? a
    let low ← hexValue? b
    let bs ← octetsOfHex? rest
    some (UInt8.ofNat (high * 16 + low) :: bs)

/-- The number that digits stand for. -/
def numberOfHex? (cs : List Char) : Option Nat :=
  cs.foldlM (fun n c => (hexValue? c).map (n * 16 + ·)) 0

/-- The binary64 number whose bits sixteen digits stand for. -/
def realOfHex? (s : String) : Option Binary64 :=
  (numberOfHex? s.toList).map fun n => ⟨UInt64.ofNat n⟩

end EngineBridge.Text
