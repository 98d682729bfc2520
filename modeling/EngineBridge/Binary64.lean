/-!
# Double precision numbers

A number of the IEEE 754 format binary64 is its sixty-four bits.  Nothing here
computes with it beyond what crosses the boundary: comparison for equality, the
nearest number to an integer, and the integer part.
-/

set_option autoImplicit false

namespace EngineBridge

/-- A power of two. -/
def twoTo (n : Nat) : Nat := Nat.pow 2 n

/-- A binary64 number, as its bits. -/
structure Binary64 where
  bits : UInt64
deriving DecidableEq

namespace Binary64

/-- Positive zero. -/
def zero : Binary64 := ⟨0⟩

/-- The eleven bits of the exponent. -/
def exponent (x : Binary64) : Nat :=
  x.bits.toNat / twoTo 52 % twoTo 11

/-- The fifty-two bits of the fraction. -/
def fraction (x : Binary64) : Nat :=
  x.bits.toNat % twoTo 52

/-- The sign bit. -/
def isNegative (x : Binary64) : Bool :=
  twoTo 63 ≤ x.bits.toNat

/-- Whether the bits stand for no number at all. -/
def isNaN (x : Binary64) : Bool :=
  x.exponent == 2047 && x.fraction != 0

/-- Whether the number is zero, of either sign. -/
def isZero (x : Binary64) : Bool :=
  x.exponent == 0 && x.fraction == 0

/-- Equality of numbers: nothing equals a NaN, and the two zeros are equal. -/
def sameNumber (x y : Binary64) : Bool :=
  !x.isNaN && !y.isNaN && (x == y || (x.isZero && y.isZero))

/-- The whole number nearest to `n` among those that the format holds, a tie going to the
even neighbour. -/
def nearestWhole (n : Nat) : Nat :=
  if n.log2 ≤ 52 then n
  else
    let unit := twoTo (n.log2 - 52)
    let q := n / unit
    let r := n % unit
    if unit < 2 * r ∨ (2 * r = unit ∧ q % 2 = 1) then (q + 1) * unit else q * unit

/-- The bits of a whole number that the format holds and that is not zero. -/
def wholeBits (m : Nat) : Nat :=
  let e := m.log2
  (e + 1022) * twoTo 52 + (if e ≤ 52 then m * twoTo (52 - e) else m / twoTo (e - 52))

/-- The number nearest to an integer. -/
def ofInt64 (v : Int64) : Binary64 :=
  let n := v.toInt.natAbs
  if n = 0 then zero
  else ⟨UInt64.ofNat (wholeBits (nearestWhole n) + if v < 0 then twoTo 63 else 0)⟩

/-- The whole part of the absolute value of a finite number, cut off above `2 ^ 64`. -/
def wholePart (x : Binary64) : Nat :=
  if x.exponent = 0 then 0
  else
    let m := x.fraction + twoTo 52
    if x.exponent < 1075 then m / twoTo (1075 - x.exponent)
    else m * twoTo (min (x.exponent - 1075) 12)

/-- The whole part as an integer: fractions are dropped, values out of range give
the nearest end of the range, and a NaN gives zero. -/
def toInt64 (x : Binary64) : Int64 :=
  if x.isNaN then 0
  else if x.isNegative then Int64.ofInt (-(min x.wholePart (twoTo 63) : Nat))
  else Int64.ofInt (min x.wholePart (twoTo 63 - 1) : Nat)

end Binary64

end EngineBridge
