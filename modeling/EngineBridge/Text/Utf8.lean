/-!
# UTF-8

The octets of a text, and the text behind a row of octets.

`encode` writes each character by core's own character encoder.  `decode` reads
octets back and, where they stop being UTF-8, says how many of them were read
before that point.  A character is accepted only if its own encoding is what
stands in the input: that one test rules out overlong forms, surrogates, values
above the last code point and sequences cut short.
-/

set_option autoImplicit false

namespace EngineBridge

/-- The contents of a stretch of memory, octet by octet. -/
abbrev Bytes := List UInt8

namespace Utf8

/-- The octets of a text, in order. -/
def encode (s : String) : Bytes :=
  s.toList.flatMap String.utf8EncodeChar

/-- The code point that the first octet announces, put together from its low bits
and the low six bits of the octets after it; absent octets count as zero. -/
def announced : Bytes → Nat
  | [] => 0
  | a :: rest =>
    let low (i : Nat) : Nat := (rest[i]?.getD 0).toNat % 64
    if a < 0x80 then a.toNat
    else if a < 0xe0 then a.toNat % 32 * 64 + low 0
    else if a < 0xf0 then a.toNat % 16 * 4096 + low 0 * 64 + low 1
    else a.toNat % 8 * 262144 + low 0 * 4096 + low 1 * 64 + low 2

/-- The character that the octets begin with, if they begin with one. -/
def leading? (bs : Bytes) : Option Char :=
  let c := Char.ofNat (announced bs)
  if (String.utf8EncodeChar c).isPrefixOf bs then some c else none

/-- Read on at offset `position`: `skip` octets belong to the character read last,
and `done` holds the characters read so far, the latest first. -/
def decodeFrom (position : Nat) (done : List Char) : Nat → Bytes → Except Nat (List Char)
  | _, [] => .ok done.reverse
  | skip + 1, _ :: bs => decodeFrom (position + 1) done skip bs
  | 0, b :: bs =>
    match leading? (b :: bs) with
    | none => .error position
    | some c => decodeFrom (position + 1) (c :: done) (c.utf8Size - 1) bs

/-- The text that the octets encode, or the length of their longest readable
beginning. -/
def decode (bs : Bytes) : Except Nat String :=
  (decodeFrom 0 [] 0 bs).map String.ofList

/-- The characters in the first `n` octets and those after them, unless that would cut
a character in two. -/
def splitAt : Nat → List Char → Option (List Char × List Char)
  | 0, cs => some ([], cs)
  | _ + 1, [] => none
  | n + 1, c :: cs =>
    if c.utf8Size ≤ n + 1 then
      (splitAt (n + 1 - c.utf8Size) cs).map fun (first, rest) => (c :: first, rest)
    else none

end Utf8

end EngineBridge
