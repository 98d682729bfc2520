import EngineBridge.Text.Hex

/-!
# The lexical forms of JSON

Readers for white space, literals, strings and numbers.  A reader takes what it reads off
the front of the input and gives the rest, or says why it cannot: the input breaks the
grammar, it ends too early, or it is JSON of a kind that does not fit.  Of two faults the
one further to the left counts.

Strings and numbers come in two forms.  A value that is wanted is read in full, which rules
out escapes of lone surrogates and numbers beyond the range of binary64.  A value that is
passed over is only looked at for its form.
-/

set_option autoImplicit false

namespace EngineBridge.Json

/-- Why an input could not be read. -/
inductive Failure where
  /-- The input breaks the grammar. -/
  | malformed
  /-- A value is of the wrong kind or out of range. -/
  | unsuitable
  /-- The input ends inside a value. -/
  | truncated
deriving DecidableEq

/-- The name of a kind of failure. -/
def Failure.category : Failure → String
  | .malformed => "Syntax"
  | .unsuitable => "Data"
  | .truncated => "Eof"

/-- What a reader gives: a value and the rest of the input. -/
abbrev Reading (α : Type) := Except Failure (α × List Char)

/-- The white space of JSON. -/
def isSpace (c : Char) : Bool := c = ' ' || c = '\n' || c = '\t' || c = '\r'

/-- The input after white space. -/
def skipSpace (cs : List Char) : List Char := cs.dropWhile isSpace

/-- The input after the given characters. -/
def expect : List Char → List Char → Except Failure (List Char)
  | [], cs => .ok cs
  | _ :: _, [] => .error .truncated
  | e :: es, c :: cs => if c = e then expect es cs else .error .malformed

/-- The input after the rest of a literal whose first letter has been seen, if that letter
begins one. -/
def literal? (first : Char) (rest : List Char) : Option (Except Failure (List Char)) :=
  if first = 'n' then some (expect ['u', 'l', 'l'] rest)
  else if first = 't' then some (expect ['r', 'u', 'e'] rest)
  else if first = 'f' then some (expect ['a', 'l', 's', 'e'] rest)
  else none

/-! ## Strings -/

/-- Four hexadecimal digits.  An input of fewer than four octets is too short for them. -/
def hexWord (cs : List Char) : Except Failure Nat :=
  match (cs.take 4).mapM Text.hexValue? with
  | some [a, b, c, d] => .ok (((a * 16 + b) * 16 + c) * 16 + d)
  | _ =>
    let octets := (cs.take 4).flatMap String.utf8EncodeChar
    .error (if octets.length < 4 then .truncated else .malformed)

/-- The escapes of one letter. -/
def simpleEscape? (c : Char) : Option Char :=
  if c = '"' then some '"'
  else if c = '\\' then some '\\'
  else if c = '/' then some '/'
  else if c = 'b' then some '\x08'
  else if c = 'f' then some '\x0c'
  else if c = 'n' then some '\n'
  else if c = 'r' then some '\r'
  else if c = 't' then some '\t'
  else none

/-- The second half of a surrogate pair, as an escape of its own. -/
def secondHalf (cs : List Char) : Except Failure Nat := do
  let cs ← expect ['\\', 'u'] cs
  let low ← hexWord cs
  if 0xdc00 ≤ low ∧ low ≤ 0xdfff then .ok low else .error .malformed

/-- An escape for a code unit, after its letter: the character, and how many characters of
input it takes.  Surrogates have to come in pairs. -/
def unicodeEscape (cs : List Char) : Except Failure (Char × Nat) := do
  let unit ← hexWord cs
  if 0xdc00 ≤ unit ∧ unit ≤ 0xdfff then .error .malformed
  else if 0xd800 ≤ unit ∧ unit ≤ 0xdbff then do
    let low ← secondHalf (cs.drop 4)
    .ok (Char.ofNat ((unit - 0xd800) * 1024 + (low - 0xdc00) + 0x10000), 10)
  else .ok (Char.ofNat unit, 4)

/-- How escapes are read: the character, and how many characters of input after the
backslash stand for it. -/
abbrev EscapeReader := List Char → Except Failure (Char × Nat)

/-- Read an escape in full. -/
def fullEscape : EscapeReader
  | [] => .error .truncated
  | c :: cs =>
    if c = 'u' then (unicodeEscape cs).map fun (d, used) => (d, used + 1)
    else match simpleEscape? c with
      | some d => .ok (d, 1)
      | none => .error .malformed

/-- Look at the form of an escape only. -/
def formEscape : EscapeReader
  | [] => .error .truncated
  | c :: cs =>
    if c = 'u' then (hexWord cs).map fun _ => (c, 5)
    else match simpleEscape? c with
      | some d => .ok (d, 1)
      | none => .error .malformed

/-- Read the characters of a string up to its closing quote; the first `skip` characters of
input belong to an escape that has been read, and `done` holds the characters read so far,
the latest first. -/
def readBody (escape : EscapeReader) (done : List Char) : Nat → List Char → Reading (List Char)
  | _, [] => .error .truncated
  | skip + 1, _ :: cs => readBody escape done skip cs
  | 0, c :: cs =>
    if c = '"' then .ok (done.reverse, cs)
    else if c = '\\' then
      match escape cs with
      | .error e => .error e
      | .ok (d, used) => readBody escape (d :: done) used cs
    else if c.toNat < 0x20 then .error .malformed
    else readBody escape (c :: done) 0 cs

/-- Read a string after its opening quote. -/
def readString (cs : List Char) : Reading String :=
  (readBody fullEscape [] 0 cs).map fun (s, rest) => (String.ofList s, rest)

/-- Pass over a string after its opening quote. -/
def skipString (cs : List Char) : Except Failure (List Char) :=
  (readBody formEscape [] 0 cs).map (·.2)

/-! ## Numbers -/

/-- Whether a character begins a number. -/
def beginsNumber (c : Char) : Bool := c = '-' || c.isDigit

/-- The largest number that a 64-bit word holds. -/
def maxWord : Nat := 18446744073709551615

/-- The largest exponent that is told apart from larger ones. -/
def maxExponent : Nat := 2147483647

/-- Take in digits while the number fits a word: the number, and the digits left over. -/
def absorb (n : Nat) : List Char → Nat × List Char
  | [] => (n, [])
  | d :: ds =>
    let m := n * 10 + (d.toNat - '0'.toNat)
    if maxWord < m then (n, d :: ds) else absorb m ds

/-- Whether `n · 10 ^ e` is beyond the range of binary64, both factors and then their
product being rounded. -/
def isBeyondRange (n : Nat) (e : Int) : Bool :=
  if n = 0 ∨ e < 0 then false
  else if 308 < e then true
  else
    let round := Binary64.nearestWhole
    twoTo 1024 ≤ round (round n * round (Nat.pow 10 e.toNat))

/-- A number that was read. -/
inductive Number where
  /-- An integer that a word holds, of either sign. -/
  | integer (n : Int)
  /-- Any other number. -/
  | other
deriving DecidableEq

/-- An integer as a number.  Zero with a minus sign, and integers below the range of 64
bits, count among the others. -/
def Number.ofDigits (negative : Bool) (n : Nat) : Number :=
  if negative then
    if n = 0 ∨ twoTo 63 < n then .other else .integer (-(n : Int))
  else .integer n

/-- The digits at the front of the input, and the rest. -/
def takeDigits (cs : List Char) : List Char × List Char :=
  (cs.takeWhile Char.isDigit, cs.dropWhile Char.isDigit)

/-- The digits of an integer: one that begins with zero has no more. -/
def readIntegerDigits : List Char → Reading (List Char)
  | [] => .error .truncated
  | c :: cs =>
    if c = '0' then
      match cs with
      | d :: _ => if d.isDigit then .error .malformed else .ok ([c], cs)
      | [] => .ok ([c], cs)
    else if c.isDigit then .ok (takeDigits (c :: cs))
    else .error .malformed

/-- At least one digit. -/
def readDigits (cs : List Char) : Reading (List Char) :=
  match takeDigits cs with
  | ([], []) => .error .truncated
  | ([], _ :: _) => .error .malformed
  | (ds, rest) => .ok (ds, rest)

/-- The exponent of a number, if there is one: its sign and its digits. -/
def readExponent : List Char → Reading (Option (Bool × List Char))
  | [] => .ok (none, [])
  | c :: cs =>
    if c = 'e' ∨ c = 'E' then
      let (negative, cs) := match cs with
        | '-' :: rest => (true, rest)
        | '+' :: rest => (false, rest)
        | _ => (false, cs)
      match readDigits cs with
      | .error e => .error e
      | .ok (ds, rest) => .ok (some (negative, ds), rest)
    else .ok (none, c :: cs)

/-- The number of some digits. -/
def digitsValue (ds : List Char) : Nat :=
  ds.foldl (fun n d => n * 10 + (d.toNat - '0'.toNat)) 0

/-- The value of an exponent, as far as it matters. -/
def exponentValue : Option (Bool × List Char) → Int
  | none => 0
  | some (negative, ds) =>
    let n := min (digitsValue ds) (maxExponent + 1)
    if negative then -(n : Int) else n

/-- Read a number after its sign.  Digits that no word holds only count by their number
before the point, and not at all after it. -/
def readUnsigned (negative : Bool) (cs : List Char) : Except Failure (Number × List Char) := do
  let (whole, rest) ← readIntegerDigits cs
  let (n, left) := absorb 0 whole
  let (fraction, rest) ← match rest with
    | '.' :: rest => (readDigits rest).map fun (ds, rest) => (some ds, rest)
    | _ => .ok (none, rest)
  let (exponent, rest) ← readExponent rest
  match fraction, exponent, left with
  | none, none, [] => .ok (.ofDigits negative n, rest)
  | _, _, _ =>
    let digits := fraction.getD []
    let (m, ignored) := absorb n digits
    let e := (left.length : Int) - (digits.length - ignored.length : Nat) + exponentValue exponent
    if isBeyondRange m e then .error .malformed else .ok (.other, rest)

/-- Read a number. -/
def readNumber : List Char → Reading Number
  | '-' :: cs => readUnsigned true cs
  | cs => readUnsigned false cs

/-- A failure to find a form of a number, where the end of the input is no special case. -/
def asMalformed {α : Type} : Except Failure α → Except Failure α
  | .ok a => .ok a
  | .error _ => .error .malformed

/-- Pass over a number. -/
def skipNumber (cs : List Char) : Except Failure (List Char) := asMalformed do
  let (_, rest) ← readIntegerDigits (if cs.head? = some '-' then cs.drop 1 else cs)
  let rest ← match rest with
    | '.' :: rest => (readDigits rest).map (·.2)
    | _ => .ok rest
  let (_, rest) ← readExponent rest
  .ok rest

end EngineBridge.Json
