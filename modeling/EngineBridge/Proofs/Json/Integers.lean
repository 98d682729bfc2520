import EngineBridge.Proofs.Json.Literals

/-!
# Which numbers are read as integers

The digits of a number are taken in one by one while what they come to fits a word, which it does
to the end exactly if the number as a whole does (`absorb_snd_eq_nil_iff`).  A number is read as an
integer only if it has neither a fraction nor an exponent, and then it is the integer that the
literal denotes; the other way round an integer is read as one unless it is out of the range of 64
bits or is a zero with a minus sign (`Denotes.numeral_eq_iff`).
-/

set_option autoImplicit false

namespace EngineBridge.Json

/-! ## Integer literals -/

/-- A literal denotes an integer: it is made of digits, the first of which is no zero unless it is
the only one, and maybe of a minus sign before them. -/
inductive Denotes : List Char → Int → Prop
  | unsigned {whole : List Char} (isWhole : Whole whole) :
      Denotes whole (Nat.ofDigitChars 10 whole 0)
  | negated {whole : List Char} (isWhole : Whole whole) :
      Denotes ('-' :: whole) (-(Nat.ofDigitChars 10 whole 0 : Int))

/-- A literal with a fraction or an exponent. -/
inductive Scaled : List Char → Prop
  | of {sign whole fraction exponent : List Char} (isSign : IsSign sign) (isWhole : Whole whole)
      (isFraction : Fraction fraction) (isExponent : Exponent exponent)
      (scaled : fraction ≠ [] ∨ exponent ≠ []) :
      Scaled (sign ++ (whole ++ (fraction ++ exponent)))

/-- The zero with a minus sign. -/
def minusZero : List Char := ['-', '0']

/-- What denotes an integer is a number. -/
theorem Denotes.isNumber {literal : List Char} {n : Int} (h : Denotes literal n) :
    NumberLiteral literal := by
  cases h with
  | unsigned isWhole => simpa using NumberLiteral.of (.inl rfl) isWhole .none .none
  | negated isWhole => simpa using NumberLiteral.of (.inr rfl) isWhole .none .none

/-- A number denotes an integer, or else it has a fraction or an exponent. -/
theorem NumberLiteral.denotes_or_scaled {literal : List Char} (h : NumberLiteral literal) :
    (∃ n, Denotes literal n) ∨ Scaled literal := by
  obtain @⟨sign, whole, fraction, exponent, isSign, isWhole, isFraction, isExponent⟩ := h
  by_cases scaled : fraction ≠ [] ∨ exponent ≠ []
  · exact .inr (.of isSign isWhole isFraction isExponent scaled)
  · obtain ⟨rfl, rfl⟩ : fraction = [] ∧ exponent = [] := by simpa using scaled
    left
    simp only [List.append_nil]
    rcases isSign with rfl | rfl
    · exact ⟨_, .unsigned isWhole⟩
    · exact ⟨_, .negated isWhole⟩

/-! ## Digits -/

/-- Another digit counts after ten times what was read before it. -/
theorem ofDigitChars_cons (d : Char) (ds : List Char) (n : Nat) :
    Nat.ofDigitChars 10 (d :: ds) n =
      Nat.ofDigitChars 10 ds (n * 10 + (d.toNat - '0'.toNat)) := by
  rw [Nat.mul_comm]
  rfl

/-- More digits do not make a number smaller. -/
theorem le_ofDigitChars (ds : List Char) (n : Nat) : n ≤ Nat.ofDigitChars 10 ds n := by
  induction ds generalizing n with
  | nil => simp
  | cons d ds ih =>
    have := ih (n * 10 + (d.toNat - '0'.toNat))
    rw [ofDigitChars_cons]
    omega

/-- Digits that come to a number that a word holds are all taken in. -/
theorem absorb_eq {ds : List Char} {n : Nat} (h : Nat.ofDigitChars 10 ds n ≤ maxWord) :
    absorb n ds = (Nat.ofDigitChars 10 ds n, []) := by
  induction ds generalizing n with
  | nil => rfl
  | cons d ds ih =>
    rw [ofDigitChars_cons] at h ⊢
    have fits : ¬maxWord < n * 10 + (d.toNat - '0'.toNat) := by
      have := le_ofDigitChars ds (n * 10 + (d.toNat - '0'.toNat))
      omega
    rw [absorb]
    simp only [if_neg fits]
    apply ih h

/-- All digits are taken in exactly if a word holds the number that they come to: as long as
there is none left, what has been taken in fits a word. -/
theorem absorb_snd_eq_nil_iff {ds : List Char} {n : Nat} (h : n ≤ maxWord) :
    (absorb n ds).2 = [] ↔ Nat.ofDigitChars 10 ds n ≤ maxWord := by
  constructor
  · intro taken
    induction ds generalizing n with
    | nil => simpa using h
    | cons d ds ih =>
      rw [absorb] at taken
      rw [ofDigitChars_cons]
      by_cases above : maxWord < n * 10 + (d.toNat - '0'.toNat)
      · simp only [if_pos above, reduceCtorEq] at taken
      · simp only [if_neg above] at taken
        apply ih (by omega) taken
  · intro fits
    rw [absorb_eq fits]

/-- Only the digit zero comes to zero. -/
theorem Whole.value_eq_zero_iff {whole : List Char} (h : Whole whole) :
    Nat.ofDigitChars 10 whole 0 = 0 ↔ whole = ['0'] := by
  cases h with
  | zero => simp [Nat.ofDigitChars]
  | @digits d ds nonzero digits =>
    have isDigit : d.isDigit = true := digits.2 d List.mem_cons_self
    have positive : '0'.toNat < d.toNat := by
      have least : '0'.toNat ≤ d.toNat := (Char.isDigit_iff_toNat.mp isDigit).1
      have other : d.toNat ≠ '0'.toNat := fun same => nonzero (Char.toNat_inj.mp same)
      omega
    have := le_ofDigitChars ds (0 * 10 + (d.toNat - '0'.toNat))
    rw [ofDigitChars_cons]
    simp only [List.cons.injEq, nonzero, false_and, iff_false]
    omega

/-! ## Numbers -/

/-- The parts of a number make an integer if there is a whole part only, and a word holds it. -/
theorem numberOf_eq_integer_iff {negative : Bool} {whole : List Char}
    {fraction : Option (List Char)} {exponent : Option (Bool × List Char)} {n : Int} :
    numberOf negative whole fraction exponent = .ok (.integer n) ↔
      fraction = none ∧ exponent = none ∧ Nat.ofDigitChars 10 whole 0 ≤ maxWord ∧
        Number.ofDigits negative (Nat.ofDigitChars 10 whole 0) = .integer n := by
  have taken : (absorb 0 whole).2 = [] ↔ Nat.ofDigitChars 10 whole 0 ≤ maxWord :=
    absorb_snd_eq_nil_iff (Nat.zero_le maxWord)
  unfold numberOf
  split
  · next left =>
    have fits := taken.mp left
    simp [absorb_eq fits, fits]
  · next more =>
    constructor
    · intro read
      dsimp only at read
      split at read <;> cases read
    · rintro ⟨noFraction, noExponent, fits, -⟩
      exact absurd (taken.mpr fits) (more noFraction noExponent)

/-- A literal is read as an integer only if it has neither a fraction nor an exponent. -/
theorem numeral_eq_integer_iff {sign whole fraction exponent : List Char} (isSign : IsSign sign)
    (isWhole : Whole whole) (isFraction : Fraction fraction) (isExponent : Exponent exponent)
    {n : Int} :
    numeral (sign ++ (whole ++ (fraction ++ exponent))) = some (.integer n) ↔
      fraction = [] ∧ exponent = [] ∧ Nat.ofDigitChars 10 whole 0 ≤ maxWord ∧
        Number.ofDigits (sign = ['-']) (Nat.ofDigitChars 10 whole 0) = .integer n := by
  obtain ⟨f, e, noFraction, noExponent, read⟩ :=
    readNumber_parts isSign isWhole isFraction isExponent
  have alone := read [] (by rintro c ⟨⟩)
  rw [List.append_nil] at alone
  rw [← noFraction, ← noExponent, ← numberOf_eq_integer_iff, numeral, alone]
  cases numberOf (sign = ['-']) whole f e <;> simp [Except.map, Except.toOption]

/-- A literal with a fraction or an exponent is never read as an integer, not even if it stands for
one. -/
theorem Scaled.numeral_ne {literal : List Char} (h : Scaled literal) (n : Int) :
    numeral literal ≠ some (.integer n) := by
  obtain @⟨sign, whole, fraction, exponent, isSign, isWhole, isFraction, isExponent, scaled⟩ := h
  rw [ne_eq, numeral_eq_integer_iff isSign isWhole isFraction isExponent]
  rintro ⟨noFraction, noExponent, -⟩
  simp [noFraction, noExponent] at scaled

/-- An integer literal is read as the integer that it denotes, if 64 bits hold it and it is no zero
with a minus sign, and as no other one. -/
theorem Denotes.numeral_eq_iff {literal : List Char} {n m : Int} (h : Denotes literal n) :
    numeral literal = some (.integer m) ↔
      m = n ∧ literal ≠ minusZero ∧ -(twoTo 63 : Int) ≤ n ∧ n ≤ maxWord := by
  cases h with
  | unsigned isWhole =>
    have plain : literal ≠ minusZero := by
      rintro rfl
      exact isWhole.head_ne [] rfl
    have read := numeral_eq_integer_iff (n := m) (.inl rfl) isWhole .none .none
    simp only [List.nil_append, List.append_nil] at read
    simp only [read, Number.ofDigits, plain, ne_eq, not_false_eq_true, true_and, List.nil_eq,
      reduceCtorEq, decide_false, Bool.false_eq_true, if_false, Number.integer.injEq]
    omega
  | @negated whole isWhole =>
    have zero : '-' :: whole = minusZero ↔ Nat.ofDigitChars 10 whole 0 = 0 := by
      rw [isWhole.value_eq_zero_iff]
      simp [minusZero]
    have read := numeral_eq_integer_iff (n := m) (.inr rfl) isWhole .none .none
    simp only [List.singleton_append, List.append_nil] at read
    have narrow : twoTo 63 ≤ maxWord := by decide
    simp only [read, Number.ofDigits, ne_eq, zero, decide_true, if_true, true_and]
    split
    · simp only [reduceCtorEq, and_false, false_iff]
      omega
    · simp only [Number.integer.injEq]
      omega

end EngineBridge.Json
