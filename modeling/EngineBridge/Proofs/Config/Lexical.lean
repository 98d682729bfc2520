import EngineBridge.Config.Printer
import EngineBridge.Proofs.Json.Integers

/-!
# Written strings and integers are read back

A reader takes a written form off the front of the input and leaves what comes after it.  A
string is read character by character, whatever escape each of them was written with.  An
integer ends where its digits end, so what follows it must not go on with it.
-/

set_option autoImplicit false

namespace EngineBridge

namespace Json

/-! ## Strings -/

/-- A hexadecimal digit is read for its value. -/
theorem hexValue_hexDigit {n : Nat} (h : n < 16) : Text.hexValue? (hexDigit n) = some n := by
  have hall : ∀ n < 16, Text.hexValue? (hexDigit n) = some n := by decide
  exact hall n h

/-- The four digits of a control character are read as its code. -/
theorem hexWord_control {n : Nat} (h : n < 0x20) (rest : List Char) :
    hexWord ('0' :: '0' :: hexDigit (n / 16) :: hexDigit (n % 16) :: rest) = .ok n := by
  have hhigh := hexValue_hexDigit (n := n / 16) (by omega)
  have hlow := hexValue_hexDigit (n := n % 16) (by omega)
  have hzero : Text.hexValue? '0' = some 0 := rfl
  have hn : ((0 * 16 + 0) * 16 + n / 16) * 16 + n % 16 = n := by omega
  simp only [hexWord, List.take_succ_cons, List.take_zero, List.mapM_cons, List.mapM_nil, hzero,
    hhigh, hlow, Option.pure_def, Option.bind_eq_bind, Option.bind_some, hn]

/-- The escape of a control character is read as that character. -/
theorem fullEscape_control {c : Char} (h : c.toNat < 0x20) (rest : List Char) :
    fullEscape ('u' :: '0' :: '0' :: hexDigit (c.toNat / 16) :: hexDigit (c.toNat % 16) :: rest) =
      .ok (c, 5) := by
  have hlow : ¬(0xdc00 ≤ c.toNat ∧ c.toNat ≤ 0xdfff) := by omega
  have hhigh : ¬(0xd800 ≤ c.toNat ∧ c.toNat ≤ 0xdbff) := by omega
  have hunit : unicodeEscape
      ('0' :: '0' :: hexDigit (c.toNat / 16) :: hexDigit (c.toNat % 16) :: rest) = .ok (c, 4) := by
    rw [unicodeEscape, hexWord_control h]
    simp only [bind, Except.bind, if_neg hlow, if_neg hhigh, Char.ofNat_toNat]
  simp only [fullEscape, if_true, hunit]
  rfl

/-- A written character is read as it is. -/
theorem readBody_writeChar (c : Char) (done rest : List Char) :
    readBody fullEscape done 0 (writeChar c ++ rest) = readBody fullEscape (c :: done) 0 rest := by
  unfold writeChar
  -- The escapes of one letter come first.
  iterate 7
    split
    · next h =>
      subst h
      exact readBody_simpleEscape (by decide) rfl done rest
  split
  · next h =>
    -- The five characters of the escape are passed over one after the other.
    simp only [List.cons_append, List.nil_append]
    rw [readBody]
    simp only [Char.reduceEq, if_true, if_false, fullEscape_control h]
    simp only [readBody]
  · next hquote hback _ _ _ _ _ hprint =>
    rw [List.singleton_append, readBody, if_neg hquote, if_neg hback, if_neg hprint]

/-- Written characters are read up to the closing quote. -/
theorem readBody_written (cs done rest : List Char) :
    readBody fullEscape done 0 (cs.flatMap writeChar ++ '"' :: rest) =
      .ok (done.reverse ++ cs, rest) := by
  induction cs generalizing done with
  | nil => simp [readBody]
  | cons c cs ih =>
    rw [List.flatMap_cons, List.append_assoc, readBody_writeChar, ih, List.reverse_cons,
      List.append_assoc, List.singleton_append]

/-- A string that was written is read for its text. -/
theorem readString_written (s : String) (rest : List Char) :
    readString (s.toList.flatMap writeChar ++ '"' :: rest) = .ok (s, rest) := by
  rw [readString, readBody_written]
  simp [Except.map]

/-! ## Integers -/

/-- The digits of a positive number do not begin with zero. -/
theorem head_toDigits {n : Nat} (h : 0 < n) : (Nat.toDigits 10 n).head? ≠ some '0' := by
  induction n using Nat.strongRecOn with
  | ind n ih =>
    rw [Nat.toDigits_eq_if (by decide)]
    split
    · next hlt =>
      have hall : ∀ n < 10, 0 < n → [n.digitChar].head? ≠ some '0' := by decide
      exact hall n hlt h
    · next hge =>
      rw [List.head?_append, Option.or_of_isSome (by simp [Nat.toDigits_ne_nil])]
      exact ih (n / 10) (by omega) (by omega)

/-- The digits of a number are the whole part of one. -/
theorem whole_toDigits (n : Nat) : Whole (Nat.toDigits 10 n) := by
  rcases Nat.eq_zero_or_pos n with rfl | pos
  · exact .zero
  · have head := head_toDigits pos
    have digits : ∀ c ∈ Nat.toDigits 10 n, c.isDigit = true :=
      fun c hc => Nat.isDigit_of_mem_toDigits (by decide) (by decide) hc
    cases hds : Nat.toDigits 10 n with
    | nil => exact absurd hds Nat.toDigits_ne_nil
    | cons d ds =>
      rw [hds] at head digits
      exact .digits (fun zero => head (congrArg some zero)) ⟨List.cons_ne_nil d ds, digits⟩

/-- The digits of a number that a word holds are read as an integer. -/
theorem readUnsigned_written (negative : Bool) {n : Nat} (hn : n ≤ maxWord) {rest : List Char}
    (hrest : EndsNumber rest) :
    readUnsigned negative (Nat.toDigits 10 n ++ rest) = .ok (.ofDigits negative n, rest) := by
  have hvalue : Nat.ofDigitChars 10 (Nat.toDigits 10 n) 0 = n :=
    Nat.ofDigitChars_toDigits (by decide) (by decide)
  have habsorb : absorb 0 (Nat.toDigits 10 n) = (n, []) := by
    rw [absorb_eq (by rw [hvalue]; exact hn), hvalue]
  have hfraction : ∀ left, rest ≠ '.' :: left := by
    rintro left rfl
    exact (hrest '.' rfl).2.1 rfl
  simp only [readUnsigned_eq, readIntegerDigits_append (whole_toDigits n) hrest.endsDigits,
    Except.bind, readFraction_of_ne hfraction, readExponent_ends hrest, numberOf, habsorb]
  rfl

/-- A written integer of either sign begins a number, and is read back if a word holds it. -/
theorem readNumber_written {n : Int} (hlow : -(twoTo 63 : Int) ≤ n) (hhigh : n ≤ maxWord)
    {rest : List Char} (hrest : EndsNumber rest) :
    ∃ c cs, writeInt n = c :: cs ∧ beginsNumber c = true ∧
      readNumber (c :: (cs ++ rest)) = .ok (.integer n, rest) := by
  cases n with
  | ofNat n =>
    have hn : n ≤ maxWord := Int.ofNat_le.mp hhigh
    have hwrite : writeInt (Int.ofNat n) = Nat.toDigits 10 n := Nat.toList_repr
    have hread := readUnsigned_written false hn hrest
    cases hds : Nat.toDigits 10 n with
    | nil => exact absurd hds Nat.toDigits_ne_nil
    | cons d ds =>
      have hd : d.isDigit = true := by
        refine Nat.isDigit_of_mem_toDigits (b := 10) (n := n) (by decide) (by decide) ?_
        rw [hds]
        exact List.mem_cons_self
      rw [hds, List.cons_append] at hread
      refine ⟨d, ds, hwrite.trans hds, by simp [beginsNumber, hd], ?_⟩
      rw [readNumber_of_digit hd, hread]
      rfl
  | negSucc n =>
    have hn : n + 1 ≤ twoTo 63 := by omega
    have hword : n + 1 ≤ maxWord := Nat.le_trans hn (by decide)
    have hwrite : writeInt (Int.negSucc n) = '-' :: Nat.toDigits 10 (n + 1) := by
      show ("-" ++ (n + 1).repr).toList = _
      rw [String.toList_append, Nat.toList_repr]
      rfl
    have hsome : ¬(n + 1 = 0 ∨ twoTo 63 < n + 1) := by omega
    refine ⟨'-', _, hwrite, rfl, ?_⟩
    rw [readNumber, readUnsigned_written true hword hrest, Number.ofDigits, if_pos rfl,
      if_neg hsome]
    rfl

end Json

end EngineBridge
