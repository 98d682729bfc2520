import EngineBridge.Json.Skip
import EngineBridge.Proofs.Json.Grammar

/-!
# Literals are read up to their end

What a reader makes of a string or of a number that is spelled by the grammar does not depend on
what comes after it: either it reads the literal whatever follows, and leaves just that, or it
refuses it whatever follows.  The form of a literal alone is never refused.
-/

set_option autoImplicit false

namespace EngineBridge.Json

/-! ## Results -/

section

variable {ε α β : Type}

/-- A success gives its value. -/
@[simp]
theorem toOption_ok (a : α) : (Except.ok a : Except ε α).toOption = some a :=
  rfl

/-- Only the success with a value gives it. -/
theorem toOption_eq_some {x : Except ε α} {a : α} : x.toOption = some a ↔ x = .ok a := by
  cases x <;> simp [Except.toOption]

/-- Only a failure gives nothing. -/
theorem toOption_eq_none {x : Except ε α} : x.toOption = none ↔ ∃ e, x = .error e := by
  cases x <;> simp [Except.toOption]

/-- What is made of a success is made of the value that it gives. -/
@[simp]
theorem toOption_map (x : Except ε α) (f : α → β) : (x.map f).toOption = x.toOption.map f := by
  cases x <;> rfl

/-- A mapped computation succeeds just where the computation does. -/
theorem map_eq_ok {x : Except ε α} {f : α → β} {b : β} :
    x.map f = .ok b ↔ ∃ a, x = .ok a ∧ f a = b := by
  cases x <;> simp [Except.map]

/-- A sequence succeeds if its first part does and then its second. -/
theorem bind_eq_ok {x : Except ε α} {f : α → Except ε β} {b : β} :
    x >>= f = .ok b ↔ ∃ a, x = .ok a ∧ f a = .ok b := by
  cases x <;> simp [bind, Except.bind]

/-- A sequence gives what its second part gives for the value of the first. -/
@[simp]
theorem toOption_bind (x : Except ε α) (f : α → Except ε β) :
    (x >>= f).toOption = x.toOption.bind fun a => (f a).toOption := by
  cases x <;> rfl

end

/-! ## Strings -/

/-- Four hexadecimal digits are read for what they are, whatever follows. -/
theorem hexWord_append {digits : List Char} (four : digits.length = 4)
    (hex : ∀ d ∈ digits, (Text.hexValue? d).isSome) :
    ∃ n, ∀ rest, hexWord (digits ++ rest) = .ok n := by
  match digits, four with
  | [a, b, c, d], _ =>
    simp only [List.mem_cons, List.not_mem_nil, or_false, forall_eq_or_imp, forall_eq,
      Option.isSome_iff_exists] at hex
    obtain ⟨⟨x, ha⟩, ⟨y, hb⟩, ⟨z, hc⟩, ⟨w, hd⟩⟩ := hex
    exact ⟨((x * 16 + y) * 16 + z) * 16 + w, fun rest => by simp [hexWord, ha, hb, hc, hd]⟩

/-- The characters of an escape are passed over. -/
theorem readBody_append (escape : EscapeReader) (done taken cs : List Char) :
    readBody escape done taken.length (taken ++ cs) = readBody escape done 0 cs := by
  induction taken with
  | nil => rfl
  | cons c taken ih =>
    rw [List.length_cons, List.cons_append, readBody]
    exact ih

/-- A printable character that is neither a quote nor a backslash stands for itself. -/
theorem readBody_plain (escape : EscapeReader) {c : Char} (printable : 0x20 ≤ c.toNat)
    (quote : c ≠ '"') (backslash : c ≠ '\\') (done cs : List Char) :
    readBody escape done 0 (c :: cs) = readBody escape (c :: done) 0 cs := by
  rw [readBody, if_neg quote, if_neg backslash, if_neg (by omega)]

/-- An escape is read, and reading goes on after what it takes. -/
theorem readBody_escape {escape : EscapeReader} {taken cs : List Char} {d : Char}
    (h : escape (taken ++ cs) = .ok (d, taken.length)) (done : List Char) :
    readBody escape done 0 ('\\' :: (taken ++ cs)) = readBody escape (d :: done) 0 cs := by
  rw [readBody]
  simp only [Char.reduceEq, if_false, if_true, h]
  exact readBody_append escape _ taken cs

/-- An escape of one letter is read as the character that it stands for. -/
theorem readBody_simpleEscape {letter c : Char} (hu : letter ≠ 'u')
    (h : simpleEscape? letter = some c) (done rest : List Char) :
    readBody fullEscape done 0 ('\\' :: letter :: rest) =
      readBody fullEscape (c :: done) 0 rest := by
  have hfull : fullEscape (letter :: rest) = .ok (c, 1) := by
    simp only [fullEscape, if_neg hu, h]
  rw [readBody]
  simp only [Char.reduceEq, if_true, if_false, hfull]
  rw [readBody]

/-- Each letter that makes an escape of two characters stands for some character. -/
theorem simpleEscape_of_mem {c : Char} (h : c ∈ ['"', '\\', '/', 'b', 'f', 'n', 'r', 't']) :
    c ≠ 'u' ∧ ∃ d, simpleEscape? c = some d := by
  simp only [List.mem_cons, List.not_mem_nil, or_false] at h
  rcases h with rfl | rfl | rfl | rfl | rfl | rfl | rfl | rfl <;> exact ⟨by decide, _, rfl⟩

/-- The form of a string is never refused. -/
theorem skipString_append {body : List Char} (h : StringBody body) (rest : List Char) :
    skipString (body ++ '"' :: rest) = .ok rest := by
  suffices ∀ done, ∃ s, readBody formEscape done 0 (body ++ '"' :: rest) = .ok (s, rest) by
    obtain ⟨s, read⟩ := this []
    rw [skipString, read]
    rfl
  induction h with
  | nil => exact fun done => ⟨done.reverse, by simp [readBody]⟩
  | @plain c cs printable quote backslash _ ih =>
    intro done
    rw [List.cons_append, readBody_plain formEscape printable quote backslash]
    exact ih _
  | @escape c cs letter _ ih =>
    intro done
    obtain ⟨other, d, simple⟩ := simpleEscape_of_mem letter
    have escape : formEscape ([c] ++ (cs ++ '"' :: rest)) = .ok (d, [c].length) := by
      simp [formEscape, other, simple]
    exact readBody_escape escape done ▸ ih _
  | @unit digits cs four hex _ ih =>
    intro done
    obtain ⟨n, word⟩ := hexWord_append four hex
    have escape : formEscape ('u' :: digits ++ (cs ++ '"' :: rest)) =
        .ok ('u', ('u' :: digits).length) := by
      simp [formEscape, word, four, Except.map]
    have read := readBody_escape escape done
    rw [List.cons_append, ← List.append_assoc] at read
    rw [List.cons_append, List.cons_append, read]
    exact ih _

/-- A string with an escape that is refused is refused. -/
theorem readBody_refused {escape : EscapeReader} {cs : List Char}
    (h : (escape cs).toOption = none) (done : List Char) :
    (readBody escape done 0 ('\\' :: cs)).toOption = none := by
  rw [readBody]
  cases read : escape cs with
  | error e => rfl
  | ok a => simp [read] at h

/-- An escape for a code unit is refused, or goes on with a second half, or is complete. -/
theorem unicodeEscape_append {digits : List Char} (four : digits.length = 4) {n : Nat}
    (word : ∀ rest, hexWord (digits ++ rest) = .ok n) (cs : List Char) :
    unicodeEscape (digits ++ cs) =
      if 0xdc00 ≤ n ∧ n ≤ 0xdfff then .error .malformed
      else if 0xd800 ≤ n ∧ n ≤ 0xdbff then (secondHalf cs).map fun low =>
        (Char.ofNat ((n - 0xd800) * 1024 + (low - 0xdc00) + 0x10000), 10)
      else .ok (Char.ofNat n, 4) := by
  have drop : (digits ++ cs).drop 4 = cs := by rw [← four, List.drop_left]
  rw [unicodeEscape, word, drop]
  rfl

/-- Whether a string goes on with the second half of a surrogate pair is seen in the string. -/
theorem secondHalf_append {body : List Char} (h : StringBody body) :
    (∀ rest, (secondHalf (body ++ '"' :: rest)).toOption = none) ∨
    ∃ low digits cs, body = '\\' :: 'u' :: (digits ++ cs) ∧ digits.length = 4 ∧ StringBody cs ∧
      ∀ rest, secondHalf (body ++ rest) = .ok low := by
  cases h with
  | nil => exact .inl fun rest => by simp [secondHalf, expect, bind, Except.bind, Except.toOption]
  | plain _ _ backslash _ =>
    exact .inl fun rest => by
      simp [secondHalf, expect, backslash, bind, Except.bind, Except.toOption]
  | escape letter _ =>
    exact .inl fun rest => by
      simp [secondHalf, expect, (simpleEscape_of_mem letter).1, bind, Except.bind,
        Except.toOption]
  | @unit digits cs four hex rest =>
    obtain ⟨n, word⟩ := hexWord_append four hex
    have half : ∀ rest, secondHalf ('\\' :: 'u' :: (digits ++ cs) ++ rest) =
        if 0xdc00 ≤ n ∧ n ≤ 0xdfff then .ok n else .error .malformed := by
      intro rest
      simp [secondHalf, expect, word, bind, Except.bind]
    by_cases low : 0xdc00 ≤ n ∧ n ≤ 0xdfff
    · exact .inr ⟨n, digits, cs, rfl, four, rest, fun rest => (half rest).trans (if_pos low)⟩
    · exact .inl fun rest => by rw [half, if_neg low]; rfl

/-- An escape for a code unit is refused whatever comes after the string, or taken whatever
comes after it. -/
theorem fullEscape_append {digits cs : List Char} (four : digits.length = 4)
    (hex : ∀ d ∈ digits, (Text.hexValue? d).isSome) (more : StringBody cs) :
    (∀ rest, (fullEscape ('u' :: (digits ++ (cs ++ '"' :: rest)))).toOption = none) ∨
    ∃ d taken left, 'u' :: (digits ++ cs) = taken ++ left ∧ StringBody left ∧
      ∀ rest, fullEscape (taken ++ (left ++ '"' :: rest)) = .ok (d, taken.length) := by
  obtain ⟨n, word⟩ := hexWord_append four hex
  have unit : ∀ cs, fullEscape ('u' :: (digits ++ cs)) =
      (unicodeEscape (digits ++ cs)).map fun read => (read.1, read.2 + 1) := fun cs => rfl
  simp only [unicodeEscape_append four word] at unit
  by_cases low : 0xdc00 ≤ n ∧ n ≤ 0xdfff
  · refine .inl fun rest => ?_
    rw [unit, if_pos low]
    rfl
  simp only [if_neg low] at unit
  by_cases high : 0xd800 ≤ n ∧ n ≤ 0xdbff
  · simp only [if_pos high] at unit
    rcases secondHalf_append more with alone | ⟨m, digits', left, rfl, four', more', half⟩
    · refine .inl fun rest => ?_
      rw [unit, toOption_map, toOption_map, alone]
      rfl
    · refine .inr ⟨Char.ofNat ((n - 0xd800) * 1024 + (m - 0xdc00) + 0x10000),
        'u' :: (digits ++ '\\' :: 'u' :: digits'), left, by simp, more', fun rest => ?_⟩
      have whole : 'u' :: (digits ++ '\\' :: 'u' :: digits') ++ (left ++ '"' :: rest) =
          'u' :: (digits ++ ('\\' :: 'u' :: (digits' ++ left) ++ '"' :: rest)) := by simp
      rw [whole, unit, half]
      simp [Except.map, four, four']
  · refine .inr ⟨Char.ofNat n, 'u' :: digits, cs, by simp, more, fun rest => ?_⟩
    rw [List.cons_append, unit, if_neg high]
    simp [Except.map, four]

/-- What the characters of a string stand for, if no lone surrogate is among them. -/
theorem readBody_body {body : List Char} (h : StringBody body) :
    ∃ s? : Option (List Char), ∀ done rest,
      (readBody fullEscape done 0 (body ++ '"' :: rest)).toOption =
        s?.map fun s => (done.reverse ++ s, rest) := by
  -- The induction is on the length, as the two halves of a pair are read as one escape.
  induction len : body.length using Nat.strongRecOn generalizing body with
  | ind n ih =>
    subst len
    cases h with
    | nil => exact ⟨some [], fun done rest => by simp [readBody]⟩
    | @plain c cs printable quote backslash more =>
      obtain ⟨s?, read⟩ := ih cs.length (by simp) more rfl
      refine ⟨s?.map (c :: ·), fun done rest => ?_⟩
      rw [List.cons_append, readBody_plain fullEscape printable quote backslash, read]
      simp [Function.comp_def]
    | @escape c cs letter more =>
      obtain ⟨s?, read⟩ := ih cs.length (by simp only [List.length_cons]; omega) more rfl
      obtain ⟨other, d, simple⟩ := simpleEscape_of_mem letter
      refine ⟨s?.map (d :: ·), fun done rest => ?_⟩
      rw [List.cons_append, List.cons_append, readBody_simpleEscape other simple, read]
      simp [Function.comp_def]
    | @unit digits cs four hex more =>
      rcases fullEscape_append four hex more with refused | ⟨d, taken, left, split, more, escape⟩
      · refine ⟨none, fun done rest => ?_⟩
        simpa using readBody_refused (refused rest) done
      · have shorter : left.length < ('\\' :: 'u' :: (digits ++ cs)).length := by
          rw [List.length_cons, split, List.length_append]
          omega
        obtain ⟨s?, read⟩ := ih left.length shorter more rfl
        refine ⟨s?.map (d :: ·), fun done rest => ?_⟩
        rw [split, List.cons_append, List.append_assoc, readBody_escape (escape rest), read]
        simp [Function.comp_def]

/-- What the characters of a string stand for, if they stand for anything. -/
def spelled (body : List Char) : Option String :=
  (readString (body ++ ['"'])).toOption.map (·.1)

/-- A string is read for what it spells, or refused, whatever follows its closing quote. -/
theorem readString_append {body : List Char} (h : StringBody body) (rest : List Char) :
    (readString (body ++ '"' :: rest)).toOption = (spelled body).map (·, rest) := by
  obtain ⟨s?, read⟩ := readBody_body h
  rw [spelled, readString, readString, toOption_map, toOption_map, read, read]
  cases s? <;> rfl

/-! ## Numbers -/

/-- Digits do not go on with this input. -/
def EndsDigits (rest : List Char) : Prop :=
  ∀ c ∈ rest.head?, c.isDigit = false

/-- What ends a number ends its digits. -/
theorem EndsNumber.endsDigits {rest : List Char} (h : EndsNumber rest) : EndsDigits rest :=
  fun c hc => (h c hc).1

/-- All digits are taken up to something that ends them. -/
theorem takeDigits_append {ds : List Char} (digits : ∀ d ∈ ds, d.isDigit = true)
    {rest : List Char} (ends : EndsDigits rest) : takeDigits (ds ++ rest) = (ds, rest) := by
  have stop : rest.takeWhile Char.isDigit = [] ∧ rest.dropWhile Char.isDigit = rest := by
    cases rest with
    | nil => exact ⟨rfl, rfl⟩
    | cons c rest => simp [ends c rfl]
  rw [takeDigits, List.takeWhile_append_of_pos digits, List.dropWhile_append_of_pos digits,
    stop.1, stop.2, List.append_nil]

/-- The digits before a point are read up to something that ends them. -/
theorem readIntegerDigits_append {whole : List Char} (h : Whole whole) {rest : List Char}
    (ends : EndsDigits rest) : readIntegerDigits (whole ++ rest) = .ok (whole, rest) := by
  cases h with
  | zero =>
    cases rest with
    | nil => rfl
    | cons d rest => simp [readIntegerDigits, ends d rfl]
  | @digits d ds nonzero digits =>
    have taken := takeDigits_append digits.2 ends
    rw [List.cons_append] at taken ⊢
    simp only [readIntegerDigits, if_neg nonzero, if_pos (digits.2 d List.mem_cons_self), taken]

/-- Digits are read up to something that ends them. -/
theorem readDigits_append {ds : List Char} (h : Digits ds) {rest : List Char}
    (ends : EndsDigits rest) : readDigits (ds ++ rest) = .ok (ds, rest) := by
  rw [readDigits, takeDigits_append h.2 ends]
  cases ds with
  | nil => exact absurd rfl h.1
  | cons d ds => rfl

/-- Where a number ends there is no exponent. -/
theorem readExponent_ends {rest : List Char} (hrest : EndsNumber rest) :
    readExponent rest = .ok (none, rest) := by
  cases rest with
  | nil => rfl
  | cons c rest =>
    have hc : ¬(c = 'e' ∨ c = 'E') := not_or.mpr (hrest c rfl).2.2
    simp only [readExponent, if_neg hc]

/-- An exponent is read for what it is, up to something that ends the number. -/
theorem readExponent_append {exponent : List Char} (h : Exponent exponent) :
    ∃ read, (read = none ↔ exponent = []) ∧
      ∀ rest, EndsNumber rest → readExponent (exponent ++ rest) = .ok (read, rest) := by
  cases h with
  | none => exact ⟨Option.none, by simp, fun rest ends => readExponent_ends ends⟩
  | @digits e sign ds letter signed digits =>
    obtain ⟨d, ds, rfl⟩ := List.exists_cons_of_ne_nil digits.1
    have hd : d.isDigit = true := digits.2 d List.mem_cons_self
    have minus : d ≠ '-' := by
      rintro rfl
      cases hd
    have plus : d ≠ '+' := by
      rintro rfl
      cases hd
    have read : ∀ rest, EndsNumber rest → readDigits (d :: (ds ++ rest)) = .ok (d :: ds, rest) :=
      fun rest ends => readDigits_append digits ends.endsDigits
    simp only [List.mem_cons, List.not_mem_nil, or_false] at signed
    rcases signed with rfl | rfl | rfl
    · exact ⟨some (false, d :: ds), by simp, fun rest ends => by
        simp [readExponent, letter, minus, plus, read rest ends]⟩
    · exact ⟨some (false, d :: ds), by simp, fun rest ends => by
        simp [readExponent, letter, read rest ends]⟩
    · exact ⟨some (true, d :: ds), by simp, fun rest ends => by
        simp [readExponent, letter, read rest ends]⟩

/-- Neither digits nor a fraction go on with this input. -/
def EndsFraction (rest : List Char) : Prop :=
  ∀ c ∈ rest.head?, c.isDigit = false ∧ c ≠ '.'

/-- What ends a fraction ends its digits. -/
theorem EndsFraction.endsDigits {rest : List Char} (h : EndsFraction rest) : EndsDigits rest :=
  fun c hc => (h c hc).1

/-- An exponent, or the end of the number, ends a fraction. -/
theorem Exponent.endsFraction {exponent : List Char} (h : Exponent exponent) {rest : List Char}
    (ends : EndsNumber rest) : EndsFraction (exponent ++ rest) := by
  cases h with
  | none => exact fun c hc => ⟨(ends c hc).1, (ends c hc).2.1⟩
  | digits letter =>
    rintro c ⟨⟩
    rcases letter with rfl | rfl <;> decide

/-- A fraction, or what ends the digits after it, ends the digits before it. -/
theorem Fraction.endsDigits {fraction : List Char} (h : Fraction fraction) {rest : List Char}
    (ends : EndsDigits rest) : EndsDigits (fraction ++ rest) := by
  cases h with
  | none => exact ends
  | digits =>
    rintro c ⟨⟩
    rfl

/-- Read the fraction of a number, if there is one. -/
def readFraction (cs : List Char) : Reading (Option (List Char)) :=
  match cs with
  | '.' :: rest => (readDigits rest).map fun (ds, rest) => (some ds, rest)
  | _ => .ok (none, cs)

/-- What the parts of a number come to. -/
def numberOf (negative : Bool) (whole : List Char) (fraction : Option (List Char))
    (exponent : Option (Bool × List Char)) : Except Failure Number :=
  match fraction, exponent, (absorb 0 whole).2 with
  | none, none, [] => .ok (.ofDigits negative (absorb 0 whole).1)
  | _, _, left =>
    let digits := fraction.getD []
    let (m, ignored) := absorb (absorb 0 whole).1 digits
    let e := (left.length : Int) - (digits.length - ignored.length : Nat) + exponentValue exponent
    if isBeyondRange m e then .error .malformed else .ok .other

/-- Without a point there is no fraction. -/
theorem readFraction_of_ne {cs : List Char} (h : ∀ rest, cs ≠ '.' :: rest) :
    readFraction cs = .ok (none, cs) := by
  rw [readFraction.eq_def]
  split
  · next rest => exact absurd rfl (h rest)
  · rfl

/-- A number without its sign is read in three parts. -/
theorem readUnsigned_eq (negative : Bool) (cs : List Char) :
    readUnsigned negative cs = (readIntegerDigits cs).bind fun (whole, rest) =>
      (readFraction rest).bind fun (fraction, rest) =>
      (readExponent rest).bind fun (exponent, rest) =>
        (numberOf negative whole fraction exponent).map (·, rest) := by
  rw [readUnsigned]
  cases readIntegerDigits cs with
  | error e => rfl
  | ok a =>
    obtain ⟨whole, rest⟩ := a
    simp only [bind, Except.bind]
    split
    · next rest =>
      rw [readFraction]
      cases readDigits rest with
      | error e => rfl
      | ok b =>
        simp only [Except.map]
        cases readExponent b.2 with
        | error e => rfl
        | ok c =>
          simp only [numberOf]
          split <;> rfl
    · next other =>
      rw [readFraction_of_ne other]
      dsimp only
      cases readExponent rest with
      | error e => rfl
      | ok c =>
        simp only [numberOf]
        rcases absorb 0 whole with ⟨n, _ | ⟨d, left⟩⟩ <;> rcases c with ⟨_ | c, rest⟩
        case nil.none => rfl
        all_goals
          dsimp only
          split <;> rfl

/-- A fraction is read for what it is, up to something that ends it. -/
theorem readFraction_append {fraction : List Char} (h : Fraction fraction) :
    ∃ read, (read = none ↔ fraction = []) ∧
      ∀ rest, EndsFraction rest → readFraction (fraction ++ rest) = .ok (read, rest) := by
  cases h with
  | none =>
    refine ⟨none, by simp, fun rest ends => readFraction_of_ne ?_⟩
    rintro left rfl
    exact (ends '.' rfl).2 rfl
  | @digits ds digits =>
    refine ⟨some ds, by simp, fun rest ends => ?_⟩
    rw [List.cons_append, readFraction, readDigits_append digits ends.endsDigits]
    rfl

/-- What a number without its sign is read as, whatever comes after it. -/
theorem readUnsigned_append (negative : Bool) {whole fraction exponent : List Char}
    (isWhole : Whole whole) (isFraction : Fraction fraction) (isExponent : Exponent exponent) :
    ∃ f e, (f = none ↔ fraction = []) ∧ (e = none ↔ exponent = []) ∧
      ∀ rest, EndsNumber rest → readUnsigned negative (whole ++ (fraction ++ (exponent ++ rest))) =
        (numberOf negative whole f e).map (·, rest) := by
  obtain ⟨f, noFraction, hfraction⟩ := readFraction_append isFraction
  obtain ⟨e, noExponent, hexponent⟩ := readExponent_append isExponent
  refine ⟨f, e, noFraction, noExponent, fun rest ends => ?_⟩
  have after := isExponent.endsFraction ends
  simp only [readUnsigned_eq,
    readIntegerDigits_append isWhole (isFraction.endsDigits after.endsDigits), Except.bind,
    hfraction _ after, hexponent rest ends]

/-- A number without a sign begins with a digit. -/
theorem readNumber_of_digit {c : Char} (h : c.isDigit = true) (cs : List Char) :
    readNumber (c :: cs) = readUnsigned false (c :: cs) := by
  unfold readNumber
  split
  · next heq =>
    rw [(List.cons.inj heq).1] at h
    cases h
  · rfl

/-- What a number is read as from its parts, whatever comes after it. -/
theorem readNumber_parts {sign whole fraction exponent : List Char} (isSign : IsSign sign)
    (isWhole : Whole whole) (isFraction : Fraction fraction) (isExponent : Exponent exponent) :
    ∃ f e, (f = none ↔ fraction = []) ∧ (e = none ↔ exponent = []) ∧
      ∀ rest, EndsNumber rest →
        readNumber (sign ++ (whole ++ (fraction ++ exponent)) ++ rest) =
          (numberOf (sign = ['-']) whole f e).map (·, rest) := by
  obtain ⟨f, e, noFraction, noExponent, hread⟩ :=
    readUnsigned_append (sign = ['-']) isWhole isFraction isExponent
  refine ⟨f, e, noFraction, noExponent, fun rest ends => ?_⟩
  rw [← hread rest ends, List.append_assoc, List.append_assoc, List.append_assoc]
  rcases isSign with rfl | rfl
  · cases isWhole with
    | zero => rfl
    | digits _ digits => exact readNumber_of_digit (digits.2 _ List.mem_cons_self) _
  · rfl

/-- The number that a literal stands for, if it is within the range of numbers. -/
def numeral (literal : List Char) : Option Number :=
  (readNumber literal).toOption.map (·.1)

/-- What a number is read as, whatever comes after it. -/
theorem readNumber_append {literal : List Char} (h : NumberLiteral literal) {rest : List Char}
    (ends : EndsNumber rest) :
    (readNumber (literal ++ rest)).toOption = (numeral literal).map (·, rest) := by
  obtain @⟨sign, whole, fraction, exponent, isSign, isWhole, isFraction, isExponent⟩ := h
  obtain ⟨f, e, -, -, hread⟩ := readNumber_parts isSign isWhole isFraction isExponent
  have alone := hread [] (by rintro c ⟨⟩)
  rw [List.append_nil] at alone
  rw [numeral, alone, hread rest ends]
  cases numberOf (sign = ['-']) whole f e <;> rfl

/-- A number without its sign does not begin with one. -/
theorem Whole.head_ne {whole : List Char} (h : Whole whole) (cs : List Char) :
    (whole ++ cs).head? ≠ some '-' := by
  cases h with
  | zero => exact fun heq => absurd (Option.some.inj heq) (by decide)
  | @digits d ds _ digits =>
    intro heq
    obtain rfl : d = '-' := Option.some.inj heq
    exact absurd (digits.2 '-' List.mem_cons_self) (by decide)

/-- A number that is passed over is looked at in the same parts. -/
theorem skipNumber_eq (cs : List Char) :
    skipNumber cs = asMalformed
      ((readIntegerDigits (if cs.head? = some '-' then cs.drop 1 else cs)).bind fun (_, rest) =>
        (readFraction rest).bind fun (_, rest) =>
        (readExponent rest).map (·.2)) := by
  rw [skipNumber]
  congr 1
  cases readIntegerDigits (if cs.head? = some '-' then cs.drop 1 else cs) with
  | error e => rfl
  | ok a =>
    obtain ⟨whole, rest⟩ := a
    simp only [bind, Except.bind]
    split
    · next rest =>
      rw [readFraction]
      cases readDigits rest <;> rfl
    · next other =>
      rw [readFraction_of_ne other]
      rfl

/-- The form of a number is never refused. -/
theorem skipNumber_append {literal : List Char} (h : NumberLiteral literal) {rest : List Char}
    (ends : EndsNumber rest) : skipNumber (literal ++ rest) = .ok rest := by
  obtain @⟨sign, whole, fraction, exponent, isSign, isWhole, isFraction, isExponent⟩ := h
  have unsigned : ∀ cs, (if (sign ++ (whole ++ cs)).head? = some '-'
      then (sign ++ (whole ++ cs)).drop 1 else sign ++ (whole ++ cs)) = whole ++ cs := by
    intro cs
    rcases isSign with rfl | rfl
    · exact if_neg (isWhole.head_ne cs)
    · rfl
  obtain ⟨f, -, hfraction⟩ := readFraction_append isFraction
  obtain ⟨e, -, hexponent⟩ := readExponent_append isExponent
  have after := isExponent.endsFraction ends
  simp only [skipNumber_eq, List.append_assoc, unsigned,
    readIntegerDigits_append isWhole (isFraction.endsDigits after.endsDigits), Except.bind,
    hfraction _ after, hexponent rest ends]
  rfl

end EngineBridge.Json
