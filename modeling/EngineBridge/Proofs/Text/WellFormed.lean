import EngineBridge.Text.Utf8.Lemmas
import Mathlib.Order.Bounds.Basic

/-!
# Well-formed UTF-8

The rows of octets that are UTF-8, by the ranges that each octet of a character may lie in,
and reading against them: octets are read just if they are well-formed, and where they are
not, reading gets exactly to the end of their longest well-formed beginning.

The ranges come to the same as the encoder: `Sequence.of_char` and `Sequence.exists_char`
go through the four lengths once, and everything after them is about characters.
-/

set_option autoImplicit false

namespace EngineBridge.Utf8

/-- An octet that goes on with a character. -/
def IsTail (b : UInt8) : Prop := 0x80 ≤ b ∧ b ≤ 0xbf

/-- The octets of one character.  The ranges of the second octet leave out longer forms than
are needed (after `0xe0` and `0xf0`), surrogates (after `0xed`) and what lies above the last
code point (after `0xf4`). -/
inductive Sequence : Bytes → Prop
  | one {a : UInt8} : a ≤ 0x7f → Sequence [a]
  | two {a b : UInt8} : 0xc2 ≤ a → a ≤ 0xdf → IsTail b → Sequence [a, b]
  | three {a b c : UInt8} : 0xe0 ≤ a → a ≤ 0xef → IsTail b → IsTail c →
      (a = 0xe0 → 0xa0 ≤ b) → (a = 0xed → b ≤ 0x9f) → Sequence [a, b, c]
  | four {a b c d : UInt8} : 0xf0 ≤ a → a ≤ 0xf4 → IsTail b → IsTail c → IsTail d →
      (a = 0xf0 → 0x90 ≤ b) → (a = 0xf4 → b ≤ 0x8f) → Sequence [a, b, c, d]

/-- Well-formed UTF-8: the octets of characters, one after the other. -/
inductive WellFormed : Bytes → Prop
  | nil : WellFormed []
  | cons {first rest : Bytes} : Sequence first → WellFormed rest → WellFormed (first ++ rest)

/-! ## Characters -/

/-- A code point is no surrogate. -/
theorem toNat_valid (c : Char) :
    c.val.toNat < 0xd800 ∨ 0xdfff < c.val.toNat ∧ c.val.toNat < 0x110000 := c.valid

/-- The octets that the encoder writes for a character lie in these ranges. -/
theorem Sequence.of_char (c : Char) : Sequence (String.utf8EncodeChar c) := by
  have valid := toNat_valid c
  fun_cases String.utf8EncodeChar c with
  | case1 v h1 =>
    refine .one ?_
    simp only [UInt8.le_iff_toNat_le, UInt8.toNat_ofNat, UInt8.toNat_ofNat']
    omega
  | case2 v h1 h2 =>
    refine .two ?_ ?_ ⟨?_, ?_⟩
    all_goals
      simp only [UInt8.le_iff_toNat_le, UInt8.toNat_ofNat, UInt8.toNat_ofNat']
      omega
  | case3 v h1 h2 h3 =>
    refine .three ?_ ?_ ⟨?_, ?_⟩ ⟨?_, ?_⟩ ?_ ?_
    all_goals
      simp only [UInt8.le_iff_toNat_le, ← UInt8.toNat_inj, UInt8.toNat_ofNat, UInt8.toNat_ofNat']
      omega
  | case4 v h1 h2 h3 =>
    refine .four ?_ ?_ ⟨?_, ?_⟩ ⟨?_, ?_⟩ ⟨?_, ?_⟩ ?_ ?_
    all_goals
      simp only [UInt8.le_iff_toNat_le, ← UInt8.toNat_inj, UInt8.toNat_ofNat, UInt8.toNat_ofNat']
      omega

/-- A code point that is no surrogate is that of a character. -/
theorem exists_toNat_eq {n : Nat} (h : n < 0xd800 ∨ 0xdfff < n ∧ n < 0x110000) :
    ∃ c : Char, c.val.toNat = n :=
  ⟨Char.ofNatAux n h, rfl⟩

/-- Octets in these ranges are what the encoder writes for some character. -/
theorem Sequence.exists_char {bs : Bytes} (h : Sequence bs) :
    ∃ c : Char, bs = String.utf8EncodeChar c := by
  cases h with
  | @one a ha =>
    simp only [UInt8.le_iff_toNat_le, UInt8.toNat_ofNat] at ha
    obtain ⟨c, point⟩ := exists_toNat_eq (n := a.toNat) (by omega)
    refine ⟨c, ?_⟩
    simp only [String.utf8EncodeChar, point]
    rw [if_pos (by omega), UInt8.ofNat_toNat]
  | @two a b ha1 ha2 hb =>
    simp only [IsTail, UInt8.le_iff_toNat_le, UInt8.toNat_ofNat] at ha1 ha2 hb
    obtain ⟨c, point⟩ := exists_toNat_eq (n := a.toNat % 32 * 64 + b.toNat % 64) (by omega)
    refine ⟨c, ?_⟩
    simp only [String.utf8EncodeChar, point]
    rw [if_neg (by omega), if_pos (by omega)]
    simp only [List.cons.injEq, ← UInt8.toNat_inj, UInt8.toNat_ofNat', and_true]
    omega
  | @three a b d ha1 ha2 hb hd hlong hsurrogate =>
    simp only [IsTail, UInt8.le_iff_toNat_le, ← UInt8.toNat_inj, UInt8.toNat_ofNat] at *
    obtain ⟨c, point⟩ := exists_toNat_eq
      (n := a.toNat % 16 * 4096 + b.toNat % 64 * 64 + d.toNat % 64) (by omega)
    refine ⟨c, ?_⟩
    simp only [String.utf8EncodeChar, point]
    rw [if_neg (by omega), if_neg (by omega), if_pos (by omega)]
    simp only [List.cons.injEq, ← UInt8.toNat_inj, UInt8.toNat_ofNat', and_true]
    omega
  | @four a b d e ha1 ha2 hb hd he hlong hhigh =>
    simp only [IsTail, UInt8.le_iff_toNat_le, ← UInt8.toNat_inj, UInt8.toNat_ofNat] at *
    obtain ⟨c, point⟩ := exists_toNat_eq (n := a.toNat % 8 * 262144 + b.toNat % 64 * 4096 +
      d.toNat % 64 * 64 + e.toNat % 64) (by omega)
    refine ⟨c, ?_⟩
    simp only [String.utf8EncodeChar, point]
    rw [if_neg (by omega), if_neg (by omega), if_neg (by omega)]
    simp only [List.cons.injEq, ← UInt8.toNat_inj, UInt8.toNat_ofNat', and_true]
    omega

/-! ## Texts -/

/-- The octets of characters are well formed. -/
theorem WellFormed.of_chars (cs : List Char) : WellFormed (cs.flatMap String.utf8EncodeChar) := by
  induction cs with
  | nil => exact .nil
  | cons c cs ih => exact .cons (.of_char c) ih

/-- Octets that are well formed are those of characters. -/
theorem WellFormed.exists_chars {bs : Bytes} (h : WellFormed bs) :
    ∃ cs : List Char, bs = cs.flatMap String.utf8EncodeChar := by
  induction h with
  | nil => exact ⟨[], rfl⟩
  | cons first _ ih =>
    obtain ⟨c, rfl⟩ := first.exists_char
    obtain ⟨cs, rfl⟩ := ih
    exact ⟨c :: cs, rfl⟩

/-- The rows of octets that are well-formed are those that encode a text. -/
theorem wellFormed_iff {bs : Bytes} : WellFormed bs ↔ ∃ text, encode text = bs := by
  constructor
  · intro h
    obtain ⟨cs, rfl⟩ := h.exists_chars
    exact ⟨String.ofList cs, by simp [encode]⟩
  · rintro ⟨text, rfl⟩
    exact .of_chars text.toList

/-- Octets are accepted for a text just if they are the octets of that text. -/
theorem decode_eq_ok_iff {bs : Bytes} {text : String} :
    decode bs = .ok text ↔ encode text = bs := by
  refine ⟨encode_of_decode, ?_⟩
  rintro rfl
  exact decode_encode text

/-! ## Where reading fails -/

/-- Reading goes on after characters that it has read. -/
theorem decodeFrom_chars (cs : List Char) (rest : Bytes) (position : Nat) (done : List Char) :
    decodeFrom position done 0 (cs.flatMap String.utf8EncodeChar ++ rest) =
      decodeFrom (position + (cs.flatMap String.utf8EncodeChar).length) (cs.reverse ++ done) 0
        rest := by
  induction cs generalizing position done with
  | nil => rfl
  | cons c cs ih =>
    rw [List.flatMap_cons, List.append_assoc, decodeFrom_append, ih, List.length_append,
      String.length_utf8EncodeChar, Nat.add_assoc, List.reverse_cons, List.append_assoc]
    rfl

/-- Reading does not fail before the place that it has come to. -/
theorem le_of_decodeFrom {bs : Bytes} {position skip n : Nat} {done : List Char}
    (h : decodeFrom position done skip bs = .error n) : position ≤ n := by
  induction bs generalizing position skip done with
  | nil => cases skip <;> cases h
  | cons b bs ih =>
    cases skip with
    | succ skip => exact Nat.le_of_succ_le (ih h)
    | zero =>
      unfold decodeFrom at h
      split at h
      · exact Nat.le_of_eq (Except.error.inj h)
      · exact Nat.le_of_succ_le (ih h)

/-- Reading fails after characters, with octets left. -/
theorem exists_chars_of_decodeFrom {bs : Bytes} {position n : Nat} {done : List Char}
    (h : decodeFrom position done 0 bs = .error n) :
    ∃ (cs : List Char) (rest : Bytes), bs = cs.flatMap String.utf8EncodeChar ++ rest ∧
      n = position + (cs.flatMap String.utf8EncodeChar).length := by
  induction hn : bs.length using Nat.strongRecOn generalizing bs position done with
  | _ length ih =>
    cases bs with
    | nil => cases h
    | cons b bs =>
      cases hc : leading? (b :: bs) with
      | none =>
        simp only [decodeFrom, hc] at h
        exact ⟨[], b :: bs, rfl, (Except.error.inj h).symm⟩
      | some c =>
        obtain ⟨rest, hr⟩ := eq_append_of_leading? hc
        rw [hr, decodeFrom_append] at h
        have shorter : rest.length < length := by
          have split := congrArg List.length hr
          have := c.utf8Size_pos
          simp only [List.length_append, String.length_utf8EncodeChar] at split
          omega
        obtain ⟨cs, left, rfl, rfl⟩ := ih rest.length shorter h rfl
        refine ⟨c :: cs, left, by rw [hr, List.flatMap_cons, List.append_assoc], ?_⟩
        rw [List.flatMap_cons, List.length_append, String.length_utf8EncodeChar, Nat.add_assoc]

/-- Where reading fails, the longest well-formed beginning of the octets ends. -/
theorem isGreatest_of_decode {bs : Bytes} {n : Nat} (h : decode bs = .error n) :
    IsGreatest {m | m ≤ bs.length ∧ WellFormed (bs.take m)} n := by
  have failed : decodeFrom 0 [] 0 bs = .error n := by
    cases outcome : decodeFrom 0 [] 0 bs with
    | ok cs => rw [decode, outcome] at h; cases h
    | error m =>
      rw [decode, outcome] at h
      rw [Except.error.inj h]
  constructor
  · obtain ⟨cs, rest, rfl, rfl⟩ := exists_chars_of_decodeFrom failed
    simp only [Nat.zero_add, Set.mem_ofPred_eq, List.length_append, List.take_left]
    exact ⟨Nat.le_add_right _ _, .of_chars cs⟩
  · rintro m ⟨bound, wellFormed⟩
    -- the characters of a well-formed beginning are all read before reading fails
    obtain ⟨cs, beginning⟩ := wellFormed.exists_chars
    have length : (cs.flatMap String.utf8EncodeChar).length = m := by
      rw [← beginning, List.length_take, Nat.min_eq_left bound]
    rw [← List.take_append_drop m bs, beginning, decodeFrom_chars, length] at failed
    exact (Nat.le_add_left m 0).trans (le_of_decodeFrom failed)

/-- Octets are refused for a text just if they are not well-formed, at the end of their longest
well-formed beginning. -/
theorem decode_eq_error_iff {bs : Bytes} {n : Nat} :
    decode bs = .error n ↔
      ¬ WellFormed bs ∧ IsGreatest {m | m ≤ bs.length ∧ WellFormed (bs.take m)} n := by
  constructor
  · intro failed
    refine ⟨?_, isGreatest_of_decode failed⟩
    intro wellFormed
    obtain ⟨text, encoded⟩ := wellFormed_iff.mp wellFormed
    rw [decode_eq_ok_iff.mpr encoded] at failed
    cases failed
  · rintro ⟨malformed, greatest⟩
    cases outcome : decode bs with
    | ok text => exact absurd (wellFormed_iff.mpr ⟨text, decode_eq_ok_iff.mp outcome⟩) malformed
    | error m => rw [(isGreatest_of_decode outcome).unique greatest]

end EngineBridge.Utf8
