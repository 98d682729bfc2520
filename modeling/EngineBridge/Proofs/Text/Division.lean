import EngineBridge.Connection.Operations
import EngineBridge.Proofs.Text.WellFormed
import Mathlib.Data.List.TakeWhile

/-!
# Dividing and trimming texts

A text can be divided at an offset in octets if no character goes on there; at any other
offset there is nothing to divide, and all of it counts as the first part.  What is trimmed
off a text is the white space at its two ends, all of it and nothing else.
-/

set_option autoImplicit false

namespace EngineBridge

namespace Utf8

/-! ## Boundaries -/

/-- Only the first octet of a character does not go on with one. -/
theorem Sequence.exists_tails {bs : Bytes} (h : Sequence bs) :
    ∃ first tails, bs = first :: tails ∧ ¬IsTail first ∧ ∀ b ∈ tails, IsTail b := by
  cases h with
  | @one a ha =>
    refine ⟨a, [], rfl, fun tail => ?_, by simp⟩
    simp only [IsTail, UInt8.le_iff_toNat_le, UInt8.toNat_ofNat] at ha tail
    omega
  | @two a b low high hb =>
    refine ⟨a, [b], rfl, fun tail => ?_, by simp [hb]⟩
    simp only [IsTail, UInt8.le_iff_toNat_le, UInt8.toNat_ofNat] at low tail
    omega
  | @three a b c low high hb hc =>
    refine ⟨a, [b, c], rfl, fun tail => ?_, by simp [hb, hc]⟩
    simp only [IsTail, UInt8.le_iff_toNat_le, UInt8.toNat_ofNat] at low tail
    omega
  | @four a b c d low high hb hc hd =>
    refine ⟨a, [b, c, d], rfl, fun tail => ?_, by simp [hb, hc, hd]⟩
    simp only [IsTail, UInt8.le_iff_toNat_le, UInt8.toNat_ofNat] at low tail
    omega

/-- An offset in a text, up to its end, at which no character goes on. -/
def IsBoundary (text : String) (n : Nat) : Prop :=
  n ≤ (encode text).length ∧ ∀ b ∈ (encode text)[n]?, ¬IsTail b

/-- Where no character goes on, the characters before end and those after begin. -/
theorem exists_division {cs : List Char} {n : Nat}
    (bound : n ≤ (cs.flatMap String.utf8EncodeChar).length)
    (boundary : ∀ b ∈ (cs.flatMap String.utf8EncodeChar)[n]?, ¬IsTail b) :
    ∃ first rest, cs = first ++ rest ∧ (first.flatMap String.utf8EncodeChar).length = n := by
  induction cs generalizing n with
  | nil =>
    obtain rfl : n = 0 := by simpa using bound
    exact ⟨[], [], rfl, rfl⟩
  | cons c cs ih =>
    rw [List.flatMap_cons, List.length_append] at bound
    rw [List.flatMap_cons] at boundary
    by_cases inside : n < (String.utf8EncodeChar c).length
    · -- the offset is in the first character, so it is the one before it
      obtain ⟨first, tails, octets, -, goesOn⟩ := (Sequence.of_char c).exists_tails
      cases n with
      | zero => exact ⟨[], c :: cs, rfl, rfl⟩
      | succ n =>
        rw [octets, List.length_cons, Nat.succ_lt_succ_iff] at inside
        have octet : (String.utf8EncodeChar c ++ cs.flatMap String.utf8EncodeChar)[n + 1]? =
            some tails[n] := by
          rw [octets, List.cons_append, List.getElem?_cons_succ,
            List.getElem?_append_left inside, List.getElem?_eq_getElem inside]
        exact absurd (goesOn _ (List.getElem_mem inside)) (boundary _ octet)
    · obtain ⟨m, rfl⟩ := Nat.exists_eq_add_of_le (Nat.not_lt.mp inside)
      rw [List.getElem?_append_right (Nat.le_add_right _ _), Nat.add_sub_cancel_left] at boundary
      obtain ⟨first, rest, rfl, length⟩ := ih (by omega) boundary
      exact ⟨c :: first, rest, rfl, by rw [List.flatMap_cons, List.length_append, length]⟩

/-- At the end of some characters of a text no character goes on. -/
theorem isBoundary_of_append {text first rest : String} (joined : first ++ rest = text) :
    IsBoundary text (encode first).length := by
  have octets : encode text = encode first ++ encode rest := by
    simp [← joined, encode]
  rw [IsBoundary, octets, List.length_append]
  refine ⟨Nat.le_add_right _ _, ?_⟩
  rw [List.getElem?_append_right (Nat.le_refl _), Nat.sub_self]
  unfold encode
  cases rest.toList with
  | nil => simp
  | cons c cs =>
    obtain ⟨a, tails, octets, begins, -⟩ := (Sequence.of_char c).exists_tails
    rintro b mem
    rw [List.flatMap_cons, octets] at mem
    obtain rfl : a = b := by simpa using mem
    exact begins

/-- A text is cut at an offset just if its first characters take so many octets. -/
theorem splitAt_eq_some_iff {n : Nat} {cs first rest : List Char} :
    splitAt n cs = some (first, rest) ↔
      cs = first ++ rest ∧ (first.flatMap String.utf8EncodeChar).length = n := by
  induction n, cs using splitAt.induct generalizing first rest with
  | case1 cs =>
    rw [splitAt]
    constructor
    · intro h
      obtain ⟨rfl, rfl⟩ := Prod.mk.inj (Option.some.inj h)
      exact ⟨rfl, rfl⟩
    · rintro ⟨rfl, empty⟩
      cases first with
      | nil => rfl
      | cons c first =>
        -- a character takes at least one octet
        have := c.utf8Size_pos
        rw [List.flatMap_cons, List.length_append, String.length_utf8EncodeChar] at empty
        omega
  | case2 n =>
    simp only [splitAt, reduceCtorEq, false_iff, not_and]
    intro none
    obtain ⟨rfl, rfl⟩ := List.append_eq_nil_iff.mp none.symm
    simp
  | case3 n c cs fits ih =>
    rw [splitAt, if_pos fits]
    simp only [Option.map_eq_some_iff, Prod.exists, Prod.mk.injEq, ih]
    constructor
    · rintro ⟨more, rest, ⟨rfl, length⟩, rfl, rfl⟩
      refine ⟨rfl, ?_⟩
      rw [List.flatMap_cons, List.length_append, String.length_utf8EncodeChar, length]
      omega
    · rintro ⟨split, length⟩
      cases first with
      | nil => simp at length
      | cons d more =>
        obtain ⟨rfl, rfl⟩ := List.cons.inj split
        rw [List.flatMap_cons, List.length_append, String.length_utf8EncodeChar] at length
        exact ⟨more, rest, ⟨rfl, by omega⟩, rfl, rfl⟩
  | case4 n c cs large =>
    rw [splitAt, if_neg large]
    simp only [reduceCtorEq, false_iff, not_and]
    intro split length
    cases first with
    | nil => simp at length
    | cons d more =>
      obtain ⟨rfl, rfl⟩ := List.cons.inj split
      rw [List.flatMap_cons, List.length_append, String.length_utf8EncodeChar] at length
      omega

end Utf8

/-! ## Trimming -/

namespace Text

/-- The code points with the Unicode property White_Space: tabulators and ends of lines, spaces, and
separators of lines and paragraphs. -/
def whiteSpace : List Nat :=
  [0x0009, 0x000a, 0x000b, 0x000c, 0x000d, 0x0020, 0x0085, 0x00a0, 0x1680, 0x2000, 0x2001, 0x2002,
   0x2003, 0x2004, 0x2005, 0x2006, 0x2007, 0x2008, 0x2009, 0x200a, 0x2028, 0x2029, 0x202f, 0x205f,
   0x3000]

/-- A character has the property White_Space. -/
def IsWhiteSpace (c : Char) : Prop := c.toNat ∈ whiteSpace

instance : DecidablePred IsWhiteSpace := fun c => inferInstanceAs (Decidable (c.toNat ∈ whiteSpace))

/-- The characters that are trimmed off are those with the property White_Space. -/
theorem isBlank_iff {c : Char} : isBlank c = true ↔ IsWhiteSpace c := by
  simp only [isBlank, blankRanges, IsWhiteSpace, whiteSpace, List.any_cons, List.any_nil,
    Bool.or_eq_true, Bool.and_eq_true, decide_eq_true_eq, List.mem_cons, List.not_mem_nil,
    Bool.false_eq_true, or_false]
  omega

/-- `t` is what is left of `s` without the white space at its two ends. -/
structure Trims (s t : String) : Prop where
  around : ∃ before after : List Char, s.toList = before ++ t.toList ++ after ∧
    (∀ c ∈ before, IsWhiteSpace c) ∧ ∀ c ∈ after, IsWhiteSpace c
  first : ∀ c ∈ t.toList.head?, ¬IsWhiteSpace c
  last : ∀ c ∈ t.toList.getLast?, ¬IsWhiteSpace c

/-- Trimming takes off the white space at the two ends, all of it and nothing else. -/
theorem trims_trim (s : String) : Trims s (trim s) := by
  -- white space is taken off the front first, and then off the back of what is left
  let body := s.toList.dropWhile isBlank
  let tail := (body.reverse.takeWhile isBlank).reverse
  let kept := (body.reverse.dropWhile isBlank).reverse
  have front : s.toList = s.toList.takeWhile isBlank ++ body :=
    List.takeWhile_append_dropWhile.symm
  have back : body = kept ++ tail := by
    rw [← List.reverse_append, List.takeWhile_append_dropWhile, List.reverse_reverse]
  have chars : (trim s).toList = kept := String.toList_ofList
  have stops : ∀ (cs : List Char), ∀ c ∈ (cs.dropWhile isBlank).head?, ¬IsWhiteSpace c := by
    intro cs c mem
    have := List.head?_dropWhile_not isBlank cs
    rw [Option.mem_def.mp mem] at this
    rw [← isBlank_iff]
    simpa using this
  refine ⟨⟨s.toList.takeWhile isBlank, tail, ?_, ?_, ?_⟩, ?_, ?_⟩
  · rw [chars, List.append_assoc, ← back]
    exact front
  · exact fun c mem => isBlank_iff.mp (List.mem_takeWhile_imp mem)
  · exact fun c mem => isBlank_iff.mp (List.mem_takeWhile_imp (List.mem_reverse.mp mem))
  · rw [chars]
    intro c mem
    refine stops s.toList c ?_
    show c ∈ body.head?
    rw [back, List.head?_append, Option.mem_def.mp mem]
    rfl
  · rw [chars, List.getLast?_reverse]
    exact stops _

/-- Nothing is left of a text just if it is all white space. -/
theorem Trims.eq_empty_iff {s t : String} (h : Trims s t) :
    t = "" ↔ ∀ c ∈ s.toList, IsWhiteSpace c := by
  obtain ⟨before, after, split, blankBefore, blankAfter⟩ := h.around
  constructor
  · rintro rfl c mem
    rw [split] at mem
    simp only [String.toList_empty, List.append_nil, List.mem_append] at mem
    exact mem.elim (blankBefore c) (blankAfter c)
  · intro blank
    cases chars : t.toList with
    | nil => exact String.toList_inj.mp chars
    | cons c cs =>
      have mem : c ∈ s.toList := by simp [split, chars]
      exact absurd (blank c mem) (h.first c (by rw [chars]; rfl))

end Text

end EngineBridge
