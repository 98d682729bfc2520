import EngineBridge.Text.Utf8

/-!
# Laws of UTF-8

Reading and writing are inverse to each other: `decode_encode` gives every text back,
and by `encode_of_decode` octets are read only as the text whose encoding they are, so
that no two rows of octets are read as one text.

Both come down to one character.  `leading?_append` recognises a character in front of
whatever follows it, and `eq_append_of_leading?` finds its encoding there.
-/

set_option autoImplicit false

namespace EngineBridge.Utf8

/-- Code points have at most twenty-one bits. -/
theorem toNat_lt (c : Char) : c.toNat < 0x110000 := by
  have h := c.valid
  simp only [UInt32.isValidChar, Nat.isValidChar, Char.toNat_val] at h
  omega

/-- The encoding of a character announces that character. -/
theorem announced_append (c : Char) (bs : Bytes) :
    announced (String.utf8EncodeChar c ++ bs) = c.toNat := by
  have h := toNat_lt c
  fun_cases String.utf8EncodeChar c with
  | case1 v h1 =>
    simp [v, announced, UInt8.lt_iff_toNat_lt] at *
    rw [if_pos (by omega)]
    omega
  | case2 v h1 h2 =>
    simp [v, announced, UInt8.lt_iff_toNat_lt] at *
    rw [if_neg (by omega), if_pos (by omega)]
    omega
  | case3 v h1 h2 h3 =>
    simp [v, announced, UInt8.lt_iff_toNat_lt] at *
    rw [if_neg (by omega), if_neg (by omega), if_pos (by omega)]
    omega
  | case4 v h1 h2 h3 =>
    simp [v, announced, UInt8.lt_iff_toNat_lt] at *
    rw [if_neg (by omega), if_neg (by omega), if_neg (by omega)]
    omega

/-- Octets that begin with the encoding of a character begin with that character. -/
theorem leading?_append (c : Char) (bs : Bytes) :
    leading? (String.utf8EncodeChar c ++ bs) = some c := by
  simp [leading?, announced_append]

/-- A character that octets begin with is there in its encoding. -/
theorem eq_append_of_leading? {bs : Bytes} {c : Char} (h : leading? bs = some c) :
    ∃ rest, bs = String.utf8EncodeChar c ++ rest := by
  simp only [leading?] at h
  split at h
  · next hp =>
    obtain rfl : Char.ofNat (announced bs) = c := by simpa using h
    obtain ⟨rest, hr⟩ := List.isPrefixOf_iff_prefix.1 hp
    exact ⟨rest, hr.symm⟩
  · simp at h

/-- Octets that belong to the character read last are only counted. -/
theorem decodeFrom_skip (done : List Char) (skipped bs : Bytes) (position : Nat) :
    decodeFrom position done skipped.length (skipped ++ bs)
      = decodeFrom (position + skipped.length) done 0 bs := by
  induction skipped generalizing position with
  | nil => simp
  | cons b skipped ih =>
    simp only [List.length_cons, List.cons_append, decodeFrom]
    rw [ih, Nat.add_right_comm, Nat.add_assoc]

/-- The encoding of a character is read as that character. -/
theorem decodeFrom_append (position : Nat) (done : List Char) (c : Char) (bs : Bytes) :
    decodeFrom position done 0 (String.utf8EncodeChar c ++ bs)
      = decodeFrom (position + c.utf8Size) (c :: done) 0 bs := by
  have hl := String.length_utf8EncodeChar c
  have hc := leading?_append c bs
  have hpos := c.utf8Size_pos
  cases he : String.utf8EncodeChar c with
  | nil =>
    rw [he, List.length_nil] at hl
    omega
  | cons b more =>
    rw [he] at hl hc
    rw [List.length_cons] at hl
    have hm : more.length = c.utf8Size - 1 := by omega
    simp only [List.cons_append] at hc ⊢
    simp only [decodeFrom, hc]
    rw [← hm, decodeFrom_skip]
    congr 1
    omega

/-- The encodings of characters one after the other are read as those characters. -/
theorem decodeFrom_flatMap (cs : List Char) (position : Nat) (done : List Char) :
    decodeFrom position done 0 (cs.flatMap String.utf8EncodeChar) = .ok (done.reverse ++ cs) := by
  induction cs generalizing position done with
  | nil => simp [decodeFrom]
  | cons c cs ih => simp [List.flatMap_cons, decodeFrom_append, ih]

/-- Every text is read back from its octets. -/
theorem decode_encode (s : String) : decode (encode s) = .ok s := by
  simp [decode, encode, decodeFrom_flatMap, Except.map]

/-- Octets that can be read are the encodings of the characters read, one after the
other. -/
theorem exists_of_decodeFrom {bs : Bytes} {position : Nat} {done cs : List Char}
    (h : decodeFrom position done 0 bs = .ok cs) :
    ∃ more, cs = done.reverse ++ more ∧ bs = more.flatMap String.utf8EncodeChar := by
  induction hn : bs.length using Nat.strongRecOn generalizing bs position done with
  | _ n ih =>
    cases bs with
    | nil => exact ⟨[], by simpa [decodeFrom, eq_comm] using h, rfl⟩
    | cons b bs =>
      cases hc : leading? (b :: bs) with
      | none => simp [decodeFrom, hc] at h
      | some c =>
        obtain ⟨rest, hr⟩ := eq_append_of_leading? hc
        rw [hr, decodeFrom_append] at h
        have hl : rest.length < n := by
          have hlen := congrArg List.length hr
          have hpos := c.utf8Size_pos
          simp only [List.length_append, String.length_utf8EncodeChar] at hlen
          omega
        obtain ⟨more, rfl, hm⟩ := ih rest.length hl h rfl
        exact ⟨c :: more, by simp, by rw [hr, hm]; rfl⟩

/-- Octets are read only as the text whose encoding they are. -/
theorem encode_of_decode {bs : Bytes} {s : String} (h : decode bs = .ok s) : encode s = bs := by
  simp only [decode, Except.map] at h
  split at h
  · simp at h
  · next cs hcs =>
    obtain ⟨more, hm, hb⟩ := exists_of_decodeFrom hcs
    simp only [Except.ok.injEq] at h
    subst h
    simp [encode, hb, hm]

end EngineBridge.Utf8
