import EngineBridge.Proofs.Operations.Texts
import EngineBridge.Proofs.Text.WellFormed

/-!
# Texts from the engine

Octets from the engine are taken for a text if they are well-formed UTF-8, and then for the
text that they encode; otherwise the failure tells the length of their longest well-formed
beginning.  It makes no difference whether the octets came with their length or up to a
zero octet.
-/

set_option autoImplicit false

namespace EngineBridge

/-- What octets are read as: the text that they encode if they are well-formed, and
otherwise a failure at the end of their longest well-formed beginning. -/
structure IsReading (bs : Bytes) (result : Except CodecError (Option String)) : Prop where
  accepted : (∃ text, result = .ok (some text)) ↔ Utf8.WellFormed bs
  text : ∀ text, result = .ok (some text) ↔ Utf8.encode text = bs
  refused : ∀ e, result = .error e ↔ ¬Utf8.WellFormed bs ∧
    ∃ n, e = .invalidUtf8 n ∧ IsGreatest {m | m ≤ bs.length ∧ Utf8.WellFormed (bs.take m)} n

/-- The text of octets, or where they stop being one. -/
def readOctets (bs : Bytes) : Except CodecError (Option String) :=
  match Utf8.decode bs with
  | .ok text => .ok (some text)
  | .error validUpTo => .error (.invalidUtf8 validUpTo)

/-- Octets are read as the text that they encode, or refused after the greatest well-formed part. -/
theorem isReading_readOctets (bs : Bytes) : IsReading bs (readOctets bs) := by
  unfold readOctets
  cases outcome : Utf8.decode bs with
  | ok text =>
    have encoded : Utf8.encode text = bs := Utf8.encode_of_decode outcome
    have wellFormed : Utf8.WellFormed bs := Utf8.wellFormed_iff.mpr ⟨text, encoded⟩
    refine ⟨⟨fun _ => wellFormed, fun _ => ⟨text, rfl⟩⟩, fun other => ?_, fun e => ?_⟩
    · rw [← Utf8.decode_eq_ok_iff, outcome]
      simp
    · simp [wellFormed]
  | error n =>
    obtain ⟨malformed, greatest⟩ := Utf8.decode_eq_error_iff.mp outcome
    refine ⟨by simp [malformed], fun text => ?_, fun e => ?_⟩
    · rw [← Utf8.decode_eq_ok_iff, outcome]
      simp
    · constructor
      · intro h
        exact ⟨malformed, n, (Except.error.inj h).symm, greatest⟩
      · rintro ⟨-, m, rfl, other⟩
        rw [greatest.unique other]

/-- Octets that come with a positive length are read as far as that length goes. -/
theorem decodeText_of_pos {memory : Bytes} {length : Int32} (positive : 0 < length)
    (backed : length.toInt.toNat ≤ memory.length) :
    decodeText (some memory) length = readOctets (memory.take length.toInt.toNat) := by
  have nonempty : ¬length ≤ 0 := Int32.not_le.mpr positive
  have octets : decodeBlob (some memory) length = some (memory.take length.toInt.toNat) := by
    rw [decodeBlob, if_neg nonempty, Option.map_some, readMemory, Nat.sub_eq_zero_of_le backed,
      List.replicate_zero, List.append_nil]
  unfold decodeText readOctets
  cases outcome : Utf8.decode (memory.take length.toInt.toNat) <;> simp only [octets, outcome]

/-- A length that is not positive makes the empty text, whatever the pointer. -/
theorem decodeText_of_nonpos {length : Int32} (nonpos : length ≤ 0) (pointer : Option Bytes) :
    decodeText pointer length = .ok (some "") := by
  unfold decodeText
  simp only [decodeBlob, if_pos nonpos]
  rfl

/-- A null pointer with a positive length makes no text. -/
theorem decodeText_null {length : Int32} (positive : 0 < length) :
    decodeText none length = .ok none := by
  have nonempty : ¬length ≤ 0 := Int32.not_le.mpr positive
  unfold decodeText
  simp only [decodeBlob, if_neg nonempty, Option.map_none]

namespace CString

/-- A string is read like the octets before its end. -/
theorem decode_some (s : CString) : decode (some s) = readOctets s.content := by
  rewrite [decode, readOctets]
  cases Utf8.decode s.content <;> rfl

/-- A string that ends with a zero octet is read like its octets with their length. -/
theorem decode_eq_decodeText (s : CString) (short : s.content.length ≤ maxLength) :
    decode (some s) = decodeText (some s.content) (Int32.ofNat s.content.length) := by
  have length : (Int32.ofNat s.content.length).toInt = s.content.length :=
    Int32.toInt_ofNat_of_lt (Nat.lt_succ_of_le short)
  rw [decode_some]
  cases empty : s.content with
  | nil => rfl
  | cons b bs =>
    rw [← empty]
    have positive : 0 < Int32.ofNat s.content.length := by
      rw [Int32.lt_iff_toInt_lt, length, empty]
      exact Int.natCast_pos.mpr (Nat.succ_pos _)
    rw [decodeText_of_pos positive (by simp [length]), length]
    simp

end CString

/-- A text that was copied into an arena is read back from there. -/
theorem Arena.exists_decode_of_nulFree (a : Arena) {text : String} (free : NulFree text) :
    ∃ s, (a.allocateText text).1 = .ok s ∧ CString.decode (some s) = .ok (some text) := by
  refine ⟨.terminated text, ?_, CString.decode_terminated free⟩
  unfold allocateText
  rw [CString.ofText_of_nulFree free]

/-- Text from the engine with a positive length is accepted just if the octets that the length
covers are well-formed UTF-8, as the text that they encode, and otherwise refused at the end
of their longest well-formed beginning.  A length that is not positive stands for the empty
text, and a null pointer with a positive one for no text.  A string is read like the octets
before its first zero, also where these are more than a length can tell, and what was copied
into an arena as a string is read back as the same text. -/
theorem native_text_accepted_iff_wellFormed :
    (∀ (memory : Bytes) (length : Int32), 0 < length → length.toInt.toNat ≤ memory.length →
      IsReading (memory.take length.toInt.toNat) (decodeText (some memory) length)) ∧
    (∀ (pointer : Option Bytes) (length : Int32), length ≤ 0 →
      decodeText pointer length = .ok (some "")) ∧
    (∀ length : Int32, 0 < length → decodeText none length = .ok none) ∧
    (∀ s : CString, IsReading s.content (CString.decode (some s))) ∧
    (∀ s : CString, s.content.length ≤ maxLength →
      CString.decode (some s) = decodeText (some s.content) (Int32.ofNat s.content.length)) ∧
    (∀ (a : Arena) (text : String), NulFree text →
      ∃ s, (a.allocateText text).1 = .ok s ∧ CString.decode (some s) = .ok (some text)) := by
  refine ⟨fun memory length positive backed => ?_, fun pointer length nonpos => ?_,
    fun length positive => decodeText_null positive, fun s => ?_,
    fun s short => s.decode_eq_decodeText short, fun a text free => a.exists_decode_of_nulFree free⟩
  · rw [decodeText_of_pos positive backed]
    exact isReading_readOctets _
  · exact decodeText_of_nonpos nonpos pointer
  · rw [CString.decode_some]
    exact isReading_readOctets _

/-- A euro sign that is cut short: the longest well-formed beginning ends before it.  With its
last octet it is read, the zero octet before it included. -/
theorem truncated_sign_ends_reading :
    IsGreatest {m | m ≤ 4 ∧ Utf8.WellFormed (([0x61, 0x00, 0xe2, 0x82] : Bytes).take m)} 2 ∧
    Utf8.WellFormed [0x61, 0x00, 0xe2, 0x82, 0xac] ∧
    Utf8.encode "a\x00€" = [0x61, 0x00, 0xe2, 0x82, 0xac] := by
  have laws := native_text_accepted_iff_wellFormed.1 [0x61, 0x00, 0xe2, 0x82, 0xac]
  have cut : decodeText (some [0x61, 0x00, 0xe2, 0x82, 0xac]) 4 = .error (.invalidUtf8 2) := by
    decide +kernel
  have whole : decodeText (some [0x61, 0x00, 0xe2, 0x82, 0xac]) 5 = .ok (some "a\x00€") := by
    decide +kernel
  have refused := ((laws 4 (by decide) (by decide)).refused _).mp cut
  have read := laws 5 (by decide) (by decide)
  refine ⟨?_, read.accepted.mp ⟨_, whole⟩, (read.text _).mp whole⟩
  obtain ⟨-, n, same, greatest⟩ := refused
  cases same
  exact greatest

end EngineBridge
