import EngineBridge.Proofs.Text.WellFormed
import EngineBridge.Upcall
import Mathlib.Tactic.Common

/-!
# Arguments of invocations

What an argument is read as.  The engine is asked for the type code first, then for what that
code says is there: a number by one question, a text or octets by two, of which the one for the
pointer comes before the one for the number of octets.  Only a text can be refused, and it is
refused at the end of its longest well-formed beginning.
-/

set_option autoImplicit false

namespace EngineBridge

open Native

variable {E : Engine} {H : Host}

/-- A call to the engine is answered. -/
def World.Answers (w : World E H) (c : Call) (answer : c.Answer) (w' : World E H) : Prop :=
  w.answer c = answer ∧ w.asked c = w'

namespace World

/-- Every call is answered. -/
theorem answers (w : World E H) (c : Call) : w.Answers c (w.answer c) (w.asked c) := ⟨rfl, rfl⟩

/-- To ask a question is to be answered. -/
theorem Answers.run {w w' : World E H} {c : Call} {answer : c.Answer}
    (h : w.Answers c answer w') : (Bridge.ask c : Bridge E H c.Answer).run w = (answer, w') :=
  Prod.ext h.1 h.2

end World

/-- Type codes other than the four that are known count as that of a null. -/
theorem ColumnType.ofCode_of_notMem {code : Int32}
    (other : code ∉ ([1, 2, 3, 4] : List Int32)) : ofCode code = .null := by
  simp only [List.mem_cons, List.not_mem_nil, or_false, not_or] at other
  obtain ⟨integer, float, text, blob⟩ := other
  simp only [ofCode, if_neg integer, if_neg float, if_neg text, if_neg blob]

namespace Upcall

/-- What is at a pointer, as many octets as a number says.  If it is not positive, these are none,
wherever the pointer leads; otherwise nothing is at the null pointer, and memory reads as zero
after its octets. -/
inductive Behind : Option Bytes → Int32 → Option Bytes → Prop
  | empty {pointer : Option Bytes} {length : Int32} (nonpositive : length ≤ 0) :
    Behind pointer length (some [])
  | absent {length : Int32} (positive : 0 < length) : Behind none length none
  | present {memory : Bytes} {length : Int32} (positive : 0 < length) :
    Behind (some memory) length (some (memory.take length.toInt.toNat ++
      List.replicate (length.toInt.toNat - memory.length) 0))

/-- There is something at every pointer, or nothing. -/
theorem exists_behind (pointer : Option Bytes) (length : Int32) :
    ∃ octets, Behind pointer length octets := by
  by_cases positive : 0 < length
  · cases pointer with
    | none => exact ⟨none, .absent positive⟩
    | some memory => exact ⟨_, .present positive⟩
  · exact ⟨_, .empty (Int32.not_lt.mp positive)⟩

/-- Octets are decoded as what is at the pointer. -/
theorem decodeBlob_of_behind {pointer : Option Bytes} {length : Int32} {octets : Option Bytes}
    (behind : Behind pointer length octets) : decodeBlob pointer length = octets := by
  cases behind with
  | empty nonpositive => exact if_pos nonpositive
  | absent positive => exact if_neg (Int32.not_le.mpr positive)
  | present positive => exact if_neg (Int32.not_le.mpr positive)

/-- An argument is decoded, by its type code. -/
inductive Decodes (argument : Argument) (w : World E H) :
    Except CodecError Value → World E H → Prop
  | integer {n : Int64} {w₁ w₂ : World E H} (type : w.Answers (.valueType argument) 1 w₁)
      (number : w₁.Answers (.valueInt64 argument) n w₂) :
    Decodes argument w (.ok (.integer n)) w₂
  | real {x : Binary64} {w₁ w₂ : World E H} (type : w.Answers (.valueType argument) 2 w₁)
      (number : w₁.Answers (.valueDouble argument) x w₂) :
    Decodes argument w (.ok (.real x)) w₂
  | text {pointer : Option Bytes} {length : Int32} {text : String} {w₁ w₂ w₃ : World E H}
      (type : w.Answers (.valueType argument) 3 w₁)
      (pointed : w₁.Answers (.valueText argument) pointer w₂)
      (counted : w₂.Answers (.valueBytes argument) length w₃)
      (behind : Behind pointer length (some (Utf8.encode text))) :
    Decodes argument w (.ok (.text text)) w₃
  /-- The octets are not those of a text. -/
  | malformed {pointer : Option Bytes} {length : Int32} {octets : Bytes} {validUpTo : Nat}
      {w₁ w₂ w₃ : World E H} (type : w.Answers (.valueType argument) 3 w₁)
      (pointed : w₁.Answers (.valueText argument) pointer w₂)
      (counted : w₂.Answers (.valueBytes argument) length w₃)
      (behind : Behind pointer length (some octets)) (malformed : ¬ Utf8.WellFormed octets)
      (greatest : IsGreatest {m | m ≤ octets.length ∧ Utf8.WellFormed (octets.take m)} validUpTo) :
    Decodes argument w (.error (.invalidUtf8 validUpTo)) w₃
  | noText {pointer : Option Bytes} {length : Int32} {w₁ w₂ w₃ : World E H}
      (type : w.Answers (.valueType argument) 3 w₁)
      (pointed : w₁.Answers (.valueText argument) pointer w₂)
      (counted : w₂.Answers (.valueBytes argument) length w₃)
      (behind : Behind pointer length none) :
    Decodes argument w (.ok .null) w₃
  | blob {pointer : Option Bytes} {length : Int32} {octets : Bytes} {w₁ w₂ w₃ : World E H}
      (type : w.Answers (.valueType argument) 4 w₁)
      (pointed : w₁.Answers (.valueBlob argument) pointer w₂)
      (counted : w₂.Answers (.valueBytes argument) length w₃)
      (behind : Behind pointer length (some octets)) :
    Decodes argument w (.ok (.blob octets)) w₃
  | noBlob {pointer : Option Bytes} {length : Int32} {w₁ w₂ w₃ : World E H}
      (type : w.Answers (.valueType argument) 4 w₁)
      (pointed : w₁.Answers (.valueBlob argument) pointer w₂)
      (counted : w₂.Answers (.valueBytes argument) length w₃)
      (behind : Behind pointer length none) :
    Decodes argument w (.ok .null) w₃
  /-- The type code is that of a null, or unknown. -/
  | null {code : Int32} {w₁ : World E H} (type : w.Answers (.valueType argument) code w₁)
      (other : code ∉ ([1, 2, 3, 4] : List Int32)) :
    Decodes argument w (.ok .null) w₁

/-- An argument with the type code of a text is read as the text at its pointer. -/
theorem readArgument_run_text {argument : Argument} {pointer : Option Bytes} {length : Int32}
    {w w₁ w₂ w₃ : World E H} (type : w.Answers (.valueType argument) 3 w₁)
    (pointed : w₁.Answers (.valueText argument) pointer w₂)
    (counted : w₂.Answers (.valueBytes argument) length w₃) :
    (readArgument argument).run w = ((decodeText pointer length).map (.ofOption .text), w₃) := by
  unfold readArgument
  rw [Bridge.run_bind_of_run type.run]
  exact (Bridge.run_bind_of_run pointed.run).trans (Bridge.run_bind_of_run counted.run)

/-- An argument with the type code of octets is read as the octets at its pointer. -/
theorem readArgument_run_blob {argument : Argument} {pointer : Option Bytes} {length : Int32}
    {w w₁ w₂ w₃ : World E H} (type : w.Answers (.valueType argument) 4 w₁)
    (pointed : w₁.Answers (.valueBlob argument) pointer w₂)
    (counted : w₂.Answers (.valueBytes argument) length w₃) :
    (readArgument argument).run w = (.ok (.ofOption .blob (decodeBlob pointer length)), w₃) := by
  unfold readArgument
  rw [Bridge.run_bind_of_run type.run]
  exact (Bridge.run_bind_of_run pointed.run).trans (Bridge.run_bind_of_run counted.run)

/-- An argument with any other type code than the four is read as null. -/
theorem readArgument_run_null {argument : Argument} {code : Int32} {w w₁ : World E H}
    (type : w.Answers (.valueType argument) code w₁)
    (other : code ∉ ([1, 2, 3, 4] : List Int32)) :
    (readArgument argument).run w = (.ok .null, w₁) := by
  unfold readArgument
  rw [Bridge.run_bind_of_run type.run, ColumnType.ofCode_of_notMem other]
  rfl

/-- What an argument is decoded as, it is read as. -/
theorem Decodes.run {argument : Argument} {w w' : World E H} {result : Except CodecError Value}
    (h : Decodes argument w result w') : (readArgument argument).run w = (result, w') := by
  cases h with
  | integer type number | real type number =>
    unfold readArgument
    rw [Bridge.run_bind_of_run type.run]
    exact Bridge.run_bind_of_run number.run
  | text type pointed counted behind =>
    rw [readArgument_run_text type pointed counted, decodeText, decodeBlob_of_behind behind]
    simp only [Utf8.decode_encode]
    rfl
  | malformed type pointed counted behind malformed greatest =>
    rw [readArgument_run_text type pointed counted, decodeText, decodeBlob_of_behind behind]
    simp only [Utf8.decode_eq_error_iff.mpr ⟨malformed, greatest⟩]
    rfl
  | noText type pointed counted behind =>
    rw [readArgument_run_text type pointed counted, decodeText, decodeBlob_of_behind behind]
    rfl
  | blob type pointed counted behind | noBlob type pointed counted behind =>
    rw [readArgument_run_blob type pointed counted, decodeBlob_of_behind behind]
    rfl
  | null type other => exact readArgument_run_null type other

/-- An argument with the type code of a text is decoded as a text, as null, or not at all. -/
theorem exists_decodes_of_text {argument : Argument} {w w₁ : World E H}
    (type : w.Answers (.valueType argument) 3 w₁) :
    ∃ result w', Decodes argument w result w' := by
  have pointed := w₁.answers (.valueText argument)
  have counted := (w₁.asked (.valueText argument)).answers (.valueBytes argument)
  obtain ⟨octets, behind⟩ := exists_behind (w₁.answer (.valueText argument))
    ((w₁.asked (.valueText argument)).answer (.valueBytes argument))
  cases octets with
  | none => exact ⟨_, _, .noText type pointed counted behind⟩
  | some octets =>
    cases decoded : Utf8.decode octets with
    | ok text =>
      obtain rfl := Utf8.decode_eq_ok_iff.mp decoded
      exact ⟨_, _, .text type pointed counted behind⟩
    | error validUpTo =>
      obtain ⟨malformed, greatest⟩ := Utf8.decode_eq_error_iff.mp decoded
      exact ⟨_, _, .malformed type pointed counted behind malformed greatest⟩

/-- An argument with the type code of octets is decoded as octets or as null. -/
theorem exists_decodes_of_blob {argument : Argument} {w w₁ : World E H}
    (type : w.Answers (.valueType argument) 4 w₁) :
    ∃ result w', Decodes argument w result w' := by
  have pointed := w₁.answers (.valueBlob argument)
  have counted := (w₁.asked (.valueBlob argument)).answers (.valueBytes argument)
  obtain ⟨octets, behind⟩ := exists_behind (w₁.answer (.valueBlob argument))
    ((w₁.asked (.valueBlob argument)).answer (.valueBytes argument))
  cases octets with
  | none => exact ⟨_, _, .noBlob type pointed counted behind⟩
  | some octets => exact ⟨_, _, .blob type pointed counted behind⟩

/-- Every argument is decoded as something, or refused. -/
theorem exists_decodes (argument : Argument) (w : World E H) :
    ∃ result w', Decodes argument w result w' := by
  have type := w.answers (.valueType argument)
  by_cases integer : w.answer (.valueType argument) = 1
  · rw [integer] at type
    exact ⟨_, _, .integer type (World.answers _ _)⟩
  by_cases real : w.answer (.valueType argument) = 2
  · rw [real] at type
    exact ⟨_, _, .real type (World.answers _ _)⟩
  by_cases text : w.answer (.valueType argument) = 3
  · rw [text] at type
    exact exists_decodes_of_text type
  by_cases blob : w.answer (.valueType argument) = 4
  · rw [blob] at type
    exact exists_decodes_of_blob type
  · exact ⟨_, _, .null type (by simp [integer, real, text, blob])⟩

/-- An argument is refused for one reason only. -/
theorem Decodes.error_eq {argument : Argument} {w w' : World E H} {cause : CodecError}
    (h : Decodes argument w (.error cause) w') : ∃ validUpTo, cause = .invalidUtf8 validUpTo := by
  cases h
  exact ⟨_, rfl⟩

end Upcall

end EngineBridge
