import EngineBridge.Upcall
import Mathlib.Tactic.Common

/-!
# Results of invocations

What the engine is told when a user function has come to its end: a value with all its
octets, or an error with its message, which is cut off only where it is too long for a
length to be given.
-/

set_option autoImplicit false

namespace EngineBridge

open Native

variable {E : Engine} {H : Host}

/-- Whether a call gives an invocation its result. -/
def Native.Call.givesResult (context : Context) : Call → Bool
  | .resultNull c | .resultText c .. | .resultBlob c .. | .resultDouble c _ => c = context
  | .resultInt c _ | .resultInt64 c _ | .resultError c _ => c = context
  | _ => false

/-- A value that the engine can be told the length of, which has 32 bits. -/
def Value.Fits : Value → Prop
  | .text s => (Utf8.encode s).length ≤ 2147483647
  | .blob bs => bs.length ≤ 2147483647
  | _ => True

/-- A number of octets is read back from its native length. -/
theorem toNat_toInt_ofNat {n : Nat} (h : n ≤ maxLength) : (Int32.ofNat n).toInt.toNat = n := by
  rw [Int32.toInt_ofNat_of_lt (by simp only [maxLength] at h; omega)]
  rfl

/-- The octets of a value for the engine are those that it was made from. -/
theorem content_ofBytes {bs : Bytes} {buffer : Buffer} (h : Buffer.ofBytes bs = .ok buffer) :
    content buffer = bs := by
  unfold Buffer.ofBytes nativeLength at h
  split at h
  · cases h
  · next length heq =>
    split at heq
    · next hle =>
      cases heq
      cases h
      simp only [content, toNat_toInt_ofNat hle]
      cases bs with
      | nil => rfl
      | cons b rest => simp [readMemory]
    · cases heq

/-- Octets that fit make a value for the engine. -/
theorem ofBytes_of_fits {bs : Bytes} (h : bs.length ≤ maxLength) :
    ∃ buffer, Buffer.ofBytes bs = .ok buffer := by
  simp [Buffer.ofBytes, nativeLength, h]

namespace Upcall

/-- A call gives an invocation a value as its result, text and octets to the last octet. -/
def Carries (context : Context) (c : Call) : Value → Prop
  | .null => c = .resultNull context
  | .integer v =>
    (∃ n : Int32, n.toInt = v.toInt ∧ c = .resultInt context n) ∨ c = .resultInt64 context v
  | .real x => c = .resultDouble context x
  | .text s => ∃ buffer, content buffer = Utf8.encode s ∧ c = .resultText context buffer transient
  | .blob bs => ∃ buffer, content buffer = bs ∧ c = .resultBlob context buffer transient

/-- A call gives an invocation an error as its result, with a message that is complete up
to the largest length that there is. -/
def CarriesError (context : Context) (c : Call) (message : String) : Prop :=
  ∃ buffer, content buffer = (Utf8.encode message).take 2147483647 ∧ c = .resultError context buffer

/-- An error reaches the engine by one call. -/
theorem setError_run (context : Context) (message : String) (w : World E H) :
    ∃ c, CarriesError context c message ∧ (setError context message).run w = ((), w.asked c) := by
  refine ⟨_, ⟨_, ?_, rfl⟩, rfl⟩
  generalize Utf8.encode message = bs
  have hlength := toNat_toInt_ofNat (Nat.min_le_right bs.length maxLength)
  have hnone : min bs.length maxLength - bs.length = 0 := by omega
  simp only [content, readMemory, hlength, hnone, List.replicate_zero, List.append_nil]
  rw [Nat.min_comm, ← List.take_eq_take_min]
  rfl

/-- Only an invocation's own context gets the error. -/
theorem CarriesError.givesResult {context : Context} {c : Call} {message : String}
    (h : CarriesError context c message) : c.givesResult context = true := by
  obtain ⟨buffer, -, rfl⟩ := h
  simp [Call.givesResult]

/-- A value reaches the engine by one call, as it is if it fits. -/
theorem setResult_run (context : Context) (value : Value) (w : World E H) :
    ∃ c, c.givesResult context = true ∧ (value.Fits → Carries context c value) ∧
      (setResult context value).run w = ((), w.asked c) := by
  cases value with
  | null => exact ⟨_, by simp [Call.givesResult], fun _ => rfl, rfl⟩
  | real x => exact ⟨.resultDouble context x, by simp [Call.givesResult], fun _ => rfl, rfl⟩
  | integer v =>
    by_cases hv : v.toInt32.toInt64 = v
    · refine ⟨.resultInt context v.toInt32, by simp [Call.givesResult], fun _ => ?_, ?_⟩
      · have hint := congrArg Int64.toInt hv
        rw [Int32.toInt_toInt64] at hint
        exact .inl ⟨_, hint, rfl⟩
      · simp only [setResult, if_pos hv]
        rfl
    · refine ⟨.resultInt64 context v, by simp [Call.givesResult], fun _ => .inr rfl, ?_⟩
      simp only [setResult, if_neg hv]
      rfl
  | text s =>
    cases hb : Buffer.ofText s with
    | ok buffer =>
      refine ⟨.resultText context buffer transient, by simp [Call.givesResult], fun _ => ?_, ?_⟩
      · exact ⟨buffer, content_ofBytes hb, rfl⟩
      · simp only [setResult, hb]
        rfl
    | error e =>
      obtain ⟨c, hc, hrun⟩ := setError_run context e.message w
      refine ⟨c, hc.givesResult, fun fits => ?_, ?_⟩
      · obtain ⟨buffer, hok⟩ := ofBytes_of_fits fits
        rw [Buffer.ofText, hok] at hb
        cases hb
      · simpa only [setResult, hb] using hrun
  | blob bs =>
    cases hb : Buffer.ofBytes bs with
    | ok buffer =>
      refine ⟨.resultBlob context buffer transient, by simp [Call.givesResult], fun _ => ?_, ?_⟩
      · exact ⟨buffer, content_ofBytes hb, rfl⟩
      · simp only [setResult, hb]
        rfl
    | error e =>
      obtain ⟨c, hc, hrun⟩ := setError_run context e.message w
      refine ⟨c, hc.givesResult, fun fits => ?_, ?_⟩
      · obtain ⟨buffer, hok⟩ := ofBytes_of_fits fits
        rw [hok] at hb
        cases hb
      · simpa only [setResult, hb] using hrun

end Upcall

end EngineBridge
