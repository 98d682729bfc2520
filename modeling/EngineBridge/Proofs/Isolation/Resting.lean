import EngineBridge.Proofs.Isolation.Performing

/-!
# Parties between their steps

Between two steps of a party nothing more is said of it than what it has and how often its
functions have run, so that its next step finds worlds that are alike again.
-/

set_option autoImplicit false

namespace EngineBridge.Session

open Native

variable {E : Engine} {O : Oblivious E} {P : Party} {θ : Ties} {w w' : World E (host E)}

/-- What has happened since is what is on top of the transcript, in order. -/
theorem since_eq_reverse {w w₀ : World E (host E)} {past : List Entry}
    (grown : w.transcript = past ++ w₀.transcript) :
    w.since w₀.transcript.length = past.reverse := by
  unfold World.since
  rw [grown, List.length_append, Nat.add_sub_cancel, List.take_left]

/-- A world is settled again after a step. -/
theorem Stays.settled {k k₀ : Known} {w₀ : World E (host E)} (h : Stays P k₀ w₀ k w)
    (settled : Settled P k₀ w₀) (runs : ∀ token, token ∉ k.tokens → w.runs token = w₀.runs token) :
    Settled P k w where
  ids id hid := (h.ids id hid).1
  tokens token htoken := (h.tokens token htoken).1
  entries _ new := h.entries_new settled new
  target _ new := h.target_new settled new
  engaged _ new := h.engaged_new settled new
  runs token new := by
    rw [runs token (h.not_mem_tokens new)]
    exact settled.runs token (Nat.lt_of_le_of_lt h.closures new)
  others _ _ other found := h.others settled other found

/-- Two worlds between steps of a party. -/
structure Rested (O : Oblivious E) (P : Party) (θ : Ties) (w w' : World E (host E)) : Prop
    extends Corresponds O P θ w w' where
  left : Settled P θ.left w
  right : Settled P θ.right w'
  runs : ∀ pair ∈ θ.tokens, w.runs pair.1 = w'.runs pair.2

/-- What a step of a party does in two worlds, after which the ties are `θ₁`. -/
structure Stepped (O : Oblivious E) (P : Party) (θ θ₁ : Ties) (w w' : World E (host E))
    (m : SessionM E (Record E.Response)) : Prop where
  le : θ ≤ θ₁
  rested : Rested O P θ₁ (m w).2 (m w').2
  record : RecordTied θ₁ (m w).1 (m w').1
  stays : Stays P θ.left w θ₁.left (m w).2
  runs : ∀ token, token ∉ θ₁.left.tokens → (m w).2.runs token = w.runs token

namespace Rested

/-- The worlds in which the party is about to take its next step. -/
def setting (h : Rested O P θ w w') : Setting E where
  oblivious := O
  party := P
  ties := θ
  left := { w with host := { w.host with nested := [] } }
  right := { w' with host := { w'.host with nested := [] } }
  leftSettled := { h.left with }
  rightSettled := { h.right with }
  runs := h.runs

/-- Where a party rests, its worlds are alike. -/
theorem alike (h : Rested O P θ w w') : Alike h.setting θ h.setting.left h.setting.right :=
  { h with
    le := le_refl θ
    left := .refl h.setting.leftSettled
    right := .refl h.setting.rightSettled
    nested := .nil
    past := ⟨[], [], rfl, rfl, .nil⟩ }

/-- A step of a party leads from rest to rest. -/
theorem next (h : Rested O P θ w w') (depth : Nat) {step : Step E.Stimulus}
    (within : step.Within P) : ∃ θ₁, Stepped O P θ θ₁ w w' (next depth step) := by
  obtain ⟨θ₁, le, after, report⟩ :=
    agrees_perform (S := h.setting) depth within _ _ h.alike
  have left : Stays P θ.left w θ₁.left (perform depth step h.setting.left).2 :=
    { after.left with }
  have right : Stays P θ.right w' θ₁.right (perform depth step h.setting.right).2 :=
    { after.right with }
  have runs : ∀ token, token ∉ θ₁.left.tokens →
      (perform depth step h.setting.left).2.runs token = w.runs token :=
    fun token unknown => after.runs_left unknown
  have runs' : ∀ token, token ∉ θ₁.right.tokens →
      (perform depth step h.setting.right).2.runs token = w'.runs token :=
    fun token unknown => after.runs_right unknown
  -- the record has the part of the transcript that is not from before the step
  obtain ⟨past, past', grown, grown', entries⟩ := after.past
  refine ⟨θ₁, le, ?_, ?_, left, runs⟩
  · exact
      { after with
        left := left.settled h.left runs
        right := right.settled h.right runs'
        runs := fun pair hpair => after.runs hpair }
  · have since : (perform depth step h.setting.left).2.since w.transcript.length = past.reverse :=
      since_eq_reverse grown
    have since' : (perform depth step h.setting.right).2.since w'.transcript.length =
        past'.reverse := since_eq_reverse grown'
    refine ⟨report, List.rel_reverse after.nested, ?_⟩
    show List.Forall₂ _ ((perform depth step h.setting.left).2.since w.transcript.length)
      ((perform depth step h.setting.right).2.since w'.transcript.length)
    rw [since, since']
    exact List.rel_reverse entries

end Rested

end EngineBridge.Session
