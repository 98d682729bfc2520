import EngineBridge.Session.State
import Mathlib.Data.Multiset.AddSub

/-!
# What slots hold

The values in slots, all together, and how they change when a slot is filled or emptied.
-/

set_option autoImplicit false

namespace EngineBridge.Session

variable {α : Type}

/-- Entries with later names are not concerned when a name is taken out. -/
theorem filter_of_lt {name : String} {entries : List (String × α)}
    (h : ∀ entry ∈ entries, name < entry.1) : entries.filter (·.1 != name) = entries := by
  refine List.filter_eq_self.mpr fun entry he => ?_
  simpa using fun heq : entry.1 = name => String.lt_irrefl name (heq ▸ h entry he)

/-- Apart from the entry that is placed, the other entries remain. -/
theorem perm_place (name : String) (value : α) {entries : List (String × α)}
    (h : entries.Pairwise (·.1 < ·.1)) :
    (place name value entries).Perm ((name, value) :: entries.filter (·.1 != name)) := by
  induction entries with
  | nil => exact .refl _
  | cons first rest ih =>
    obtain ⟨other, v⟩ := first
    obtain ⟨hfirst, hrest⟩ := List.pairwise_cons.mp h
    simp only [place]
    split
    · next hlt =>
      have hall : ∀ entry ∈ (other, v) :: rest, name < entry.1 := by
        intro entry he
        rcases List.mem_cons.mp he with rfl | he
        · exact hlt
        · exact String.lt_trans hlt (hfirst entry he)
      rw [filter_of_lt hall]
    · split
      · next heq =>
        subst heq
        simp [filter_of_lt hfirst]
      · next hne =>
        rw [List.filter_cons_of_pos (by simpa using Ne.symm hne)]
        exact ((ih hrest).cons (other, v)).trans (.swap _ _ _)

/-- An entry and the others are all entries. -/
theorem perm_of_lookup {name : String} {value : α} {entries : List (String × α)}
    (h : entries.Pairwise (·.1 < ·.1)) (found : entries.lookup name = some value) :
    entries.Perm ((name, value) :: entries.filter (·.1 != name)) := by
  induction entries with
  | nil => cases found
  | cons first rest ih =>
    obtain ⟨other, v⟩ := first
    obtain ⟨hfirst, hrest⟩ := List.pairwise_cons.mp h
    by_cases heq : name = other
    · subst heq
      obtain rfl : v = value := by simpa using found
      simp [filter_of_lt hfirst]
    · rw [List.lookup_cons, beq_false_of_ne heq] at found
      rw [List.filter_cons_of_pos (by simpa using Ne.symm heq)]
      exact ((ih hrest found).cons (other, v)).trans (.swap _ _ _)

namespace Slots

variable (slots : Slots α) {name other : String} {value : α}

/-- What is in the slots. -/
def values : Multiset α := (slots.entries.map (·.2) : List α)

/-- A slot that is filled adds its value to those of the others. -/
theorem values_put (name : String) (value : α) :
    (slots.put name value).values = value ::ₘ (slots.erase name).values := by
  have h := (perm_place name value slots.ordered).map (·.2)
  exact Quotient.sound h

variable {slots}

/-- The entries are the slots that are filled. -/
theorem mem_entries_iff : (name, value) ∈ slots.entries ↔ slots.get? name = some value := by
  obtain ⟨entries, ordered⟩ := slots
  simp only [get?]
  induction entries with
  | nil => simp
  | cons first rest ih =>
    obtain ⟨head, v⟩ := first
    obtain ⟨hfirst, hrest⟩ := List.pairwise_cons.mp ordered
    rw [List.mem_cons, List.lookup_cons]
    by_cases hname : name = head
    · subst hname
      have hout : (name, value) ∉ rest := fun he => String.lt_irrefl name (hfirst _ he)
      simp [hout, eq_comm]
    · have hb := beq_false_of_ne hname
      simp [hb, hname, ih hrest]

/-- A value in the slots is in one of them. -/
theorem mem_values_iff : value ∈ slots.values ↔ ∃ name, slots.get? name = some value := by
  simp [values, ← mem_entries_iff]

/-- What is in a slot that is filled, and what is in the others. -/
theorem values_of_get? (h : slots.get? name = some value) :
    slots.values = value ::ₘ (slots.erase name).values :=
  Quotient.sound ((perm_of_lookup slots.ordered h).map (·.2))

/-- There is nothing to take out of an empty slot. -/
theorem erase_of_get?_none (h : slots.get? name = none) : slots.erase name = slots := by
  obtain ⟨entries, ordered⟩ := slots
  have hkeep : entries.filter (·.1 != name) = entries := by
    refine List.filter_eq_self.mpr fun entry he => ?_
    have hlookup := List.lookup_eq_none_iff.mp h entry he
    exact bne_iff_ne.mpr (bne_iff_ne.mp hlookup).symm
  simp only [erase, hkeep]

end Slots

end EngineBridge.Session
