import EngineBridge.Registry

/-!
# The part of a connection in the registry

The closures of one connection, by their slots.  A change of the registry concerns the part of
one connection and no other one, even if slots of the same name are filled in others.
-/

set_option autoImplicit false

namespace EngineBridge.Registry

variable {H : Host} (r : Registry H)

/-- The closures of a connection with their slots, those registered first in front. -/
def entriesOf (owner : ConnectionId) : List (Slot × Registration H) :=
  (r.entries.filter (·.1.owner == owner)).map fun entry => (entry.1.slot, entry.2)

/-- What a connection owns is what stands in its entries. -/
theorem ownedBy_eq_map (owner : ConnectionId) :
    r.ownedBy owner = (r.entriesOf owner).map (·.2) := by
  simp [ownedBy, entriesOf]

/-- A connection has as many registrations as entries. -/
theorem count_eq_length (owner : ConnectionId) : r.count owner = (r.entriesOf owner).length := by
  simp [count, ownedBy_eq_map]

/-- A closure is found in the part of its connection. -/
theorem find?_eq_lookup (key : FunctionKey) :
    r.find? key = (r.entriesOf key.owner).lookup key.slot := by
  obtain ⟨entries, distinct⟩ := r
  simp only [find?, entriesOf]
  clear distinct
  induction entries with
  | nil => rfl
  | cons entry rest ih =>
    obtain ⟨⟨owner, slot⟩, registration⟩ := entry
    obtain ⟨keyOwner, keySlot⟩ := key
    by_cases howner : owner = keyOwner
    · subst howner
      by_cases hslot : slot = keySlot
      · simp [hslot]
      · have differs : (keySlot == slot) = false := beq_false_of_ne (Ne.symm hslot)
        simpa [hslot, List.lookup_cons, differs] using ih
    · simpa [howner] using ih

/-- Emptying a slot concerns its connection only. -/
theorem entriesOf_erase (key : FunctionKey) (owner : ConnectionId) :
    (r.erase key).entriesOf owner =
      if owner = key.owner then (r.entriesOf owner).filter (·.1 != key.slot)
      else r.entriesOf owner := by
  simp only [entriesOf, erase, List.filter_filter, List.filter_map]
  split
  · next heq =>
    congr 1
    refine List.filter_congr fun entry _ => ?_
    obtain ⟨⟨other, slot⟩, _⟩ := entry
    obtain ⟨keyOwner, keySlot⟩ := key
    by_cases h : other = owner
    · by_cases hslot : slot = keySlot
      · simp_all
      · simp_all [bne_iff_ne.mpr hslot]
    · simp [beq_false_of_ne h]
  · next hne =>
    congr 1
    refine List.filter_congr fun entry _ => ?_
    obtain ⟨⟨other, slot⟩, _⟩ := entry
    by_cases h : other = owner
    · subst h
      have hkey : (⟨other, slot⟩ : FunctionKey) ≠ key := fun heq => hne (heq ▸ rfl)
      simp [hkey]
    · simp [h]

/-- Filling a slot concerns its connection only. -/
theorem entriesOf_insert (key : FunctionKey) (registration : Registration H)
    (owner : ConnectionId) :
    (r.insert key registration).entriesOf owner =
      if owner = key.owner then
        (r.entriesOf owner).filter (·.1 != key.slot) ++ [(key.slot, registration)]
      else r.entriesOf owner := by
  have parts : (r.insert key registration).entriesOf owner =
      (r.erase key).entriesOf owner ++
        if owner = key.owner then [(key.slot, registration)] else [] := by
    simp only [entriesOf, insert, List.filter_append, List.map_append]
    by_cases h : owner = key.owner
    · simp [h]
    · simp [h, Ne.symm h]
  rw [parts, entriesOf_erase]
  split
  · rfl
  · rw [List.append_nil]

/-- Taking the closures of a connection away concerns that connection only. -/
theorem entriesOf_eraseOwner (owner other : ConnectionId) :
    (r.eraseOwner owner).entriesOf other = if other = owner then [] else r.entriesOf other := by
  simp only [entriesOf, eraseOwner, List.filter_filter]
  split
  · next heq =>
    subst heq
    simp
  · next hne =>
    congr 1
    refine List.filter_congr fun entry _ => ?_
    by_cases h : entry.1.owner = other
    · simp [h, hne]
    · simp [h]

end EngineBridge.Registry
