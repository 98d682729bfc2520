import EngineBridge.Library.Source
import Mathlib.Data.List.Nodup

/-!
# The names of the exports

No two exports have the same name, and the built-in engine gives for the name of an export
the function that this export is, and nothing for any other name.
-/

set_option autoImplicit false

namespace EngineBridge

namespace Symbol

/-- No two exports share a stem. -/
theorem nodup_stems : (all.map stem).Nodup := by
  simp [all, stem]

/-- No two exports share a name. -/
theorem nodup_names : names.Nodup := by
  have prefixed : names = (all.map stem).map ("sqlite3_" ++ ·) := by
    simp [names, name, Function.comp_def]
  have inj : Function.Injective (fun stem : String => "sqlite3_" ++ stem) :=
    fun _ _ same => by simpa using same
  rw [prefixed]
  exact nodup_stems.map inj

/-- An export is known by its name. -/
theorem name_injective : Function.Injective name :=
  fun s t same => List.inj_on_of_nodup_map nodup_names (mem_all s) (mem_all t) same

/-- The names of exports are those that exports have. -/
theorem mem_names_iff {exported : String} : exported ∈ names ↔ ∃ s : Symbol, s.name = exported := by
  simp [names, mem_all]

end Symbol

/-- Each function of the built-in engine stands under its own name, in the order of the
exports. -/
theorem bundledFunctions_eq :
    bundledFunctions = Symbol.all.map fun symbol => (symbol.name, symbol) := by
  decide +kernel

/-- In the built-in engine, an export is found under its own name only. -/
theorem lookup_bundledFunctions_eq_some_iff {exported : String} {symbol : Symbol} :
    bundledFunctions.lookup exported = some symbol ↔ symbol.name = exported := by
  -- an entry that is found is one of the list, and there each symbol has its own name
  have own : ∀ found : Symbol, bundledFunctions.lookup exported = some found →
      found.name = exported := by
    intro found h
    obtain ⟨before, after, listed, -⟩ := List.lookup_eq_some_iff.mp h
    have mem : (exported, found) ∈ bundledFunctions := by simp [listed]
    rw [bundledFunctions_eq] at mem
    obtain ⟨symbol, -, same⟩ := List.mem_map.mp mem
    obtain ⟨rfl, rfl⟩ := Prod.mk.inj same
    rfl
  refine ⟨own symbol, ?_⟩
  rintro rfl
  have listed : (symbol.name, symbol) ∈ bundledFunctions := by
    rw [bundledFunctions_eq]
    exact List.mem_map_of_mem (Symbol.mem_all symbol)
  have isSome : (bundledFunctions.lookup symbol.name).isSome :=
    List.lookup_isSome_iff.mpr ⟨_, listed, beq_self_eq_true _⟩
  obtain ⟨found, lookup⟩ := Option.isSome_iff_exists.mp isSome
  rw [lookup, Symbol.name_injective (own found lookup)]

/-- The built-in engine has the exports that are used, each under its own address. -/
theorem bundledEngine_lookup_eq_some_iff {exported : String} {address : Address} :
    bundledEngine.lookup exported = some address ↔
      exported ∈ Symbol.names ∧ address = ⟨"bundled", exported⟩ := by
  have found : bundledEngine.lookup exported = some address ↔
      ∃ symbol : Symbol, symbol.name = exported ∧ ⟨"bundled", symbol.name⟩ = address := by
    simp [bundledEngine, lookup_bundledFunctions_eq_some_iff]
  rw [found, Symbol.mem_names_iff]
  constructor
  · rintro ⟨symbol, rfl, rfl⟩
    exact ⟨⟨symbol, rfl⟩, rfl⟩
  · rintro ⟨⟨symbol, rfl⟩, rfl⟩
    exact ⟨symbol, rfl, rfl⟩

end EngineBridge
