import EngineBridge.Proofs.Library.Loading

/-!
# Resolving the exports

A source that has all exports gives a table in which each export has the address that the
source has under the name of that export.  Of a source that lacks some, the first one in
order is reported, whichever others are missing.  What else a source has makes no
difference.
-/

set_option autoImplicit false

namespace EngineBridge

namespace SymbolTable

variable {α : Type} {source : SymbolSource α}

/-- A table is resolved just if it has the addresses of all exports, in their order. -/
theorem resolve_eq_ok_iff {table : SymbolTable α} :
    resolve source = .ok table ↔
      table.entries.map Prod.fst = Symbol.all ∧
        ∀ entry ∈ table.entries, source.lookup entry.1.name = some entry.2 := by
  rw [← collect_eq_ok_iff]
  unfold resolve
  cases collect source Symbol.all with
  | error e => simp [Except.map]
  | ok entries =>
    obtain ⟨listed⟩ := table
    simp [Except.map]

/-- The failure names the first export that is missing. -/
theorem resolve_eq_error_iff {e : InfrastructureError} :
    resolve source = .error e ↔
      ∃ before missing after, Symbol.all = before ++ missing :: after ∧
        (∀ symbol ∈ before, (source.lookup symbol.name).isSome) ∧
        source.lookup missing.name = none ∧ e = .missingSymbol missing source.description := by
  rw [← collect_eq_error_iff]
  unfold resolve
  cases collect source Symbol.all <;> simp [Except.map]

/-- The table has for each export what the source has under the name of that export. -/
theorem address?_of_resolve {table : SymbolTable α} (resolved : resolve source = .ok table)
    (symbol : Symbol) :
    ∃ address, table.address? symbol = some address ∧
      source.lookup symbol.name = some address := by
  obtain ⟨complete, found⟩ := resolve_eq_ok_iff.mp resolved
  have listed : symbol ∈ table.entries.map Prod.fst := complete ▸ Symbol.mem_all symbol
  obtain ⟨entry, mem, rfl⟩ := List.mem_map.mp listed
  have isSome : (table.entries.lookup entry.1).isSome :=
    List.lookup_isSome_iff.mpr ⟨entry, mem, beq_self_eq_true _⟩
  obtain ⟨address, lookup⟩ := Option.isSome_iff_exists.mp isSome
  obtain ⟨before, after, split, -⟩ := List.lookup_eq_some_iff.mp lookup
  have entered : (entry.1, address) ∈ table.entries := by simp [split]
  exact ⟨address, lookup, found _ entered⟩

/-- The exports of a source are resolved just if none of them is missing. -/
theorem exists_resolve_iff :
    (∃ table, resolve source = .ok table) ↔
      ∀ exported ∈ Symbol.names, (source.lookup exported).isSome := by
  constructor
  · rintro ⟨table, resolved⟩ exported mem
    obtain ⟨symbol, rfl⟩ := Symbol.mem_names_iff.mp mem
    obtain ⟨address, -, lookup⟩ := address?_of_resolve resolved symbol
    rw [lookup]
    rfl
  · intro present
    cases outcome : resolve source with
    | ok table => exact ⟨table, rfl⟩
    | error e =>
      obtain ⟨-, missing, -, -, -, absent, -⟩ := resolve_eq_error_iff.mp outcome
      have isSome := present missing.name (Symbol.mem_names_iff.mpr ⟨missing, rfl⟩)
      rw [absent] at isSome
      cases isSome

/-- Two sources of one name that have the same under the names of the exports are resolved
alike. -/
theorem resolve_congr {other : SymbolSource α} (named : other.description = source.description)
    (same : ∀ exported ∈ Symbol.names, other.lookup exported = source.lookup exported) :
    resolve other = resolve source := by
  have lookup (symbol : Symbol) : other.lookup symbol.name = source.lookup symbol.name :=
    same symbol.name (Symbol.mem_names_iff.mpr ⟨symbol, rfl⟩)
  cases outcome : resolve source with
  | ok table =>
    obtain ⟨complete, found⟩ := resolve_eq_ok_iff.mp outcome
    exact resolve_eq_ok_iff.mpr
      ⟨complete, fun entry mem => (lookup entry.1).trans (found entry mem)⟩
  | error e =>
    obtain ⟨before, missing, after, listed, present, absent, rfl⟩ :=
      resolve_eq_error_iff.mp outcome
    refine resolve_eq_error_iff.mpr
      ⟨before, missing, after, listed, fun symbol mem => ?_, (lookup missing).trans absent, ?_⟩
    · rw [lookup]
      exact present symbol mem
    · rw [named]

/-- The exports of a source are resolved just if it has all of them, each to the address that
the source has for it; otherwise the first one that is missing is reported, with the name
of the source.  Nothing else that the source has counts.  The names of the exports are
distinct, and the built-in engine has just these names, each for the function of that name,
so that it can always be loaded. -/
theorem exports_resolved_in_order {α : Type} (source : SymbolSource α) :
    ((∃ table, resolve source = .ok table) ↔
      ∀ exported ∈ Symbol.names, (source.lookup exported).isSome) ∧
    (∀ table, resolve source = .ok table → ∀ symbol, ∃ address,
      table.address? symbol = some address ∧ source.lookup symbol.name = some address) ∧
    (∀ e, resolve source = .error e ↔
      ∃ before missing after, Symbol.all = before ++ missing :: after ∧
        (∀ symbol ∈ before, (source.lookup symbol.name).isSome) ∧
        source.lookup missing.name = none ∧ e = .missingSymbol missing source.description) ∧
    (∀ other : SymbolSource α, other.description = source.description →
      (∀ exported ∈ Symbol.names, other.lookup exported = source.lookup exported) →
      resolve other = resolve source) ∧
    Symbol.names.Nodup ∧
    (∀ exported address, bundledEngine.lookup exported = some address ↔
      exported ∈ Symbol.names ∧ address = ⟨"bundled", exported⟩) ∧
    (∀ loader, Binding.load loader .bundled = .ok .builtIn) := by
  refine ⟨exists_resolve_iff, fun table resolved => address?_of_resolve resolved,
    fun e => resolve_eq_error_iff, fun other named same => resolve_congr named same,
    Symbol.nodup_names, fun exported address => bundledEngine_lookup_eq_some_iff,
    Binding.load_bundled⟩

/-- A source that lacks two exports fails for the one that comes first, and each step of the
built-in engine is a step. -/
theorem crippled_engine_lacks_errstr :
    (resolve (bundledEngine.without "crippled" ["sqlite3_step", "sqlite3_errstr"]) =
      .error (.missingSymbol .errstr "crippled")) ∧
    (∃ table, resolve bundledEngine = .ok table ∧
      table.address? .step = some ⟨"bundled", "sqlite3_step"⟩) := by
  constructor
  · have outcome := (exports_resolved_in_order
      (bundledEngine.without "crippled" ["sqlite3_step", "sqlite3_errstr"])).2.2.1
    exact (outcome _).mpr ⟨[.openV2, .closeV2, .errmsg], .errstr, _, rfl, by decide, rfl, rfl⟩
  · have laws := exports_resolved_in_order bundledEngine
    have names : ∀ exported ∈ Symbol.names, (bundledEngine.lookup exported).isSome := by
      intro exported mem
      rw [(laws.2.2.2.2.2.1 exported _).mpr ⟨mem, rfl⟩]
      rfl
    obtain ⟨table, resolved⟩ := laws.1.mpr names
    obtain ⟨address, entered, found⟩ := laws.2.1 table resolved .step
    obtain ⟨-, rfl⟩ := (laws.2.2.2.2.2.1 _ _).mp found
    exact ⟨table, resolved, entered⟩

end SymbolTable

end EngineBridge
