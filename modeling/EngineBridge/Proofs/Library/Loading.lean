import EngineBridge.Library.Installation
import EngineBridge.Proofs.Library.Symbols

/-!
# Loading an engine

A table of addresses is resolved if every export is found, and fails at the first export,
in their order, that is not.  A library makes an engine if it is loaded and its exports are
resolved; the built-in engine always does.
-/

set_option autoImplicit false

namespace EngineBridge

namespace SymbolTable

variable {α : Type} {source : SymbolSource α} {symbols : List Symbol}

/-- The addresses that are collected are those of all exports, in their order. -/
theorem collect_eq_ok_iff {entries : List (Symbol × α)} :
    collect source symbols = .ok entries ↔
      entries.map Prod.fst = symbols ∧
        ∀ entry ∈ entries, source.lookup entry.1.name = some entry.2 := by
  induction symbols generalizing entries with
  | nil =>
    have : Except.ok [] = (.ok entries : Except InfrastructureError _) ↔ entries = [] :=
      ⟨fun h => (Except.ok.inj h).symm, fun h => by rw [h]⟩
    simp +contextual [collect, this]
  | cons symbol rest ih =>
    unfold collect
    cases found : source.lookup symbol.name with
    | none =>
      refine ⟨nofun, ?_⟩
      rintro ⟨listed, addresses⟩
      obtain ⟨entry, others, rfl, rfl, -⟩ := List.map_eq_cons_iff.mp listed
      have := addresses entry List.mem_cons_self
      rw [found] at this
      cases this
    | some address =>
      constructor
      · intro h
        cases collected : collect source rest with
        | error e => simp [collected, Except.map] at h
        | ok others =>
          obtain ⟨listed, addresses⟩ := ih.mp collected
          obtain rfl : (symbol, address) :: others = entries := by
            simpa [collected, Except.map] using h
          exact ⟨by simp [listed], List.forall_mem_cons.mpr ⟨found, addresses⟩⟩
      · rintro ⟨listed, addresses⟩
        obtain ⟨⟨first, a⟩, others, rfl, rfl, others_listed⟩ := List.map_eq_cons_iff.mp listed
        obtain ⟨foundFirst, foundOthers⟩ := List.forall_mem_cons.mp addresses
        obtain rfl : address = a := Option.some.inj (found.symm.trans foundFirst)
        rw [ih.mpr ⟨others_listed, foundOthers⟩]
        rfl

/-- What is missing is the first of the exports that is not found. -/
theorem collect_eq_error_iff {e : InfrastructureError} :
    collect source symbols = .error e ↔
      ∃ before symbol after, symbols = before ++ symbol :: after ∧
        (∀ s ∈ before, (source.lookup s.name).isSome) ∧ source.lookup symbol.name = none ∧
        e = .missingSymbol symbol source.description := by
  induction symbols with
  | nil => simp [collect]
  | cons symbol rest ih =>
    unfold collect
    cases found : source.lookup symbol.name with
    | none =>
      constructor
      · intro h
        exact ⟨[], symbol, rest, rfl, by simp, found, (Except.error.inj h).symm⟩
      · rintro ⟨before, missing, after, listed, present, absent, rfl⟩
        cases before with
        | nil => rw [(List.cons.inj listed).1]
        | cons first before =>
          have := present first List.mem_cons_self
          rw [← (List.cons.inj listed).1, found] at this
          cases this
    | some address =>
      -- this export is there, so the failure is that of the others
      have passed : (Except.map ((symbol, address) :: ·) (collect source rest) = .error e) ↔
          collect source rest = .error e := by
        cases collect source rest <;> simp [Except.map]
      refine passed.trans (ih.trans ?_)
      constructor
      · rintro ⟨before, missing, after, rfl, present, absent, rfl⟩
        have first : (source.lookup symbol.name).isSome := by rw [found]; rfl
        exact ⟨symbol :: before, missing, after, rfl, List.forall_mem_cons.mpr ⟨first, present⟩,
          absent, rfl⟩
      · rintro ⟨before, missing, after, listed, present, absent, rfl⟩
        cases before with
        | nil =>
          rw [← (List.cons.inj listed).1, found] at absent
          cases absent
        | cons first before =>
          exact ⟨before, missing, after, (List.cons.inj listed).2,
            (List.forall_mem_cons.mp present).2, absent, rfl⟩

end SymbolTable

/-- A binding has the name of a source, and its addresses for all exports. -/
structure Binding.Resolves (b : Binding) (source : SymbolSource Address) : Prop where
  named : b.source = source.description
  complete : b.table.entries.map Prod.fst = Symbol.all
  found : ∀ entry ∈ b.table.entries, source.lookup entry.1.name = some entry.2

/-- Why a library does not make an engine: it is not loaded, or lacks an export. -/
inductive LibrarySource.Unusable (loader : Loader) (library : LibrarySource) :
    InfrastructureError → Prop where
  | unloaded (path reason : String) :
    loader.source library = .error (.libraryLoad path reason) →
      Unusable loader library (.libraryLoad path reason)
  | incomplete (source : SymbolSource Address) (before : List Symbol) (symbol : Symbol)
    (after : List Symbol) :
    loader.source library = .ok source → Symbol.all = before ++ symbol :: after →
      (∀ s ∈ before, (source.lookup s.name).isSome) → source.lookup symbol.name = none →
        Unusable loader library (.missingSymbol symbol source.description)

/-- A source is not had only because no library was loaded. -/
theorem Loader.source_eq_error {loader : Loader} {library : LibrarySource}
    {e : InfrastructureError} (h : loader.source library = .error e) :
    ∃ path reason, e = .libraryLoad path reason := by
  cases library with
  | bundled => cases h
  | system =>
    simp only [source, loadDefault] at h
    split at h
    · cases h
    · exact ⟨_, _, (Except.error.inj h).symm⟩
  | path path =>
    simp only [source, load] at h
    split at h
    · cases h
    · exact ⟨_, _, (Except.error.inj h).symm⟩

namespace Binding

variable {loader : Loader} {library : LibrarySource}

/-- A library that is there makes an engine of its exports, or lacks one. -/
theorem load_of_source {source : SymbolSource Address}
    (loaded : loader.source library = .ok source) :
    load loader library =
      (SymbolTable.collect source Symbol.all).map fun entries =>
        ⟨source.description, ⟨entries⟩⟩ := by
  unfold load
  rw [loaded]
  cases collected : SymbolTable.collect source Symbol.all <;>
    simp [bind, Except.bind, SymbolTable.resolve, collected, Except.map]

/-- A library that is not there makes no engine. -/
theorem load_of_source_error {e : InfrastructureError}
    (failed : loader.source library = .error e) : load loader library = .error e := by
  unfold load
  rw [failed]
  rfl

/-- An engine comes from a library that is loaded, with the addresses of all exports. -/
theorem load_eq_ok_iff {b : Binding} :
    load loader library = .ok b ↔
      ∃ source, loader.source library = .ok source ∧ b.Resolves source := by
  cases loaded : loader.source library with
  | error e => simp [load_of_source_error loaded]
  | ok source =>
    rw [load_of_source loaded]
    constructor
    · intro h
      cases collected : SymbolTable.collect source Symbol.all with
      | error e => rw [collected] at h; cases h
      | ok entries =>
        rw [collected] at h
        obtain rfl := Except.ok.inj h
        obtain ⟨complete, found⟩ := SymbolTable.collect_eq_ok_iff.mp collected
        exact ⟨source, rfl, rfl, complete, found⟩
    · rintro ⟨source', same, named, complete, found⟩
      obtain rfl := Except.ok.inj same
      rw [SymbolTable.collect_eq_ok_iff.mpr ⟨complete, found⟩]
      obtain ⟨_, table⟩ := b
      obtain rfl := named
      rfl

/-- No engine comes from a library just if it is not loaded or lacks an export. -/
theorem load_eq_error_iff {e : InfrastructureError} :
    load loader library = .error e ↔ library.Unusable loader e := by
  cases loaded : loader.source library with
  | error e' =>
    rw [load_of_source_error loaded]
    obtain ⟨path, reason, rfl⟩ := Loader.source_eq_error loaded
    constructor
    · intro h
      obtain rfl := Except.error.inj h
      exact .unloaded path reason loaded
    · rintro (⟨path', reason', failed⟩ | ⟨source, _, _, _, ok, _⟩)
      · rw [Except.error.inj (loaded.symm.trans failed)]
      · rw [loaded] at ok
        cases ok
  | ok source =>
    rw [load_of_source loaded]
    have passed : ((SymbolTable.collect source Symbol.all).map fun entries =>
          (⟨source.description, ⟨entries⟩⟩ : Binding)) = .error e ↔
        SymbolTable.collect source Symbol.all = .error e := by
      cases SymbolTable.collect source Symbol.all <;> simp [Except.map]
    rw [passed, SymbolTable.collect_eq_error_iff]
    constructor
    · rintro ⟨before, symbol, after, all, present, absent, rfl⟩
      exact .incomplete source before symbol after loaded all present absent
    · rintro (⟨path, reason, failed⟩ | ⟨source', before, symbol, after, ok, all, present, absent⟩)
      · rw [loaded] at failed
        cases failed
      · obtain rfl := Except.ok.inj (loaded.symm.trans ok)
        exact ⟨before, symbol, after, all, present, absent, rfl⟩

/-- The engine that is built in, with the addresses of its exports. -/
def builtIn : Binding where
  source := "bundled"
  table := ⟨Symbol.all.map fun symbol => (symbol, ⟨"bundled", symbol.name⟩)⟩

/-- The built-in engine has all exports. -/
theorem builtIn_resolves : builtIn.Resolves bundledEngine where
  named := rfl
  complete := by simp [builtIn, Function.comp_def]
  found := by
    intro entry mem
    obtain ⟨symbol, -, rfl⟩ := List.mem_map.mp mem
    exact bundledEngine_lookup_eq_some_iff.mpr
      ⟨List.mem_map_of_mem (Symbol.mem_all symbol), rfl⟩

/-- The built-in engine can always be loaded, whatever libraries there are. -/
theorem load_bundled (loader : Loader) : load loader .bundled = .ok builtIn :=
  load_eq_ok_iff.mpr ⟨bundledEngine, rfl, builtIn_resolves⟩

end Binding

end EngineBridge
