import EngineBridge.Proofs.Custody.Failing
import EngineBridge.Proofs.Session.Reaching
import EngineBridge.Scripted.Engine
import Mathlib.Data.Set.Card

/-!
# The function table of a session

The engine keeps a table of the functions of each connection, and the registry keeps their
closures.  Between operations, those of callbacks included, the registry has a closure for a
function exactly if the latest definition of the function that the engine has agreed to comes
with an entry point, and it is the closure that the program gave along with that definition.
-/

set_option autoImplicit false

namespace EngineBridge

open Native

variable {H : Host}

/-! ## Counting closures -/

namespace Registry

/-- The slots of a connection that hold a closure. -/
def occupied (r : Registry H) (owner : ConnectionId) : Set Slot :=
  {slot | (r.find? ⟨owner, slot⟩).isSome}

/-- A slot holds a closure if the registry has an entry for it. -/
theorem find?_isSome_iff (r : Registry H) (key : FunctionKey) :
    (r.find? key).isSome ↔ ∃ entry ∈ r.entries, entry.1 = key := by
  simp only [find?, Option.isSome_map, List.find?_isSome, beq_iff_eq]

/-- A connection has one closure in each of its slots that are occupied. -/
theorem count_eq_encard_occupied (r : Registry H) (owner : ConnectionId) :
    (r.count owner : ℕ∞) = (r.occupied owner).encard := by
  let slots := (r.entries.filter (·.1.owner == owner)).map (·.1.slot)
  have nodup : slots.Nodup := by
    refine List.Pairwise.map _ (fun _ _ h => h) (List.pairwise_filter.mpr ?_)
    refine r.distinct.imp fun {first second} hne howner howner' hslot => hne ?_
    have heq : first.1.owner = second.1.owner :=
      (beq_iff_eq.mp howner).trans (beq_iff_eq.mp howner').symm
    cases hfirst : first.1
    cases hsecond : second.1
    simp_all
  have members : r.occupied owner = {slot | slot ∈ slots} := by
    ext slot
    simp only [occupied, Set.mem_ofPred_eq, find?_isSome_iff, slots, List.mem_map,
      List.mem_filter, beq_iff_eq]
    constructor
    · rintro ⟨entry, hmem, hkey⟩
      exact ⟨entry, ⟨hmem, by rw [hkey]⟩, by rw [hkey]⟩
    · rintro ⟨entry, ⟨hmem, rfl⟩, rfl⟩
      exact ⟨entry, hmem, rfl⟩
  have length : r.count owner = slots.length := by
    simp only [count, ownedBy, slots, List.length_map]
  rw [members, ← List.coe_toFinset, Set.encard_coe_eq_coe_finsetCard,
    List.toFinset_card_of_nodup nodup, length]

/-- A connection has one closure for each of its functions, and a busy handler if it has
one. -/
theorem count_eq_encard_functions (r : Registry H) (owner : ConnectionId) :
    (r.count owner : ℕ∞) =
      {f : String × Int32 | (r.find? ⟨owner, .function f.1 f.2⟩).isSome}.encard +
        if (r.find? ⟨owner, .busyHandler⟩).isSome then 1 else 0 := by
  have functions : {f : String × Int32 | (r.find? ⟨owner, .function f.1 f.2⟩).isSome}.encard =
      (r.occupied owner \ {.busyHandler}).encard := by
    have injective : Function.Injective fun f : String × Int32 => Slot.function f.1 f.2 := by
      rintro ⟨name, arity⟩ ⟨name', arity'⟩ heq
      obtain ⟨rfl, rfl⟩ := Slot.function.inj heq
      rfl
    rw [← injective.encard_image]
    congr 1
    ext slot
    cases slot with
    | busyHandler => simp
    | function name arity => simp [occupied]
  rw [count_eq_encard_occupied, functions]
  split
  · next busy =>
    have mem : Slot.busyHandler ∈ r.occupied owner := busy
    rw [Set.encard_sdiff_singleton_add_one mem]
  · next idle =>
    have absent : Slot.busyHandler ∉ r.occupied owner := idle
    rw [Set.sdiff_singleton_eq_self absent, add_zero]

end Registry

/-- The functions of an object by name, in lower case, and arity: those whose latest definition
comes with an entry point. -/
def definedFunctions (d : Database) (log : List Entry) : Set (String × Int32) :=
  {f | ∃ earlier, latestDefinition d (.function f.1 f.2) log = some (true, earlier)}

/-- A slot that holds what the latest definition says is occupied if the definition comes with
an entry point. -/
theorem Reflects.isSome_iff {id : ConnectionId} {slot : Slot} {found : Option (Registration H)}
    {latest : Option (Bool × List Entry)} (h : Reflects id slot found latest) :
    found.isSome ↔ ∃ earlier, latest = some (true, earlier) := by
  unfold Reflects at h
  split at h
  · next earlier =>
    obtain ⟨function, _, _, _, rfl, -⟩ := h
    exact ⟨fun _ => ⟨earlier, rfl⟩, fun _ => rfl⟩
  · next undefined =>
    rw [h]
    exact ⟨nofun, fun ⟨earlier, hlatest⟩ => absurd hlatest (undefined earlier)⟩

namespace Session

variable {E : Engine} {w : World E (host E)} {x : Connection} {d : Database}

/-- Between operations the slots of functions hold what the latest definitions say. -/
theorem Reachable.reflects (reachable : Reachable w)
    (allotting : Throughout Allotting w.transcript) (has : Has w x)
    (database : x.database = .ok d) (name : String) (arity : Int32) :
    Reflects x.id (.function name arity) (w.registry.find? ⟨x.id, .function name arity⟩)
      (latestDefinition d (.function name arity) w.transcript) := by
  have defining := reachable.preserves (Throughout Allotting)
    (fun _ _ => Throughout.before) (fun _ _ => Turn.defining) (begin_defining E) allotting
  have live := (defining.coherent.database_iff has.held).mp database
  exact defining.defined.functions x.id d name arity live

/-- Between operations the functions in the registry are those that are defined, each with the
closure that the program gave along with the latest definition, and a connection has as many
closures as it has functions and busy handlers.  A change of functions that fails does nothing
to the registry, except that a closure that is refused takes the connections that it owns
along. -/
theorem function_table_follows_definitions (reachable : Reachable w)
    (allotting : Throughout Allotting w.transcript) (has : Has w x)
    (database : x.database = .ok d) :
    (∀ name arity, (w.registry.find? ⟨x.id, .function name arity⟩).isSome ↔
        (name, arity) ∈ definedFunctions d w.transcript) ∧
      (∀ name arity registration,
        w.registry.find? ⟨x.id, .function name arity⟩ = some registration →
          ∃ function requested before, registration = .function function ∧
            foldName requested = name ∧
            latestDefinition d (.function name arity) w.transcript =
              some (true, .reported (.nativeCall .createFunctionV2) ::
                .requested x.id (.registerFunction requested arity function.token) :: before)) ∧
      (w.registry.count x.id : ℕ∞) = (definedFunctions d w.transcript).encard +
        (if (w.registry.find? ⟨x.id, .busyHandler⟩).isSome then 1 else 0) ∧
      (∀ name arity e w', (x.removeFunction name arity).run.run w = (.error e, w') →
        w'.registry = w.registry) ∧
      ∀ name arity flags function e w',
        (x.registerFunction name arity flags function).run.run w = (.error e, w') →
          w.Sheds w' ∧ (function.owned = none → w'.registry = w.registry) := by
  have reflects := reachable.reflects allotting has database
  have occupied : ∀ name arity, (w.registry.find? ⟨x.id, .function name arity⟩).isSome ↔
      (name, arity) ∈ definedFunctions d w.transcript :=
    fun name arity => (reflects name arity).isSome_iff
  refine ⟨occupied, fun name arity r found => ?_, ?_,
    fun _ _ _ _ => Connection.registry_eq_of_removeFunction_error,
    fun _ _ _ _ _ _ => Connection.sheds_of_registerFunction_error⟩
  · obtain ⟨earlier, latest⟩ := (occupied name arity).mp (by rw [found]; rfl)
    have given := reflects name arity
    rw [latest, found] at given
    obtain ⟨function, requested, arity', before, hfound, hslot, rfl⟩ := given
    obtain ⟨rfl, rfl⟩ := Slot.function.inj hslot
    exact ⟨function, requested, before, Option.some.inj hfound, rfl, latest⟩
  · rw [Registry.count_eq_encard_functions]
    congr 2
    ext f
    exact occupied f.1 f.2

/-- An engine that defines one function and refuses the next. -/
def pickyEngine : Scripted.State :=
  { script := ⟨[(.createFunctionV2, .number 0), (.createFunctionV2, .number 1)]⟩ }

/-- The world after a session that has a busy handler on one connection and a function on
another one. -/
def pickyWorld : World Scripted.engine (host Scripted.engine) :=
  let steps : List (Step Scripted.engine.Stimulus) :=
    [({ connection := some "a" }, .connect ":memory:" {}),
     ({ connection := some "b" }, .connect ":memory:" {}),
     ({ connection := some "a" }, .registerBusyHandler (.whileBelow 5)),
     ({ connection := some "b" }, .registerFunction "F" 1 .empty .count)]
  ((steps.mapM (next 1)).run (begin Scripted.engine pickyEngine)).2

/-- The session goes on with a function that the engine refuses; the function owns the
connection with the busy handler. -/
def refusal : Record Scripted.engine.Response × World Scripted.engine (host Scripted.engine) :=
  (next 1 ({ connection := some "b" }, .registerFunction "f" 1 .empty (.own "a"))).run pickyWorld

/-- The function that is registered is in the registry under its name in lower case, and it is
all that its connection has there. -/
theorem registered_function_counts :
    (pickyWorld.registry.find? ⟨⟨2⟩, .function "f" 1⟩).isSome ∧
      (pickyWorld.registry.count ⟨2⟩ : ℕ∞) =
        (definedFunctions ⟨2⟩ pickyWorld.transcript).encard + 0 := by
  let x : Connection := ⟨⟨2⟩, .opened, some ⟨2⟩, ":memory:"⟩
  have reachable : Reachable pickyWorld := (Reachable.begin _).steps 1 _
  have faithful : Faithful pickyWorld.transcript :=
    ⟨by decide +kernel, by decide +kernel, by decide +kernel⟩
  have allotting := faithful.fresh.imp fun _ _ => Fresh.allotting
  have found : pickyWorld.host.connections.get? "b" = some x := by decide +kernel
  have defined : ("f", 1) ∈ definedFunctions ⟨2⟩ pickyWorld.transcript := by
    have latest : (latestDefinition ⟨2⟩ (.function "f" 1) pickyWorld.transcript).map
        Prod.fst = some true := by decide +kernel
    obtain ⟨⟨scalar, earlier⟩, hlatest, rfl⟩ := Option.map_eq_some_iff.mp latest
    exact ⟨earlier, hlatest⟩
  have idle : ¬ (pickyWorld.registry.find? ⟨⟨2⟩, .busyHandler⟩).isSome := by decide +kernel
  have table := function_table_follows_definitions reachable allotting (.inl ⟨"b", found⟩) rfl
  refine ⟨(table.1 "f" 1).mpr defined, ?_⟩
  have count := table.2.2.1
  rw [if_neg idle] at count
  exact count

/-- The refused function closes the connection that it owns, and the busy handler of that
connection leaves the registry. -/
theorem refused_function_empties_slot :
    Reachable pickyWorld ∧ (refusal.1.report.result matches .error (.operation (.engine _))) ∧
      (pickyWorld.registry.find? ⟨⟨1⟩, .busyHandler⟩).isSome ∧
      refusal.2.registry.find? ⟨⟨1⟩, .busyHandler⟩ = none := by
  have gone : ¬ (refusal.2.registry.find? ⟨⟨1⟩, .busyHandler⟩).isSome := by decide +kernel
  exact ⟨(Reachable.begin _).steps 1 _, by decide +kernel, by decide +kernel,
    Option.not_isSome_iff_eq_none.mp gone⟩

end Session

end EngineBridge
