import EngineBridge.Proofs.Config.Objects
import EngineBridge.Proofs.Config.Recognition
import Mathlib.Logic.Relation

/-!
# All spellings of a configuration agree

A configuration can be spelled in many ways: with its members in any order, with unknown members
among them, with members left out that have their defaults, and by position as well as by name.
The meaning of a tree does not tell them apart, so neither do the texts for it.
-/

set_option autoImplicit false

namespace EngineBridge

open Json

namespace Config

/-! ## Ways to spell a tree -/

/-- A configuration but for one value in it, which is that of a member with a name, or else the
element of an array at the position of that member. -/
inductive Place (name : String) (position : Nat) : (Tree → Tree) → Prop
  | member {key : List Char} (before after : Members) (named : spelled key = some name) :
      Place name position fun t => .object (before ++ (key, t) :: after)
  | element (before after : List Tree) (placed : before.length = position) :
      Place name position fun t => .array (before ++ t :: after)

/-- Members with other names than these. -/
def Unknown (names : List String) (ms : Members) : Prop :=
  ∀ m ∈ ms, ∃ name, spelled m.1 = some name ∧ name ∉ names

/-- The names of the members of a configuration, in order. -/
def configNames : List String := ["library", "open"]

/-- The names of the members of open options, in order. -/
def optionNames : List String := ["flags", "vfs", "busy_timeout_ms"]

/-- A change to the spelling of a configuration: another order of the members of an object, or
more members, with unknown names and with any values. -/
inductive Respelling : Tree → Tree → Prop
  | order {ms ms' : Members} (perm : ms.Perm ms') : Respelling (.object ms) (.object ms')
  | extra {ms unknown : Members} (others : Unknown configNames unknown) :
      Respelling (.object ms) (.object (unknown ++ ms))
  | orderLibrary {place : Tree → Tree} {ms ms' : Members} (inside : Place "library" 0 place)
      (perm : ms.Perm ms') : Respelling (place (.object ms)) (place (.object ms'))
  | orderOptions {place : Tree → Tree} {ms ms' : Members} (inside : Place "open" 1 place)
      (perm : ms.Perm ms') : Respelling (place (.object ms)) (place (.object ms'))
  | extraOptions {place : Tree → Tree} {ms unknown : Members} (inside : Place "open" 1 place)
      (others : Unknown optionNames unknown) :
      Respelling (place (.object ms)) (place (.object (unknown ++ ms)))

/-- An array has the values of the members of an object for its elements, which are the first of
the members with these names, in this order. -/
def Positional (names : List String) (ts : List Tree) (ms : Members) : Prop :=
  ms.map (·.2) = ts ∧ (ms.map fun m => spelled m.1) <+: names.map some

/-- The texts of two trees stand for the same configuration, or for none. -/
def Agree (t t' : Tree) : Prop :=
  ∀ text text', t.Writes text → t'.Writes text' →
    ∀ config, ofJson text = .ok config ↔ ofJson text' = .ok config

/-- If a text of the one tree stands for a configuration, one of the other stands for what comes
of it. -/
def Becomes (t t' : Tree) (f : Config → Config) : Prop :=
  ∀ text text' config, t.Writes text → t'.Writes text' → ofJson text = .ok config →
    ofJson text' = .ok (f config)

end Config

/-- Open options with the default for a member. -/
def OpenOptions.without (options : OpenOptions) (name : String) : OpenOptions :=
  if name = "flags" then { options with flags := ({} : OpenOptions).flags }
  else if name = "vfs" then { options with vfs := ({} : OpenOptions).vfs }
  else if name = "busy_timeout_ms" then
    { options with busyTimeout := ({} : OpenOptions).busyTimeout }
  else options

/-- A configuration with the default for a member. -/
def Config.without (config : Config) (name : String) : Config :=
  if name = "library" then { config with library := ({} : Config).library }
  else if name = "open" then { config with openOptions := ({} : Config).openOptions }
  else config

namespace Config

/-! ## Members that do not count -/

/-- Unknown members have names, which are none of those that count. -/
theorem Unknown.allSpelled {names : List String} {ms : Members} (h : Unknown names ms) :
    allSpelled ms = true := by
  rw [Config.allSpelled, List.all_eq_true]
  intro m mem
  obtain ⟨name, named, -⟩ := h m mem
  simp [named]

/-- Members with other names give no value for a known name. -/
theorem Unknown.valuesOf_eq {names : List String} {ms : Members} (h : Unknown names ms)
    {name : String} (known : name ∈ names) : valuesOf name ms = [] := by
  rw [valuesOf, List.map_eq_nil_iff, List.filter_eq_nil_iff]
  intro m mem
  obtain ⟨other, named, unknown⟩ := h m mem
  simp only [named, Option.some.injEq, decide_eq_true_eq]
  rintro rfl
  exact unknown known

/-- Members with unknown names make no difference to a configuration. -/
theorem configOfMembers_unknown {ms unknown : Members} (h : Unknown configNames unknown) :
    configOfMembers (unknown ++ ms) = configOfMembers ms := by
  have library := h.valuesOf_eq (by decide : "library" ∈ configNames)
  have openOptions := h.valuesOf_eq (by decide : "open" ∈ configNames)
  simp only [configOfMembers, allSpelled_append, h.allSpelled, Bool.true_and, valuesOf_append,
    library, openOptions, List.nil_append]

/-- Members with unknown names make no difference to open options. -/
theorem optionsOfMembers_unknown {ms unknown : Members} (h : Unknown optionNames unknown) :
    optionsOfMembers (unknown ++ ms) = optionsOfMembers ms := by
  have flags := h.valuesOf_eq (by decide : "flags" ∈ optionNames)
  have vfs := h.valuesOf_eq (by decide : "vfs" ∈ optionNames)
  have timeout := h.valuesOf_eq (by decide : "busy_timeout_ms" ∈ optionNames)
  simp only [optionsOfMembers, allSpelled_append, h.allSpelled, Bool.true_and, valuesOf_append,
    flags, vfs, timeout, List.nil_append]

/-! ## Parts in their place -/

/-- A configuration depends on the meaning of a library source, and is that source together with
open options that do not depend on it. -/
def ByLibrary (config : Tree → Option Config) : Prop :=
  ∃ options : Option OpenOptions, ∀ t, config t =
    (sourceOfTree t).bind fun library => options.map fun openOptions => { library, openOptions }

/-- A configuration depends on the meaning of open options, and is those options together with a
library source that does not depend on them. -/
def ByOptions (config : Tree → Option Config) : Prop :=
  ∃ source : Option LibrarySource, ∀ t, config t =
    (optionsOf t).bind fun openOptions => source.map fun library => { library, openOptions }

/-- What is no configuration does not depend on the library source. -/
theorem byLibrary_none : ByLibrary fun _ => none :=
  ⟨none, fun t => by cases sourceOfTree t <;> rfl⟩

/-- What is no configuration does not depend on the open options. -/
theorem byOptions_none : ByOptions fun _ => none :=
  ⟨none, fun t => by cases optionsOf t <;> rfl⟩

/-- A configuration depends on what stands for its library source only by its meaning. -/
theorem byLibrary_configFrom (before after openOptions : List Tree) :
    ByLibrary fun t => configFrom (before ++ t :: after) openOptions := by
  simp only [configFrom, single_at]
  split
  · refine ⟨(single optionsOf openOptions).map (·.getD {}), fun t => ?_⟩
    dsimp only
    cases sourceOfTree t <;> cases single optionsOf openOptions <;> rfl
  · exact byLibrary_none

/-- A configuration depends on what stands for its open options only by their meaning. -/
theorem byOptions_configFrom (library before after : List Tree) :
    ByOptions fun t => configFrom library (before ++ t :: after) := by
  simp only [configFrom, single_at]
  split
  · refine ⟨(single sourceOfTree library).map (·.getD .bundled), fun t => ?_⟩
    dsimp only
    cases optionsOf t <;> cases single sourceOfTree library <;> rfl
  · refine ⟨none, fun t => ?_⟩
    dsimp only
    cases optionsOf t <;> cases single sourceOfTree library <;> rfl

/-- In the place of the library source, only the meaning of a tree counts. -/
theorem byLibrary_place {place : Tree → Tree} (inside : Place "library" 0 place) :
    ByLibrary fun t => configOf (place t) := by
  cases inside with
  | @member key before after named =>
    simp only [configOf, compoundOf, configOfMembers, allSpelled_append, allSpelled_cons, named,
      valuesOf_append, valuesOf_cons, if_true, Option.some.injEq, String.reduceEq, if_false,
      Option.isSome_some, Bool.true_and]
    split
    · exact byLibrary_configFrom _ _ _
    · exact byLibrary_none
  | element before after placed =>
    obtain rfl := List.eq_nil_of_length_eq_zero placed
    rcases after with _ | ⟨u, _ | ⟨v, after⟩⟩
    · exact byLibrary_configFrom [] [] []
    · exact byLibrary_configFrom [] [] [u]
    · exact byLibrary_none

/-- In the place of the open options, only the meaning of a tree counts. -/
theorem byOptions_place {place : Tree → Tree} (inside : Place "open" 1 place) :
    ByOptions fun t => configOf (place t) := by
  cases inside with
  | @member key before after named =>
    simp only [configOf, compoundOf, configOfMembers, allSpelled_append, allSpelled_cons, named,
      valuesOf_append, valuesOf_cons, if_true, Option.some.injEq, String.reduceEq, if_false,
      Option.isSome_some, Bool.true_and]
    split
    · exact byOptions_configFrom _ _ _
    · exact byOptions_none
  | element before after placed =>
    obtain ⟨l, rfl⟩ := List.length_eq_one_iff.mp placed
    cases after with
    | nil => exact byOptions_configFrom [l] [] []
    | cons u after => exact byOptions_none

/-! ## Members left out -/

/-- A member that is left out of the open options has its default, and the others are as they
were. -/
theorem optionsOfMembers_remove {before after : Members} {key : List Char} {t : Tree}
    {name : String} (named : spelled key = some name) {options : OpenOptions}
    (h : optionsOfMembers (before ++ (key, t) :: after) = some options) :
    optionsOfMembers (before ++ after) = some (options.without name) := by
  simp only [optionsOfMembers, allSpelled_append, allSpelled_cons, named, valuesOf_append,
    valuesOf_cons, Option.some.injEq, Option.isSome_some, Bool.true_and] at h ⊢
  split at h
  · next all =>
    rw [if_pos all]
    simp only [optionsFrom, Option.bind_eq_some_iff, Option.some.injEq] at h
    obtain ⟨f, flags, v, vfs, b, timeout, rfl⟩ := h
    by_cases isFlags : name = "flags"
    · subst isFlags
      simp only [if_true, String.reduceEq, if_false] at flags vfs timeout
      simp only [optionsFrom, single_remove flags, vfs, timeout]
      rfl
    by_cases isVfs : name = "vfs"
    · subst isVfs
      simp only [if_true, String.reduceEq, if_false] at flags vfs timeout
      simp only [optionsFrom, flags, single_remove vfs, timeout]
      rfl
    by_cases isTimeout : name = "busy_timeout_ms"
    · subst isTimeout
      simp only [if_true, String.reduceEq, if_false] at flags vfs timeout
      simp only [optionsFrom, flags, vfs, single_remove timeout]
      rfl
    · simp only [isFlags, isVfs, isTimeout, if_false] at flags vfs timeout
      simp only [optionsFrom, flags, vfs, timeout, OpenOptions.without, isFlags, isVfs, isTimeout,
        if_false]
      rfl
  · cases h

/-- A member that is left out of a configuration has its default, and the others are as they
were. -/
theorem configOfMembers_remove {before after : Members} {key : List Char} {t : Tree}
    {name : String} (named : spelled key = some name) {config : Config}
    (h : configOfMembers (before ++ (key, t) :: after) = some config) :
    configOfMembers (before ++ after) = some (config.without name) := by
  simp only [configOfMembers, allSpelled_append, allSpelled_cons, named, valuesOf_append,
    valuesOf_cons, Option.some.injEq, Option.isSome_some, Bool.true_and] at h ⊢
  split at h
  · next all =>
    rw [if_pos all]
    simp only [configFrom, Option.bind_eq_some_iff, Option.some.injEq] at h
    obtain ⟨l, library, o, openOptions, rfl⟩ := h
    by_cases isLibrary : name = "library"
    · subst isLibrary
      simp only [if_true, String.reduceEq, if_false] at library openOptions
      simp only [configFrom, single_remove library, openOptions]
      rfl
    by_cases isOptions : name = "open"
    · subst isOptions
      simp only [if_true, String.reduceEq, if_false] at library openOptions
      simp only [configFrom, library, single_remove openOptions]
      rfl
    · simp only [isLibrary, isOptions, if_false] at library openOptions
      simp only [configFrom, library, openOptions, Config.without, isLibrary, isOptions, if_false]
      rfl
  · cases h

/-! ## Texts -/

/-- Texts for trees of the same meaning stand for the same configuration. -/
theorem agree_of_eq {t t' : Tree} (same : configOf t = configOf t') : Agree t t' := by
  intro text text' writes writes' config
  rw [← toOption_eq_some, ← toOption_eq_some, ofJson_of_writes writes, ofJson_of_writes writes',
    same]

/-- A change of the tree is a change of the configuration if it is one whenever there is a
configuration. -/
theorem becomes_of_eq {t t' : Tree} {f : Config → Config}
    (h : ∀ config, configOf t = some config → configOf t' = some (f config)) :
    Becomes t t' f := by
  intro text text' config writes writes' accepted
  rw [← toOption_eq_some, ofJson_of_writes writes] at accepted
  rw [← toOption_eq_some, ofJson_of_writes writes']
  exact h config accepted

/-- Library sources of the same meaning make the same configuration. -/
theorem ByLibrary.congr {config : Tree → Option Config} (h : ByLibrary config) {t t' : Tree}
    (same : sourceOfTree t = sourceOfTree t') : config t = config t' := by
  obtain ⟨options, depends⟩ := h
  rw [depends, depends, same]

/-- Open options of the same meaning make the same configuration. -/
theorem ByOptions.congr {config : Tree → Option Config} (h : ByOptions config) {t t' : Tree}
    (same : optionsOf t = optionsOf t') : config t = config t' := by
  obtain ⟨source, depends⟩ := h
  rw [depends, depends, same]

/-- What becomes of the open options becomes of them in the configuration. -/
theorem ByOptions.map {config : Tree → Option Config} (h : ByOptions config) {t t' : Tree}
    {f : OpenOptions → OpenOptions}
    (becomes : ∀ options, optionsOf t = some options → optionsOf t' = some (f options))
    {c : Config} (accepted : config t = some c) :
    config t' = some { c with openOptions := f c.openOptions } := by
  obtain ⟨source, depends⟩ := h
  rw [depends] at accepted ⊢
  obtain ⟨options, found, accepted⟩ := Option.bind_eq_some_iff.mp accepted
  obtain ⟨library, rfl, rfl⟩ := Option.map_eq_some_iff.mp accepted
  rw [becomes options found]
  rfl

/-- A respelling keeps the meaning. -/
theorem Respelling.configOf_eq {t t' : Tree} (h : Respelling t t') : configOf t = configOf t' := by
  cases h with
  | order perm => exact configOfMembers_perm perm
  | extra others => exact (configOfMembers_unknown others).symm
  | orderLibrary inside perm => exact (byLibrary_place inside).congr (sourceOfMembers_perm perm)
  | orderOptions inside perm => exact (byOptions_place inside).congr (optionsOfMembers_perm perm)
  | extraOptions inside others =>
    exact (byOptions_place inside).congr (optionsOfMembers_unknown others).symm

/-- However a tree is respelled, it means the same. -/
theorem configOf_eq_of_eqvGen {t t' : Tree} (h : Relation.EqvGen Respelling t t') :
    configOf t = configOf t' := by
  induction h with
  | rel _ _ h => exact h.configOf_eq
  | refl => rfl
  | symm _ _ _ ih => exact ih.symm
  | trans _ _ _ _ _ ih ih' => exact ih.trans ih'

/-! ## Positions and names -/

/-- A configuration means the same as an array and as an object. -/
theorem configOf_positional {ts : List Tree} {ms : Members} (h : Positional configNames ts ms) :
    configOf (.array ts) = configOf (.object ms) := by
  obtain ⟨rfl, names⟩ := h
  rcases ms with _ | ⟨⟨k, l⟩, _ | ⟨⟨k', o⟩, _ | ⟨m, ms⟩⟩⟩ <;>
    simp only [configNames, List.map_cons, List.map_nil, List.cons_prefix_cons,
      List.prefix_nil, reduceCtorEq, and_false] at names
  · rfl
  · simp [configOf, compoundOf, configOfElements, configOfMembers, allSpelled, valuesOf,
      names.1]
  · simp [configOf, compoundOf, configOfElements, configOfMembers, allSpelled, valuesOf,
      names.1, names.2.1]

/-- Open options mean the same as an array and as an object. -/
theorem optionsOf_positional {ts : List Tree} {ms : Members} (h : Positional optionNames ts ms) :
    optionsOf (.array ts) = optionsOf (.object ms) := by
  obtain ⟨rfl, names⟩ := h
  rcases ms with _ | ⟨⟨k, f⟩, _ | ⟨⟨k', v⟩, _ | ⟨⟨k'', b⟩, _ | ⟨m, ms⟩⟩⟩⟩ <;>
    simp only [optionNames, List.map_cons, List.map_nil, List.cons_prefix_cons,
      List.prefix_nil, reduceCtorEq, and_false] at names
  · rfl
  · simp [optionsOf, compoundOf, optionsOfElements, optionsOfMembers, allSpelled, valuesOf,
      names.1]
  · simp [optionsOf, compoundOf, optionsOfElements, optionsOfMembers, allSpelled, valuesOf,
      names.1, names.2.1]
  · simp [optionsOf, compoundOf, optionsOfElements, optionsOfMembers, allSpelled, valuesOf,
      names.1, names.2.1, names.2.2.1]

/-- A path by position is a path by name. -/
theorem sourceOf_positional {kind path : Tree} {ms : Members} (isPath : textOf kind = some "path")
    (h : Positional ["kind", "path"] [kind, path] ms) :
    sourceOfTree (.array [kind, path]) = sourceOfTree (.object ms) := by
  obtain ⟨values, names⟩ := h
  have hkind : kindOf kind = some .path := by
    rw [kindOf, isPath]
    rfl
  rcases ms with _ | ⟨⟨k, t⟩, _ | ⟨⟨k', u⟩, _ | ⟨m, ms⟩⟩⟩ <;>
    simp only [List.map_cons, List.map_nil, List.cons.injEq, reduceCtorEq, and_true, and_false]
      at values
  obtain ⟨rfl, rfl⟩ := values
  simp only [List.map_cons, List.map_nil, List.cons_prefix_cons] at names
  cases content : contentOf u with
  | none =>
    simp [sourceOfTree, compoundOf, sourceOfElements, sourceOfMembers, contentsReadable, hkind,
      content, names.1, names.2.1]
  | some c =>
    simp [sourceOfTree, compoundOf, sourceOfElements, sourceOfMembers, contentsReadable, hkind,
      content, names.1, names.2.1, allSpelled, valuesOf, single]

/-! ## The agreement -/

/-- All spellings of a configuration agree.  What stands for a configuration is the text of a
tree, and every tree whose literals are well spelled has a text.  Texts for the same tree, which
differ in white space only, stand for the same configuration, and so do texts for trees that come
of one another by changing the order of the members of the configuration, of its library source
and of its open options, and by adding unknown members with any values to it and to its open
options; a member that is left out of it or of its open options has its default, all others being
as they were; and the values of members may be given by their positions as well as by their
names. -/
theorem spellings_agree :
    (∀ text config, ofJson text = .ok config → ∃ t : Tree, t.Writes text) ∧
    (∀ t : Tree, (∃ text, t.Writes text) ↔ t.WellSpelled) ∧
    (∀ t t', Relation.EqvGen Respelling t t' → Agree t t') ∧
    (∀ before after key t name, spelled key = some name →
      Becomes (.object (before ++ (key, t) :: after)) (.object (before ++ after))
        fun config => config.without name) ∧
    (∀ place, Place "open" 1 place → ∀ before after key t name, spelled key = some name →
      Becomes (place (.object (before ++ (key, t) :: after))) (place (.object (before ++ after)))
        fun config => { config with openOptions := config.openOptions.without name }) ∧
    (∀ ts ms, Positional configNames ts ms → Agree (.array ts) (.object ms)) ∧
    (∀ place, Place "open" 1 place → ∀ ts ms, Positional optionNames ts ms →
      Agree (place (.array ts)) (place (.object ms))) ∧
    (∀ place, Place "library" 0 place → ∀ kind path ms, textOf kind = some "path" →
      Positional ["kind", "path"] [kind, path] ms →
      Agree (place (.array [kind, path])) (place (.object ms))) := by
  refine ⟨fun text config => exists_writes_of_ofJson, fun t => Tree.exists_writes_iff,
    fun t t' h => agree_of_eq (configOf_eq_of_eqvGen h), ?_, ?_,
    fun ts ms h => agree_of_eq (configOf_positional h),
    fun place inside ts ms h =>
      agree_of_eq ((byOptions_place inside).congr (optionsOf_positional h)),
    fun place inside kind path ms isPath h =>
      agree_of_eq ((byLibrary_place inside).congr (sourceOf_positional isPath h))⟩
  · intro before after key t name named
    exact becomes_of_eq fun config => configOfMembers_remove named
  · intro place inside before after key t name named
    have removed : ∀ options, optionsOf (.object (before ++ (key, t) :: after)) = some options →
        optionsOf (.object (before ++ after)) = some (options.without name) :=
      fun options => optionsOfMembers_remove named
    exact becomes_of_eq fun config => (byOptions_place inside).map removed

/-- One configuration spelled by positions, by names and among unknown members, and what is left
of it without one of its members. -/
theorem path_configuration_spellings :
    let config : Config := { library := .path "p", openOptions := { flags := ⟨1⟩ } }
    ofJson "[[\"path\",\"p\"],[1]]" = .ok config ∧
    ofJson "[\x7b\"kind\":\"path\",\"path\":\"p\"\x7d,[1]]" = .ok config ∧
    ofJson "[\x7b\"kind\":\"path\",\"path\":\"p\"\x7d,\x7b\"flags\":1\x7d]" = .ok config ∧
    ofJson ("\x7b\"library\":\x7b\"kind\":\"path\",\"path\":\"p\"\x7d," ++
      "\"open\":\x7b\"flags\":1\x7d\x7d") = .ok config ∧
    ofJson (" \x7b\"x\":[\x7b\x7d],\"open\":\x7b\"flags\":1\x7d," ++
      "\"library\":\x7b\"kind\":\"path\",\"path\":\"p\"\x7d\x7d\n") = .ok config ∧
    ofJson "\x7b\"open\":\x7b\"flags\":1\x7d\x7d" = .ok (config.without "library") ∧
    ofJson "\x7b\"library\":\x7b\"kind\":\"path\",\"path\":\"p\"\x7d,\"open\":\x7b\x7d\x7d" =
      .ok { config with openOptions := config.openOptions.without "flags" } := by
  intro config
  obtain ⟨-, -, respelled, left, leftOptions, byPosition, optionsByPosition, pathByPosition⟩ :=
    spellings_agree
  let kind : List Char := ['k', 'i', 'n', 'd']
  let path : List Char := ['p', 'a', 't', 'h']
  let library : List Char := ['l', 'i', 'b', 'r', 'a', 'r', 'y']
  let openKey : List Char := ['o', 'p', 'e', 'n']
  let flags : List Char := ['f', 'l', 'a', 'g', 's']
  let source : Tree := .array [.string path, .string ['p']]
  let sourceNamed : Members := [(kind, .string path), (path, .string ['p'])]
  let options : Tree := .array [.number ['1']]
  let optionsNamed : Members := [(flags, .number ['1'])]
  let unknown : Members := [(['x'], .array [.object []])]
  have isBody : ∀ cs ∈ [kind, path, library, openKey, flags, ['p'], ['x']], StringBody cs := by
    intro cs mem
    have plain : ∀ cs ∈ [kind, path, library, openKey, flags, ['p'], ['x']],
      ∀ c ∈ cs, 0x20 ≤ c.toNat ∧ c ≠ '"' ∧ c ≠ '\\' := by
        simp [kind, path, library, openKey, flags]
    exact stringBody_of_plain (plain cs mem)
  have isOne : NumberLiteral ['1'] := @NumberLiteral.of [] ['1'] [] [] (.inl rfl)
    (.digits (by decide) ⟨by decide, by simp⟩) .none .none
  have isSource : source.WellSpelled := ⟨isBody path (by simp), isBody ['p'] (by simp), trivial⟩
  have isSourceNamed : MembersWellSpelled sourceNamed :=
    ⟨isBody kind (by simp), isBody path (by simp), isBody path (by simp), isBody ['p'] (by simp),
      trivial⟩
  have isOptions : options.WellSpelled := ⟨isOne, trivial⟩
  have isOptionsNamed : MembersWellSpelled optionsNamed := ⟨isBody flags (by simp), isOne, trivial⟩
  have isLibrary := isBody library (by simp)
  have isOpen := isBody openKey (by simp)
  have writes : ∀ {t : Tree} {text : String}, t.WellSpelled → text.toList = t.compact →
      t.Writes text := fun h chars =>
    ⟨[], _, [], blank_nil, Tree.written_compact _ h, blank_nil, by simpa using chars⟩
  have inPlace : (Tree.array [source, options]).Writes "[[\"path\",\"p\"],[1]]" :=
    writes ⟨isSource, isOptions, trivial⟩ rfl
  have pathNamed : (Tree.array [.object sourceNamed, options]).Writes
      "[\x7b\"kind\":\"path\",\"path\":\"p\"\x7d,[1]]" :=
    writes ⟨isSourceNamed, isOptions, trivial⟩ rfl
  have flagsNamed : (Tree.array [.object sourceNamed, .object optionsNamed]).Writes
      "[\x7b\"kind\":\"path\",\"path\":\"p\"\x7d,\x7b\"flags\":1\x7d]" :=
    writes ⟨isSourceNamed, isOptionsNamed, trivial⟩ rfl
  have allNamed : (Tree.object
      [(library, .object sourceNamed), (openKey, .object optionsNamed)]).Writes
      ("\x7b\"library\":\x7b\"kind\":\"path\",\"path\":\"p\"\x7d," ++
        "\"open\":\x7b\"flags\":1\x7d\x7d") :=
    writes ⟨isLibrary, isSourceNamed, isOpen, isOptionsNamed, trivial⟩ rfl
  have spaced : (Tree.object (unknown ++
      [(openKey, .object optionsNamed), (library, .object sourceNamed)])).Writes
      (" \x7b\"x\":[\x7b\x7d],\"open\":\x7b\"flags\":1\x7d," ++
        "\"library\":\x7b\"kind\":\"path\",\"path\":\"p\"\x7d\x7d\n") :=
    ⟨[' '], _, ['\n'], List.forall_mem_singleton.mpr rfl,
      Tree.written_compact _ ⟨isBody ['x'] (by simp), ⟨trivial, trivial⟩, isOpen, isOptionsNamed,
        isLibrary, isSourceNamed, trivial⟩, List.forall_mem_singleton.mpr rfl, rfl⟩
  have noLibrary : (Tree.object [(openKey, .object optionsNamed)]).Writes
      "\x7b\"open\":\x7b\"flags\":1\x7d\x7d" :=
    writes ⟨isOpen, isOptionsNamed, trivial⟩ rfl
  have noFlags : (Tree.object [(library, .object sourceNamed), (openKey, .object [])]).Writes
      "\x7b\"library\":\x7b\"kind\":\"path\",\"path\":\"p\"\x7d,\"open\":\x7b\x7d\x7d" :=
    writes ⟨isLibrary, isSourceNamed, isOpen, trivial, trivial⟩ rfl
  have first : ofJson "[[\"path\",\"p\"],[1]]" = .ok config := by decide +kernel
  have second := (pathByPosition _ (.element [] [options] rfl) _ _ sourceNamed
    (by decide +kernel) ⟨rfl, by decide +kernel⟩ _ _ inPlace pathNamed config).mp first
  have third := (optionsByPosition _ (.element [.object sourceNamed] [] rfl) _ optionsNamed
    ⟨rfl, by decide +kernel⟩ _ _ pathNamed flagsNamed config).mp second
  have fourth := (byPosition _ [(library, .object sourceNamed), (openKey, .object optionsNamed)]
    ⟨rfl, by decide +kernel⟩ _ _ flagsNamed allNamed config).mp third
  have others : Unknown configNames unknown := by
    rintro m mem
    obtain rfl := List.mem_singleton.mp mem
    exact ⟨"x", by decide +kernel, by decide⟩
  have fifth := (respelled _ _ (.trans _ _ _ (.rel _ _ (.order (.swap _ _ _)))
    (.rel _ _ (.extra others))) _ _ allNamed spaced config).mp fourth
  exact ⟨first, second, third, fourth, fifth,
    left [] _ library _ "library" (by decide +kernel) _ _ config allNamed noLibrary fourth,
    leftOptions _ (.member [(library, .object sourceNamed)] [] (by decide +kernel)) [] [] flags _
      "flags" (by decide +kernel) _ _ config allNamed noFlags fourth⟩

end Config

end EngineBridge
