import EngineBridge.Config.Reader
import EngineBridge.Proofs.Json.Skipping

/-!
# What JSON values mean in a configuration

The meaning of a tree is said without reading anything: a member counts by its name and not by
its place, an array stands for an object with its elements as the values of the members, and
what has no meaning is refused.
-/

set_option autoImplicit false

namespace EngineBridge.Config

open Json

variable {α : Type}

/-! ## Meanings -/

/-- The text that a string spells. -/
def textOf : Tree → Option String
  | .string body => spelled body
  | _ => none

/-- An integer in a range. -/
def integerOf (low high : Int) : Tree → Option Int
  | .number literal =>
    match numeral literal with
    | some (.integer n) => if low ≤ n ∧ n ≤ high then some n else none
    | _ => none
  | _ => none

/-- A null, or else a value. -/
def optionalOf (meaning : Tree → Option α) : Tree → Option (Option α)
  | .null => some none
  | t => (meaning t).map some

/-- The kind of a library source. -/
def kindOf (t : Tree) : Option Kind :=
  (textOf t).bind fun name =>
    if name = "bundled" then some .bundled
    else if name = "system" then some .system
    else if name = "path" then some .path
    else none

/-- Any value that is not nested too deeply: its text if it is one. -/
def contentOf : Tree → Option (Option String)
  | .string body => (spelled body).map some
  | t => if t.passes (inFull maxNesting) 0 then some none else none

/-- Open flags. -/
def flagsOf (t : Tree) : Option OpenFlags :=
  (integerOf (-2147483648) 2147483647 t).map fun n => ⟨Int32.ofInt n⟩

/-- A busy timeout. -/
def timeoutOf (t : Tree) : Option UInt32 :=
  (integerOf 0 4294967295 t).map fun n => UInt32.ofNat n.toNat

/-- The meaning of a value that may be left out, but not be there twice. -/
def single (meaning : Tree → Option α) : List Tree → Option (Option α)
  | [] => some none
  | [t] => (meaning t).map some
  | _ => none

/-- Whether all keys of an object spell names. -/
def allSpelled (ms : Members) : Bool :=
  ms.all fun m => (spelled m.1).isSome

/-- The values of the members with a name. -/
def valuesOf (name : String) (ms : Members) : List Tree :=
  (ms.filter fun m => spelled m.1 = some name).map (·.2)

/-- An array or an object. -/
def compoundOf (elements : List Tree → Option α) (members : Members → Option α) :
    Tree → Option α
  | .array ts => elements ts
  | .object ms => members ms
  | _ => none

/-- Open options with these values for their members. -/
def optionsFrom (flags vfs busyTimeout : List Tree) : Option OpenOptions :=
  (single flagsOf flags).bind fun flags =>
  (single (optionalOf textOf) vfs).bind fun vfs =>
  (single (optionalOf timeoutOf) busyTimeout).bind fun busyTimeout =>
    some (OptionParts.options { flags, vfs, busyTimeout })

/-- Open options as an array. -/
def optionsOfElements : List Tree → Option OpenOptions
  | [] => optionsFrom [] [] []
  | [flags] => optionsFrom [flags] [] []
  | [flags, vfs] => optionsFrom [flags] [vfs] []
  | [flags, vfs, busyTimeout] => optionsFrom [flags] [vfs] [busyTimeout]
  | _ => none

/-- Open options as an object. -/
def optionsOfMembers (ms : Members) : Option OpenOptions :=
  if allSpelled ms then
    optionsFrom (valuesOf "flags" ms) (valuesOf "vfs" ms) (valuesOf "busy_timeout_ms" ms)
  else none

/-- Open options. -/
def optionsOf : Tree → Option OpenOptions :=
  compoundOf optionsOfElements optionsOfMembers

/-- A library source of a kind, with these values for its path. -/
def sourceFrom (kind : Kind) (paths : List (Option String)) : Option LibrarySource :=
  (sourceOf kind paths).toOption

/-- A path has to be given once, in whatever order the values come. -/
theorem sourceFrom_perm (kind : Kind) {paths paths' : List (Option String)}
    (h : paths.Perm paths') : sourceFrom kind paths = sourceFrom kind paths' := by
  cases kind with
  | bundled => rfl
  | system => rfl
  | path =>
    rcases paths with _ | ⟨a, _ | ⟨b, paths⟩⟩
    · rw [List.nil_perm.mp h]
    · rw [List.singleton_perm.mp h]
    · have len := h.length_eq
      rcases paths' with _ | ⟨c, _ | ⟨d, paths'⟩⟩
      · cases len
      · cases len
      · cases a <;> cases c <;> rfl

/-- A library source as an array. -/
def sourceOfElements : List Tree → Option LibrarySource
  | [] => none
  | kind :: ts =>
    (kindOf kind).bind fun kind =>
    (ts.mapM contentOf).bind fun contents =>
      match kind, contents with
      | .path, contents => sourceFrom .path contents
      | kind, [] => sourceFrom kind []
      | _, _ => none

/-- Whether the members other than the kind can be read at all. -/
def contentsReadable (ms : Members) : Bool :=
  ms.all fun m => spelled m.1 = some "kind" || (contentOf m.2).isSome

/-- A library source as an object. -/
def sourceOfMembers (ms : Members) : Option LibrarySource :=
  if allSpelled ms && contentsReadable ms then
    (single kindOf (valuesOf "kind" ms)).bind fun kind => kind.bind fun kind =>
      sourceFrom kind ((valuesOf "path" ms).filterMap contentOf)
  else none

/-- A library source. -/
def sourceOfTree : Tree → Option LibrarySource :=
  compoundOf sourceOfElements sourceOfMembers

/-- A configuration with these values for its members. -/
def configFrom (library openOptions : List Tree) : Option Config :=
  (single sourceOfTree library).bind fun library =>
  (single optionsOf openOptions).bind fun openOptions =>
    some (Parts.config { library, openOptions })

/-- A configuration as an array. -/
def configOfElements : List Tree → Option Config
  | [] => configFrom [] []
  | [library] => configFrom [library] []
  | [library, openOptions] => configFrom [library] [openOptions]
  | _ => none

/-- A configuration as an object. -/
def configOfMembers (ms : Members) : Option Config :=
  if allSpelled ms then configFrom (valuesOf "library" ms) (valuesOf "open" ms) else none

/-- A configuration. -/
def configOf : Tree → Option Config :=
  compoundOf configOfElements configOfMembers

/-! ## Values by name -/

/-- Names are spelled if the first one is and the others are. -/
theorem allSpelled_cons (key : List Char) (t : Tree) (ms : Members) :
    allSpelled ((key, t) :: ms) = ((spelled key).isSome && allSpelled ms) :=
  rfl

/-- Names are spelled if those of both parts are. -/
theorem allSpelled_append (ms ms' : Members) :
    allSpelled (ms ++ ms') = (allSpelled ms && allSpelled ms') :=
  List.all_append

/-- Whether names are spelled does not depend on their order. -/
theorem allSpelled_perm {ms ms' : Members} (h : ms.Perm ms') : allSpelled ms = allSpelled ms' :=
  h.all_eq

/-- Whether contents are readable does not depend on their order. -/
theorem contentsReadable_perm {ms ms' : Members} (h : ms.Perm ms') :
    contentsReadable ms = contentsReadable ms' :=
  h.all_eq

/-- The values of a name are those in the first part and those in the second. -/
theorem valuesOf_append (name : String) (ms ms' : Members) :
    valuesOf name (ms ++ ms') = valuesOf name ms ++ valuesOf name ms' := by
  simp [valuesOf]

/-- The values of a name are found member by member. -/
theorem valuesOf_cons (name : String) (key : List Char) (t : Tree) (ms : Members) :
    valuesOf name ((key, t) :: ms) =
      if spelled key = some name then t :: valuesOf name ms else valuesOf name ms := by
  simp only [valuesOf, List.filter_cons, decide_eq_true_eq]
  split <;> rfl

/-- In another order the values of a name come in another order. -/
theorem valuesOf_perm (name : String) {ms ms' : Members} (h : ms.Perm ms') :
    (valuesOf name ms).Perm (valuesOf name ms') :=
  (h.filter _).map _

/-- A value that is the only one does not depend on an order. -/
theorem single_perm (meaning : Tree → Option α) {ts ts' : List Tree} (h : ts.Perm ts') :
    single meaning ts = single meaning ts' := by
  rcases ts with _ | ⟨t, _ | ⟨u, ts⟩⟩
  · rw [List.nil_perm.mp h]
  · rw [List.singleton_perm.mp h]
  · have len := h.length_eq
    rcases ts' with _ | ⟨t', _ | ⟨u', ts'⟩⟩
    · cases len
    · cases len
    · rfl

/-- A value counts only if there is no other. -/
theorem single_at (meaning : Tree → Option α) (before after : List Tree) (t : Tree) :
    single meaning (before ++ t :: after) =
      if before = [] ∧ after = [] then (meaning t).map some else none := by
  rcases before with _ | ⟨b, _ | ⟨c, before⟩⟩
  · cases after <;> rfl
  · rfl
  · rfl

/-- Where a value that counts is left out, there is none. -/
theorem single_remove {meaning : Tree → Option α} {before after : List Tree} {t : Tree}
    {a : Option α} (h : single meaning (before ++ t :: after) = some a) :
    single meaning (before ++ after) = some none := by
  rw [single_at] at h
  split at h
  · next alone =>
    rw [alone.1, alone.2]
    rfl
  · cases h

/-! The order of the members of an object does not count. -/

/-- Open options do not depend on the order of their members. -/
theorem optionsOfMembers_perm {ms ms' : Members} (h : ms.Perm ms') :
    optionsOfMembers ms = optionsOfMembers ms' := by
  simp only [optionsOfMembers, optionsFrom, allSpelled_perm h,
    single_perm _ (valuesOf_perm _ h)]

/-- A library source does not depend on the order of its members. -/
theorem sourceOfMembers_perm {ms ms' : Members} (h : ms.Perm ms') :
    sourceOfMembers ms = sourceOfMembers ms' := by
  have paths := fun kind => sourceFrom_perm kind ((valuesOf_perm "path" h).filterMap contentOf)
  simp only [sourceOfMembers, allSpelled_perm h, contentsReadable_perm h,
    single_perm _ (valuesOf_perm "kind" h), paths]

/-- A configuration does not depend on the order of its members. -/
theorem configOfMembers_perm {ms ms' : Members} (h : ms.Perm ms') :
    configOfMembers ms = configOfMembers ms' := by
  simp only [configOfMembers, configFrom, allSpelled_perm h, single_perm _ (valuesOf_perm _ h)]

end EngineBridge.Config
