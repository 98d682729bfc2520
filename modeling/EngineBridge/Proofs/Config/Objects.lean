import EngineBridge.Proofs.Config.Reading

/-!
# Configurations are read by the names of their members

What the members of an object come to, one after the other, is what the values of each name come
to by themselves: in the open options, in the library source and in the whole configuration.  So
their readers find the meaning of a value, which was said by the names alone.
-/

set_option autoImplicit false

namespace EngineBridge.Config

open Json

variable {α : Type}

/-! ## Members of one name -/

/-- The values of members of one name, one after the other. -/
def slot (meaning : Tree → Option α) (seen : Option α) (ts : List Tree) : Option (Option α) :=
  ts.foldlM (once meaning) seen

/-- The values of a name are looked at one by one, and only one of them may be there. -/
theorem slot_cons (meaning : Tree → Option α) (seen : Option α) (t : Tree) (ts : List Tree) :
    slot meaning seen (t :: ts) = (once meaning seen t).bind fun seen => slot meaning seen ts :=
  rfl

/-- A member may come once. -/
theorem slot_none (meaning : Tree → Option α) (ts : List Tree) :
    slot meaning none ts = single meaning ts := by
  rcases ts with _ | ⟨t, _ | ⟨u, ts⟩⟩
  · rfl
  · simp only [slot_cons, once, single]
    cases meaning t <;> rfl
  · simp only [slot_cons, once, single]
    cases meaning t <;> rfl

/-! ## Open options -/

/-- What a member adds to open options. -/
def optionStep (parts : OptionParts) (name : String) (t : Tree) : Option OptionParts :=
  if name = "flags" then
    (once flagsOf parts.flags t).map fun flags => { parts with flags }
  else if name = "vfs" then
    (once (optionalOf textOf) parts.vfs t).map fun vfs => { parts with vfs }
  else if name = "busy_timeout_ms" then
    (once (optionalOf timeoutOf) parts.busyTimeout t).map fun busyTimeout =>
      { parts with busyTimeout }
  else some parts

/-- A member of open options is read by its name. -/
theorem reads_optionMember : ReadsMember optionMember optionStep := by
  intro parts name t before after cs rest blankBefore blankAfter value ends
  rw [optionMember, optionStep]
  split
  · exact readOnce_written reads_flags parts.flags (fun flags => { parts with flags })
      blankBefore blankAfter value ends
  split
  · exact readOnce_written (reads_optional reads_text) parts.vfs (fun vfs => { parts with vfs })
      blankBefore blankAfter value ends
  split
  · exact readOnce_written (reads_optional reads_timeout) parts.busyTimeout
      (fun busyTimeout => { parts with busyTimeout }) blankBefore blankAfter value ends
  · exact skipField_written parts blankBefore blankAfter value ends

/-- The members of open options count by their names. -/
theorem foldMembers_optionStep (parts : OptionParts) (ms : Members) :
    foldMembers optionStep parts ms =
      if allSpelled ms then
        (slot flagsOf parts.flags (valuesOf "flags" ms)).bind fun flags =>
        (slot (optionalOf textOf) parts.vfs (valuesOf "vfs" ms)).bind fun vfs =>
        (slot (optionalOf timeoutOf) parts.busyTimeout (valuesOf "busy_timeout_ms" ms)).bind
          fun busyTimeout => some { flags, vfs, busyTimeout }
      else none := by
  induction ms generalizing parts with
  | nil => rfl
  | cons m ms ih =>
    obtain ⟨key, t⟩ := m
    have cons : foldMembers optionStep parts ((key, t) :: ms) =
        ((spelled key).bind fun name => optionStep parts name t).bind fun parts =>
          foldMembers optionStep parts ms := rfl
    rw [cons]
    simp only [ih, valuesOf_cons, allSpelled_cons]
    cases spelled key with
    | none => rfl
    | some name =>
      simp only [optionStep, Option.bind_some, Option.isSome_some, Bool.true_and, Option.some.injEq]
      by_cases flags : name = "flags"
      · subst flags
        simp only [if_true, String.reduceEq, if_false, slot_cons]
        cases once flagsOf parts.flags t <;> cases allSpelled ms <;> simp
      by_cases vfs : name = "vfs"
      · subst vfs
        simp only [if_true, String.reduceEq, if_false, slot_cons]
        cases once (optionalOf textOf) parts.vfs t <;> cases allSpelled ms <;> simp
      by_cases timeout : name = "busy_timeout_ms"
      · subst timeout
        simp only [if_true, String.reduceEq, if_false, slot_cons]
        cases once (optionalOf timeoutOf) parts.busyTimeout t <;> cases allSpelled ms <;> simp
      · simp only [flags, vfs, timeout, if_false, Option.bind_some]

/-- Open options in the form of an object are read member by member. -/
theorem reads_optionsObject : ReadsMembers optionsObject optionsOfMembers := by
  intro ms cs written rest
  rw [optionsObject, toOption_map, reads_object reads_optionMember {} written rest,
    foldMembers_optionStep]
  simp only [slot_none, optionsOfMembers, optionsFrom]
  cases allSpelled ms with
  | false => rfl
  | true =>
    simp only [if_true, Option.map_bind, Option.map_some, Function.comp_def]

/-- Open options with what is left of the input, put together from their parts. -/
theorem map_optionsFrom (flags vfs busyTimeout : List Tree) (rest : List Char) :
    (optionsFrom flags vfs busyTimeout).map (·, rest) =
      (single flagsOf flags).bind fun flags =>
      (single (optionalOf textOf) vfs).bind fun vfs =>
      (single (optionalOf timeoutOf) busyTimeout).bind fun busyTimeout =>
        some (OptionParts.options { flags, vfs, busyTimeout }, rest) := by
  simp only [optionsFrom, Option.map_bind, Option.map_some, Function.comp_def]

/-- Open options in the form of an array are read by position, up to three of them. -/
theorem reads_optionsArray : ReadsElements optionsArray optionsOfElements := by
  intro ts cs written rest
  have read : (optionsArray (cs ++ rest)).toOption =
      (single flagsOf ts.head?.toList).bind fun flags =>
      (single (optionalOf textOf) ts.tail.head?.toList).bind fun vfs =>
      (single (optionalOf timeoutOf) ts.tail.tail.head?.toList).bind fun busyTimeout =>
        if ts.tail.tail.tail = [] then
          some (OptionParts.options { flags, vfs, busyTimeout }, rest)
        else none := by
    simp only [optionsArray, toOption_bind]
    refine bind_readElement reads_flags written rest fun flags more written => ?_
    refine bind_readElement (reads_optional reads_text) written rest fun vfs more written => ?_
    refine bind_readElement (reads_optional reads_timeout) written rest
      fun busyTimeout more written => ?_
    rw [closeArray_written written]
    split <;> rfl
  rw [read]
  rcases ts with _ | ⟨flags, _ | ⟨vfs, _ | ⟨busyTimeout, _ | ⟨t, ts⟩⟩⟩⟩ <;>
    simp [optionsOfElements, map_optionsFrom]

/-- Open options are read in both forms. -/
theorem reads_options : Reads readOptions optionsOf :=
  reads_compound reads_optionsArray reads_optionsObject

/-! ## The library source -/

/-- What a member adds to a library source. -/
def sourceStep (parts : SourceParts) (name : String) (t : Tree) : Option SourceParts :=
  if name = "kind" then
    (once kindOf parts.kind t).map fun kind => { parts with kind }
  else (contentOf t).map fun content =>
    if name = "path" then { parts with paths := content :: parts.paths } else parts

/-- A member of a library source is read by its name. -/
theorem reads_sourceMember : ReadsMember sourceMember sourceStep := by
  intro parts name t before after cs rest blankBefore blankAfter value ends
  rw [sourceMember, sourceStep]
  split
  · exact readOnce_written reads_kind parts.kind (fun kind => { parts with kind })
      blankBefore blankAfter value ends
  · rw [toOption_map, readField_written reads_content blankBefore blankAfter value ends]
    cases contentOf t with
    | none => rfl
    | some content =>
      simp only [Option.map_some]
      split <;> rfl

/-- The members of a library source count by their names, and all of them have to be readable. -/
theorem foldMembers_sourceStep (parts : SourceParts) (ms : Members) :
    foldMembers sourceStep parts ms =
      if allSpelled ms && contentsReadable ms then
        (slot kindOf parts.kind (valuesOf "kind" ms)).map fun kind =>
          { kind, paths := ((valuesOf "path" ms).filterMap contentOf).reverse ++ parts.paths }
      else none := by
  induction ms generalizing parts with
  | nil => rfl
  | cons m ms ih =>
    obtain ⟨key, t⟩ := m
    have cons : foldMembers sourceStep parts ((key, t) :: ms) =
        ((spelled key).bind fun name => sourceStep parts name t).bind fun parts =>
          foldMembers sourceStep parts ms := rfl
    have readable : contentsReadable ((key, t) :: ms) =
        ((spelled key = some "kind" || (contentOf t).isSome) && contentsReadable ms) := rfl
    rw [cons]
    simp only [ih, valuesOf_cons, allSpelled_cons, readable]
    cases spelled key with
    | none => rfl
    | some name =>
      simp only [sourceStep, Option.bind_some, Option.isSome_some, Bool.true_and, Option.some.injEq]
      by_cases kind : name = "kind"
      · subst kind
        simp only [if_true, String.reduceEq, if_false, slot_cons, decide_true, Bool.true_or,
          Bool.true_and]
        cases once kindOf parts.kind t <;> cases allSpelled ms && contentsReadable ms <;> simp
      by_cases path : name = "path"
      · subst path
        simp only [if_true, String.reduceEq, if_false, decide_false, Bool.false_or]
        cases content : contentOf t <;> cases allSpelled ms <;> cases contentsReadable ms <;>
          simp [content]
      · simp only [kind, path, if_false, decide_false, Bool.false_or]
        cases contentOf t <;> cases allSpelled ms <;> cases contentsReadable ms <;> simp

/-- A library source in the form of an object is read member by member; its kind says whether a path
is needed. -/
theorem reads_sourceObject : ReadsMembers sourceObject sourceOfMembers := by
  intro ms cs written rest
  simp only [sourceObject, toOption_bind, reads_object reads_sourceMember {} written rest,
    foldMembers_sourceStep]
  simp only [slot_none, sourceOfMembers]
  cases allSpelled ms && contentsReadable ms with
  | false => rfl
  | true =>
    simp only [if_true]
    rcases single kindOf (valuesOf "kind" ms) with _ | _ | kind
    · rfl
    · rfl
    · -- The values of the path were put together the latest first.
      simp only [Option.map_some, Option.bind_some, List.append_nil, toOption_bind]
      rw [← sourceFrom_perm kind (List.reverse_perm _), sourceFrom]
      cases sourceOf kind _ <;> rfl

/-- The elements after the kind are read up to the end of the array. -/
theorem readContents_written {ts : List Tree} {cs : List Char}
    (h : Written (.elements false ts) cs) {limit : Nat} (within : ts.length < limit)
    (rest : List Char) :
    (readContents limit (cs ++ rest)).toOption = (ts.mapM contentOf).map (·, ']' :: rest) := by
  induction ts generalizing cs limit with
  | nil =>
    obtain ⟨limit, rfl⟩ := Nat.exists_eq_add_one_of_ne_zero (Nat.ne_zero_of_lt within)
    rw [readContents, readElement_nil readContent h]
    rfl
  | cons t ts ih =>
    obtain ⟨limit, rfl⟩ := Nat.exists_eq_add_one_of_ne_zero (Nat.ne_zero_of_lt within)
    obtain ⟨more, written, read⟩ := readElement_cons reads_content h rest
    rw [readContents, toOption_bind, read, List.mapM_cons]
    cases contentOf t with
    | none => rfl
    | some content =>
      simp only [Option.map_some, Option.bind_some, toOption_bind,
        ih written (Nat.lt_of_succ_lt_succ within)]
      cases ts.mapM contentOf <;> rfl

/-- Each element takes a character, at least. -/
theorem length_le_of_elements {isFirst : Bool} {ts : List Tree} {cs : List Char}
    (h : Written (.elements isFirst ts) cs) : ts.length ≤ cs.length := by
  induction ts generalizing isFirst cs with
  | nil => exact Nat.zero_le _
  | cons t ts ih =>
    cases h with
    | element _ _ value later =>
      have := ih later
      obtain ⟨c, cs, rfl, -⟩ := value.begins
      simp only [List.length_append, List.length_cons]
      omega

/-- A library source in the form of an array is read by position: its kind, and then its path. -/
theorem reads_sourceArray : ReadsElements sourceArray sourceOfElements := by
  intro ts cs written rest
  rw [sourceArray, toOption_bind]
  cases ts with
  | nil =>
    rw [readElement_nil readKind written]
    rfl
  | cons t ts =>
    obtain ⟨more, written, read⟩ := readElement_cons reads_kind written rest
    rw [read, sourceOfElements]
    cases kindOf t with
    | none => rfl
    | some kind =>
      have within : ts.length < (more ++ rest).length + 1 := by
        have := length_le_of_elements written
        rw [List.length_append]
        omega
      simp only [Option.map_some, Option.bind_some, toOption_bind,
        readContents_written written within]
      cases ts.mapM contentOf with
      | none => rfl
      | some contents =>
        have close : closeArray (']' :: rest) = .ok rest := rfl
        have source : ∀ kind contents,
            ((sourceOf kind contents).bind fun source =>
              Except.ok (source, rest) : Reading LibrarySource).toOption =
              (sourceFrom kind contents).map (·, rest) := by
          intro kind contents
          rw [sourceFrom]
          cases sourceOf kind contents <;> rfl
        simp only [Option.map_some, Option.bind_some, close, toOption_ok]
        cases kind with
        | path => exact source .path contents
        | bundled | system =>
          cases contents with
          | nil => exact source _ []
          | cons content contents => rfl

/-- A library source is read in both forms. -/
theorem reads_source : Reads readSource sourceOfTree :=
  reads_compound reads_sourceArray reads_sourceObject

/-! ## Configurations -/

/-- What a member adds to a configuration. -/
def configStep (parts : Parts) (name : String) (t : Tree) : Option Parts :=
  if name = "library" then
    (once sourceOfTree parts.library t).map fun library => { parts with library }
  else if name = "open" then
    (once optionsOf parts.openOptions t).map fun openOptions => { parts with openOptions }
  else some parts

/-- A member of a configuration is read by its name. -/
theorem reads_configMember : ReadsMember configMember configStep := by
  intro parts name t before after cs rest blankBefore blankAfter value ends
  rw [configMember, configStep]
  split
  · exact readOnce_written reads_source parts.library (fun library => { parts with library })
      blankBefore blankAfter value ends
  split
  · exact readOnce_written reads_options parts.openOptions
      (fun openOptions => { parts with openOptions }) blankBefore blankAfter value ends
  · exact skipField_written parts blankBefore blankAfter value ends

/-- The members of a configuration count by their names. -/
theorem foldMembers_configStep (parts : Parts) (ms : Members) :
    foldMembers configStep parts ms =
      if allSpelled ms then
        (slot sourceOfTree parts.library (valuesOf "library" ms)).bind fun library =>
        (slot optionsOf parts.openOptions (valuesOf "open" ms)).bind fun openOptions =>
          some { library, openOptions }
      else none := by
  induction ms generalizing parts with
  | nil => rfl
  | cons m ms ih =>
    obtain ⟨key, t⟩ := m
    have cons : foldMembers configStep parts ((key, t) :: ms) =
        ((spelled key).bind fun name => configStep parts name t).bind fun parts =>
          foldMembers configStep parts ms := rfl
    rw [cons]
    simp only [ih, valuesOf_cons, allSpelled_cons]
    cases spelled key with
    | none => rfl
    | some name =>
      simp only [configStep, Option.bind_some, Option.isSome_some, Bool.true_and, Option.some.injEq]
      by_cases library : name = "library"
      · subst library
        simp only [if_true, String.reduceEq, if_false, slot_cons]
        cases once sourceOfTree parts.library t <;> cases allSpelled ms <;> simp
      by_cases openOptions : name = "open"
      · subst openOptions
        simp only [if_true, String.reduceEq, if_false, slot_cons]
        cases once optionsOf parts.openOptions t <;> cases allSpelled ms <;> simp
      · simp only [library, openOptions, if_false, Option.bind_some]

/-- A configuration in the form of an object is read member by member. -/
theorem reads_configObject : ReadsMembers configObject configOfMembers := by
  intro ms cs written rest
  rw [configObject, toOption_map, reads_object reads_configMember {} written rest,
    foldMembers_configStep]
  simp only [slot_none, configOfMembers, configFrom]
  cases allSpelled ms with
  | false => rfl
  | true =>
    simp only [if_true, Option.map_bind, Option.map_some, Function.comp_def]

/-- A configuration with what is left of the input, put together from its parts. -/
theorem map_configFrom (library openOptions : List Tree) (rest : List Char) :
    (configFrom library openOptions).map (·, rest) =
      (single sourceOfTree library).bind fun library =>
      (single optionsOf openOptions).bind fun openOptions =>
        some (Parts.config { library, openOptions }, rest) := by
  simp only [configFrom, Option.map_bind, Option.map_some, Function.comp_def]

/-- A configuration in the form of an array is read by position, up to two of them. -/
theorem reads_configArray : ReadsElements configArray configOfElements := by
  intro ts cs written rest
  have read : (configArray (cs ++ rest)).toOption =
      (single sourceOfTree ts.head?.toList).bind fun library =>
      (single optionsOf ts.tail.head?.toList).bind fun openOptions =>
        if ts.tail.tail = [] then some (Parts.config { library, openOptions }, rest) else none := by
    simp only [configArray, toOption_bind]
    refine bind_readElement reads_source written rest fun library more written => ?_
    refine bind_readElement reads_options written rest fun openOptions more written => ?_
    rw [closeArray_written written]
    split <;> rfl
  rw [read]
  rcases ts with _ | ⟨library, _ | ⟨openOptions, _ | ⟨t, ts⟩⟩⟩ <;>
    simp [configOfElements, map_configFrom]

/-- A configuration is read in both forms. -/
theorem reads_config : Reads (readCompound configArray configObject) configOf :=
  reads_compound reads_configArray reads_configObject

/-- A text stands for the configuration that the tree in it means, if it means one. -/
theorem ofJson_of_writes {t : Tree} {text : String} (h : t.Writes text) :
    (ofJson text).toOption = configOf t := by
  obtain ⟨before, cs, after, blankBefore, written, blankAfter, chars⟩ := h
  have ends : EndsNumber after := by
    have := endsNumber_append blankAfter [] (by simp)
    rwa [List.append_nil] at this
  have skipped : skipSpace after = [] := by
    have := skipSpace_append blankAfter []
    rwa [List.append_nil] at this
  rw [ofJson, readWhole, chars, toOption_bind, reads_config blankBefore written ends]
  cases configOf t with
  | none => rfl
  | some config =>
    simp only [Option.map_some, Option.bind_some, skipped, if_true]
    rfl

end EngineBridge.Config
