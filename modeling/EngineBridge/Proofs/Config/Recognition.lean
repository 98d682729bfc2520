import EngineBridge.Proofs.Config.Reading
import EngineBridge.Proofs.Json.Recognition

/-!
# Accepted configurations are JSON

A reader that takes something off the front of the input has found a value there that is written
by the grammar (`Finds`).  So every text that stands for a configuration is the text of a tree.
-/

set_option autoImplicit false

namespace EngineBridge.Config

open Json

variable {α β σ : Type}

/-- What a reader takes off the front of the input is a value. -/
def Finds (read : List Char → Reading α) : Prop :=
  ∀ ⦃cs a rest⦄, read cs = .ok (a, rest) →
    ∃ t sp v, Blank sp ∧ Written (.value t) v ∧ cs = sp ++ (v ++ rest)

/-! ## Values -/

/-- A mismatch is never a success. -/
theorem mismatch_ne_ok {cs rest : List Char} {a : α} :
    (mismatch cs : Reading α) ≠ .ok (a, rest) := by
  intro h
  have none := mismatch_toOption (α := α) cs
  rw [h] at none
  cases none

/-- What a reader finds is found, whatever is made of it. -/
theorem Finds.map {read : List Char → Reading α} (h : Finds read) (f : α → β) :
    Finds fun cs => (read cs).map fun (a, rest) => (f a, rest) := by
  intro cs b rest found
  obtain ⟨⟨a, rest⟩, found, same⟩ := map_eq_ok.mp found
  cases same
  exact h found

/-- A reader of texts finds a string. -/
theorem finds_text : Finds readText := by
  intro cs s rest h
  obtain ⟨sp, blank, split⟩ := exists_blank cs
  rw [readText] at h
  split at h
  · cases h
  · next c more start =>
    split at h
    · next quote =>
      obtain ⟨body, isBody, rfl⟩ := readString_ok h
      exact ⟨_, sp, _, blank, .string isBody, by rw [split, start, quote]; simp⟩
    · exact absurd h mismatch_ne_ok

/-- A reader of integers finds a number. -/
theorem finds_integer (low high : Int) : Finds (readInteger low high) := by
  intro cs n rest h
  obtain ⟨sp, blank, split⟩ := exists_blank cs
  rw [readInteger] at h
  split at h
  · cases h
  · next c more start =>
    split at h
    · split at h
      · cases h
      · next m left number =>
        split at h
        · cases h
          obtain ⟨literal, isNumber, parts⟩ := readNumber_ok number
          exact ⟨_, sp, _, blank, .number isNumber, by rw [split, start, parts]⟩
        · cases h
      · cases h
    · exact absurd h mismatch_ne_ok

/-- A reader of something optional finds the null literal or what it reads else. -/
theorem finds_optional {read : List Char → Reading α} (finds : Finds read) :
    Finds (readOptional read) := by
  intro cs a rest h
  obtain ⟨sp, blank, split⟩ := exists_blank cs
  rw [readOptional] at h
  split at h
  · next more start =>
    obtain ⟨left, null, same⟩ := map_eq_ok.mp h
    cases same
    exact ⟨.null, sp, _, blank, .null, by rw [split, start, expect_ok null]; rfl⟩
  · obtain ⟨⟨b, left⟩, found, same⟩ := map_eq_ok.mp h
    cases same
    obtain ⟨t, sp', v, blank', written, parts⟩ := finds found
    exact ⟨t, sp ++ sp', v, blank.append blank', written, by rw [split, parts]; simp⟩

/-- A reader of kinds finds a string. -/
theorem finds_kind : Finds readKind := by
  intro cs kind rest h
  rw [readKind] at h
  split at h
  · cases h
  · next name left text =>
    have same : rest = left := by
      split_ifs at h <;> cases h <;> rfl
    exact finds_text (same ▸ text)

/-- A reader of flags finds a number. -/
theorem finds_flags : Finds readFlags :=
  (finds_integer _ _).map fun n => (⟨Int32.ofInt n⟩ : OpenFlags)

/-- A reader of timeouts finds a number. -/
theorem finds_timeout : Finds readTimeout :=
  (finds_integer _ _).map fun n => UInt32.ofNat n.toNat

/-- A reader of contents finds a value of any form. -/
theorem finds_content : Finds readContent := by
  intro cs content rest h
  obtain ⟨sp, blank, split⟩ := exists_blank cs
  rw [readContent] at h
  split at h
  · cases h
  · next more start =>
    obtain ⟨⟨s, left⟩, string, same⟩ := map_eq_ok.mp h
    cases same
    obtain ⟨body, isBody, rfl⟩ := readString_ok string
    exact ⟨_, sp, _, blank, .string isBody, by rw [split, start]; simp⟩
  · obtain ⟨left, skipped, same⟩ := map_eq_ok.mp h
    cases same
    obtain ⟨t, sp', v, blank', written, parts⟩ := skipValue_ok (sound_inFull maxNesting) skipped
    exact ⟨t, sp ++ sp', v, blank.append blank', written, by rw [split, parts]; simp⟩

/-! ## Arrays -/

/-- What an array reader takes off the front of the input is the rest of an array. -/
def FindsElements (read : List Char → Reading α) : Prop :=
  ∀ ⦃cs a rest⦄, read cs = .ok (a, rest) → ∃ ts v, Written (.elements true ts) v ∧ cs = v ++ rest

/-- The next element comes after a separator, or else the array ends. -/
theorem nextElement_ok {isFirst more : Bool} {cs rest : List Char}
    (h : nextElement isFirst cs = .ok (more, rest)) :
    (more = false ∧ ∃ sp left, Blank sp ∧ cs = sp ++ ']' :: left ∧ rest = ']' :: left) ∨
    (more = true ∧ ∃ sep sp, Separator isFirst sep ∧ Blank sp ∧ cs = sep ++ (sp ++ rest)) := by
  obtain ⟨sp, blank, split⟩ := exists_blank cs
  rw [nextElement] at h
  split at h
  · cases h
  · next left start =>
    cases h
    exact .inl ⟨rfl, sp, left, blank, by rw [split, start], rfl⟩
  · next left start =>
    split at h
    · next first =>
      cases h
      exact .inr ⟨rfl, [], sp, first ▸ .first, blank, by rw [split, start]; rfl⟩
    · next first =>
      obtain ⟨sp', blank', split'⟩ := exists_blank left
      obtain rfl : isFirst = false := Bool.eq_false_iff.mpr first
      split at h
      · cases h
      · cases h
      · cases h
        exact .inr ⟨rfl, sp ++ [','], sp', .comma blank, blank',
          by rw [split, start, split']; simp [← split']⟩
  · split at h
    · next first =>
      cases h
      exact .inr ⟨rfl, [], sp, first ▸ .first, blank, split⟩
    · cases h

/-- An element is found after what stands before it, or else the array ends. -/
theorem readElement_ok {read : List Char → Reading α} (finds : Finds read) {isFirst : Bool}
    {cs rest : List Char} {a : Option α} (h : readElement read isFirst cs = .ok (a, rest)) :
    (a = none ∧ ∃ sp left, Blank sp ∧ cs = sp ++ ']' :: left ∧ rest = ']' :: left) ∨
    (a.isSome ∧ ∃ t sep sp v, Separator isFirst sep ∧ Blank sp ∧ Written (.value t) v ∧
      cs = sep ++ (sp ++ (v ++ rest))) := by
  rw [readElement] at h
  split at h
  · cases h
  · next left next =>
    cases h
    rcases nextElement_ok next with ⟨-, ended⟩ | ⟨more, -⟩
    · exact .inl ⟨rfl, ended⟩
    · cases more
  · next left next =>
    obtain ⟨⟨b, rest⟩, found, same⟩ := map_eq_ok.mp h
    cases same
    rcases nextElement_ok next with ⟨ended, -⟩ | ⟨-, sep, sp, separator, blank, rfl⟩
    · cases ended
    · obtain ⟨t, sp', v, blank', written, rfl⟩ := finds found
      exact .inr ⟨rfl, t, sep, sp ++ sp', v, separator, blank.append blank', written, by simp⟩

/-- An array that could be closed had no more elements. -/
theorem closeArray_ok {cs rest : List Char} (h : closeArray cs = .ok rest) (isFirst : Bool) :
    ∃ v, Written (.elements isFirst []) v ∧ cs = v ++ rest := by
  obtain ⟨sp, blank, split⟩ := exists_blank cs
  exact ⟨sp ++ [']'], .noElement blank, by rw [split, expect_ok h]; simp⟩

/-- Where an array ends at once, it has no elements. -/
theorem elements_of_closer {ts : List Tree} {v rest left : List Char}
    (h : Written (.elements true ts) v) (same : v ++ rest = ']' :: left) : rest = left := by
  have start : skipSpace (v ++ rest) = ']' :: left := by
    rw [same, skipSpace_cons rfl]
  cases h with
  | noElement blank =>
    rw [List.append_assoc, skipSpace_append blank, List.singleton_append,
      skipSpace_cons rfl] at start
    exact (List.cons.inj start).2
  | element separator blank value _ =>
    cases separator
    rw [List.nil_append, List.append_assoc, List.append_assoc, value.skipSpace_eq blank] at start
    obtain ⟨c, cs, rfl, begins⟩ := value.begins
    obtain rfl : c = ']' := (List.cons.inj start).1
    exact absurd (by decide) begins.not_mem

/-- An element is found before what was found after it. -/
theorem elements_of_readElement {read : List Char → Reading α} (finds : Finds read)
    {isFirst : Bool} {cs mid rest : List Char} {a : Option α}
    (h : readElement read isFirst cs = .ok (a, mid))
    (later : ∃ ts v, Written (.elements a.isNone ts) v ∧ mid = v ++ rest) :
    ∃ ts v, Written (.elements isFirst ts) v ∧ cs = v ++ rest := by
  obtain ⟨ts, v, written, rfl⟩ := later
  rcases readElement_ok finds h with ⟨rfl, sp, left, blank, rfl, closed⟩ |
    ⟨some, t, sep, sp, w, separator, blank, value, rfl⟩
  · rw [elements_of_closer written closed]
    exact ⟨[], sp ++ [']'], .noElement blank, by simp⟩
  · obtain ⟨a, rfl⟩ := Option.isSome_iff_exists.mp some
    exact ⟨t :: ts, _, .element separator blank value written, by simp⟩

/-- Open options in the form of an array are the elements of one. -/
theorem finds_optionsArray : FindsElements optionsArray := by
  intro cs options rest h
  obtain ⟨⟨flags, _⟩, hflags, h⟩ := bind_eq_ok.mp h
  obtain ⟨⟨vfs, _⟩, hvfs, h⟩ := bind_eq_ok.mp h
  obtain ⟨⟨timeout, _⟩, htimeout, h⟩ := bind_eq_ok.mp h
  obtain ⟨_, closed, same⟩ := bind_eq_ok.mp h
  cases same
  refine elements_of_readElement finds_flags hflags ?_
  refine elements_of_readElement (finds_optional finds_text) hvfs ?_
  refine elements_of_readElement (finds_optional finds_timeout) htimeout ?_
  exact ⟨[], closeArray_ok closed _⟩

/-- Contents are read up to the end of an array. -/
theorem readContents_ok {limit : Nat} {cs rest : List Char} {contents : List (Option String)}
    (h : readContents limit cs = .ok (contents, rest)) :
    ∃ ts v left, Written (.elements false ts) v ∧ cs = v ++ left ∧ rest = ']' :: left := by
  induction limit generalizing cs contents with
  | zero => cases h
  | succ limit ih =>
    obtain ⟨⟨content, mid⟩, read, h⟩ := bind_eq_ok.mp h
    cases content with
    | none =>
      cases h
      rcases readElement_ok finds_content read with ⟨-, sp, left, blank, rfl, rfl⟩ | ⟨some, -⟩
      · exact ⟨[], sp ++ [']'], left, .noElement blank, by simp, rfl⟩
      · cases some
    | some content =>
      obtain ⟨⟨contents, _⟩, more, h⟩ := bind_eq_ok.mp h
      cases h
      obtain ⟨ts, v, left, written, rfl, rfl⟩ := ih more
      rcases readElement_ok finds_content read with ⟨none, -⟩ |
        ⟨-, t, sep, sp, w, separator, blank, value, rfl⟩
      · cases none
      · exact ⟨t :: ts, _, left, .element separator blank value written, by simp, rfl⟩

/-- A library source in the form of an array is the elements of one. -/
theorem finds_sourceArray : FindsElements sourceArray := by
  intro cs source rest h
  obtain ⟨⟨kind, _⟩, hkind, h⟩ := bind_eq_ok.mp h
  cases kind with
  | none => cases h
  | some kind =>
    obtain ⟨⟨contents, _⟩, hcontents, h⟩ := bind_eq_ok.mp h
    obtain ⟨left, closed, h⟩ := bind_eq_ok.mp h
    have same : left = rest := by
      dsimp only at h
      split at h
      all_goals
        obtain ⟨_, -, same⟩ := bind_eq_ok.mp h
        cases same
        rfl
    subst same
    obtain ⟨ts, v, left, written, rfl, rfl⟩ := readContents_ok hcontents
    cases closed
    exact elements_of_readElement finds_kind hkind ⟨ts, v, written, rfl⟩

/-! ## Objects -/

/-- What an object reader takes off the front of the input is the rest of an object. -/
def FindsMembers (read : List Char → Reading α) : Prop :=
  ∀ ⦃cs a rest⦄, read cs = .ok (a, rest) → ∃ ms v, Written (.members true ms) v ∧ cs = v ++ rest

/-- What a reader takes off the input after a key is a colon and a value. -/
def FindsField (read : List Char → Reading α) : Prop :=
  ∀ ⦃cs a rest⦄, read cs = .ok (a, rest) →
    ∃ t before after v, Blank before ∧ Blank after ∧ Written (.value t) v ∧
      cs = before ++ ':' :: (after ++ (v ++ rest))

/-- What is read member by member are the members of an object. -/
theorem readMembers_ok {member : σ → String → List Char → Reading σ}
    (finds : ∀ state name, FindsField (member state name))
    {limit : Nat} {isFirst : Bool} {state state' : σ} {cs rest : List Char}
    (h : readMembers member limit isFirst state cs = .ok (state', rest)) :
    ∃ ms v, Written (.members isFirst ms) v ∧ cs = v ++ rest := by
  induction limit generalizing isFirst state cs with
  | zero => cases h
  | succ limit ih =>
    -- After a key come its value and the members after it.
    have keyed : ∀ {left sep sp : List Char}, Separator isFirst sep → Blank sp →
        cs = sep ++ (sp ++ '"' :: left) → ∃ ms v, Written (.members isFirst ms) v ∧
          cs = v ++ rest := by
      rintro left sep sp separator blank rfl
      rw [← toOption_eq_some, readMembers_key separator blank] at h
      obtain ⟨⟨name, mid⟩, string, named⟩ := Option.bind_eq_some_iff.mp h
      obtain ⟨⟨state, mid'⟩, value, later⟩ := Option.bind_eq_some_iff.mp named
      obtain ⟨key, isKey, rfl⟩ := readString_ok (toOption_eq_some.mp string)
      obtain ⟨t, before, after, v, blankBefore, blankAfter, written, rfl⟩ :=
        finds _ _ (toOption_eq_some.mp value)
      obtain ⟨ms, v', more, rfl⟩ := ih (toOption_eq_some.mp later)
      exact ⟨(key, t) :: ms, _,
        .member separator blank isKey blankBefore blankAfter written more, by simp⟩
    obtain ⟨sp, blank, split⟩ := exists_blank cs
    rw [readMembers] at h
    split at h
    · cases h
    · next left start =>
      cases h
      exact ⟨[], sp ++ ['}'], .noMember blank, by rw [split, start]; simp⟩
    · next left start =>
      split at h
      · next first =>
        subst first
        have opened : cs = [] ++ (sp ++ '"' :: left) := by
          rw [List.nil_append, ← start]
          exact split
        exact keyed .first blank opened
      · cases h
    · next left start =>
      split at h
      · cases h
      · next first =>
        obtain rfl : isFirst = false := Bool.eq_false_iff.mpr first
        obtain ⟨sp', blank', split'⟩ := exists_blank left
        split at h
        · cases h
        · next left' start' =>
          have comma : cs = (sp ++ [',']) ++ (sp' ++ '"' :: left') := by
            rw [List.append_assoc, List.singleton_append, ← start', ← split', ← start]
            exact split
          exact keyed (.comma blank) blank' comma
        · cases h
    · cases h

/-- A reader of objects finds members, if what it reads for each name is a field. -/
theorem finds_object {member : σ → String → List Char → Reading σ}
    (finds : ∀ state name, FindsField (member state name)) (state : σ) :
    FindsMembers (readObject member state) :=
  fun _ _ _ h => readMembers_ok finds h

/-- A field is found, whatever is made of its value. -/
theorem FindsField.map {read : List Char → Reading α} (h : FindsField read) (f : α → β) :
    FindsField fun cs => (read cs).map fun (a, rest) => (f a, rest) := by
  intro cs b rest found
  obtain ⟨⟨a, rest⟩, found, same⟩ := map_eq_ok.mp found
  cases same
  exact h found

/-- After a key, a reader of values finds a colon and a value. -/
theorem findsField_field {read : List Char → Reading α} (finds : Finds read) :
    FindsField (readField read) := by
  intro cs a rest h
  obtain ⟨left, colon, found⟩ := bind_eq_ok.mp h
  obtain ⟨before, blankBefore, rfl⟩ := readColon_ok colon
  obtain ⟨t, after, v, blankAfter, written, rfl⟩ := finds found
  exact ⟨t, before, after, v, blankBefore, blankAfter, written, rfl⟩

/-- A field that may occur once is found like any other. -/
theorem findsField_once {read : List Char → Reading α} (finds : Finds read) (seen : Option α) :
    FindsField (readOnce read seen) := by
  intro cs a rest h
  cases seen with
  | some _ => cases h
  | none => exact (findsField_field finds).map some h

/-- A field that is skipped is a colon and a value all the same. -/
theorem findsField_skip (state : σ) : FindsField (skipField state) := by
  intro cs state' rest h
  obtain ⟨left, colon, h⟩ := bind_eq_ok.mp h
  obtain ⟨left', skipped, same⟩ := bind_eq_ok.mp h
  cases same
  obtain ⟨before, blankBefore, rfl⟩ := readColon_ok colon
  obtain ⟨t, after, v, blankAfter, written, rfl⟩ := skipValue_ok sound_formOnly skipped
  exact ⟨t, before, after, v, blankBefore, blankAfter, written, rfl⟩

/-- A reader of arrays or objects finds a value, if it finds what is inside of them. -/
theorem finds_compound {array object : List Char → Reading α} (findsArray : FindsElements array)
    (findsObject : FindsMembers object) : Finds (readCompound array object) := by
  intro cs a rest h
  obtain ⟨sp, blank, split⟩ := exists_blank cs
  rw [readCompound] at h
  split at h
  · cases h
  · next left start =>
    obtain ⟨ts, v, written, rfl⟩ := findsArray h
    exact ⟨_, sp, _, blank, .array written, by rw [split, start]; rfl⟩
  · next left start =>
    obtain ⟨ms, v, written, rfl⟩ := findsObject h
    exact ⟨_, sp, _, blank, .object written, by rw [split, start]; rfl⟩
  · exact absurd h mismatch_ne_ok

/-! ## Configurations -/

/-- Each member of open options is a field, known or not. -/
theorem finds_optionMember (parts : OptionParts) (name : String) :
    FindsField (optionMember parts name) := by
  intro cs parts' rest h
  rw [optionMember] at h
  split at h
  · exact (findsField_once finds_flags _).map (fun flags => { parts with flags }) h
  split at h
  · exact (findsField_once (finds_optional finds_text) _).map (fun vfs => { parts with vfs }) h
  split at h
  · exact (findsField_once (finds_optional finds_timeout) _).map
      (fun busyTimeout => { parts with busyTimeout }) h
  · exact findsField_skip parts h

/-- Open options in the form of an object are the members of one. -/
theorem finds_optionsObject : FindsMembers optionsObject := by
  intro cs options rest h
  obtain ⟨⟨parts, _⟩, found, same⟩ := map_eq_ok.mp h
  cases same
  exact finds_object finds_optionMember _ found

/-- Open options are a value. -/
theorem finds_options : Finds readOptions :=
  finds_compound finds_optionsArray finds_optionsObject

/-- Each member of a library source is a field, known or not. -/
theorem finds_sourceMember (parts : SourceParts) (name : String) :
    FindsField (sourceMember parts name) := by
  intro cs parts' rest h
  rw [sourceMember] at h
  split at h
  · exact (findsField_once finds_kind _).map (fun kind => { parts with kind }) h
  · obtain ⟨⟨content, _⟩, found, same⟩ := map_eq_ok.mp h
    dsimp only at same
    split at same <;> cases same <;> exact findsField_field finds_content found

/-- A library source in the form of an object is the members of one. -/
theorem finds_sourceObject : FindsMembers sourceObject := by
  intro cs source rest h
  obtain ⟨⟨parts, _⟩, found, h⟩ := bind_eq_ok.mp h
  dsimp only at h
  split at h
  · cases h
  · obtain ⟨_, -, same⟩ := bind_eq_ok.mp h
    cases same
    exact finds_object finds_sourceMember _ found

/-- A library source is a value. -/
theorem finds_source : Finds readSource :=
  finds_compound finds_sourceArray finds_sourceObject

/-- Each member of a configuration is a field, known or not. -/
theorem finds_configMember (parts : Parts) (name : String) :
    FindsField (configMember parts name) := by
  intro cs parts' rest h
  rw [configMember] at h
  split at h
  · exact (findsField_once finds_source _).map (fun library => { parts with library }) h
  split at h
  · exact (findsField_once finds_options _).map (fun openOptions => { parts with openOptions }) h
  · exact findsField_skip parts h

/-- A configuration in the form of an object is the members of one. -/
theorem finds_configObject : FindsMembers configObject := by
  intro cs config rest h
  obtain ⟨⟨parts, _⟩, found, same⟩ := map_eq_ok.mp h
  cases same
  exact finds_object finds_configMember _ found

/-- A configuration in the form of an array is the elements of one. -/
theorem finds_configArray : FindsElements configArray := by
  intro cs config rest h
  obtain ⟨⟨library, _⟩, hlibrary, h⟩ := bind_eq_ok.mp h
  obtain ⟨⟨openOptions, _⟩, hoptions, h⟩ := bind_eq_ok.mp h
  obtain ⟨_, closed, same⟩ := bind_eq_ok.mp h
  cases same
  refine elements_of_readElement finds_source hlibrary ?_
  refine elements_of_readElement finds_options hoptions ?_
  exact ⟨[], closeArray_ok closed _⟩

/-- A text that stands for a configuration is JSON. -/
theorem exists_writes_of_ofJson {text : String} {config : Config} (h : ofJson text = .ok config) :
    ∃ t : Tree, t.Writes text := by
  obtain ⟨⟨_, rest⟩, found, h⟩ := bind_eq_ok.mp h
  dsimp only at h
  split at h
  · next done =>
    obtain ⟨t, sp, v, blank, written, split⟩ :=
      finds_compound finds_configArray finds_configObject found
    obtain ⟨after, blankAfter, parts⟩ := exists_blank rest
    rw [done, List.append_nil] at parts
    exact ⟨t, sp, v, rest, blank, written, parts ▸ blankAfter, split⟩
  · cases h

end EngineBridge.Config
