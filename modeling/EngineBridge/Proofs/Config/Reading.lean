import EngineBridge.Proofs.Config.Meaning

/-!
# Readers find the meaning of a value

What a reader makes of a text for a tree is what the tree means to it (`Reads`), however the text
is spaced and whatever comes after it.  That is proved for each reader from the readers that it
is made of: for one of arrays from those of its elements, and for one of objects from what each
member adds to what was read before it (`ReadsMember`).
-/

set_option autoImplicit false

namespace EngineBridge.Config

open Json

variable {α β σ : Type}

/-! ## Values -/

/-- What a reader makes of a text for a tree is what the tree means, whatever comes after it. -/
def Reads (read : List Char → Reading α) (meaning : Tree → Option α) : Prop :=
  ∀ ⦃t sp cs rest⦄, Blank sp → Written (.value t) cs → EndsNumber rest →
    (read (sp ++ (cs ++ rest))).toOption = (meaning t).map (·, rest)

/-- A value of another kind is never read. -/
theorem mismatch_toOption (cs : List Char) : (mismatch cs : Reading α).toOption = none := by
  unfold mismatch
  split
  · rfl
  · next c rest =>
    dsimp only
    repeat' split
    all_goals rfl

/-- What is read of a tree is read, whatever is made of it. -/
theorem Reads.map {read : List Char → Reading α} {meaning : Tree → Option α}
    (h : Reads read meaning) (f : α → β) :
    Reads (fun cs => (read cs).map fun (a, rest) => (f a, rest)) fun t => (meaning t).map f := by
  intro t sp cs rest blank written ends
  simp only [toOption_map, h blank written ends]
  cases meaning t <;> rfl

/-- Strings are read for what they spell, and nothing else is a text. -/
theorem reads_text : Reads readText textOf := by
  intro t sp cs rest blank written ends
  rw [readText, written.skipSpace_eq blank]
  cases t with
  | string body =>
    cases written with
    | string string =>
      simp only [List.cons_append, List.append_assoc, if_true]
      exact readString_append string rest
  | _ =>
    obtain ⟨c, more, rfl, begins⟩ := written.begins
    have other : c ≠ '"' := by
      rintro rfl
      obtain ⟨_, h⟩ := begins.string
      cases h
    simp only [List.cons_append, if_neg other]
    exact mismatch_toOption _

/-- Numbers are read for the integers that they are, within bounds. -/
theorem reads_integer (low high : Int) : Reads (readInteger low high) (integerOf low high) := by
  intro t sp cs rest blank written ends
  rw [readInteger, written.skipSpace_eq blank]
  obtain ⟨c, more, rfl, begins⟩ := written.begins
  cases t with
  | number literal =>
    cases written with
    | number number =>
      have hread := readNumber_append number ends
      have numbered : beginsNumber c = true := begins
      simp only [List.cons_append, numbered, if_true, integerOf] at hread ⊢
      cases value : numeral (c :: more) with
      | none =>
        rw [value] at hread
        obtain ⟨e, hread⟩ := toOption_eq_none.mp hread
        rw [hread]
        rfl
      | some n =>
        rw [value] at hread
        rw [toOption_eq_some.mp hread]
        cases n with
        | integer n =>
          dsimp only
          split <;> rfl
        | other => rfl
  | _ =>
    have other : ¬beginsNumber c = true := by
      intro numbered
      obtain ⟨_, h⟩ := begins.number numbered
      cases h
    simp only [List.cons_append, if_neg other]
    exact mismatch_toOption _

/-- Something optional is read as nothing from the null literal, and as itself else. -/
theorem reads_optional {read : List Char → Reading α} {meaning : Tree → Option α}
    (h : Reads read meaning) : Reads (readOptional read) (optionalOf meaning) := by
  intro t sp cs rest blank written ends
  have whole := h.map some blank_nil written ends
  rw [readOptional, written.skipSpace_eq blank]
  obtain ⟨c, more, rfl, begins⟩ := written.begins
  cases t with
  | null =>
    cases written
    rfl
  | _ =>
    have other : c ≠ 'n' := by
      rintro rfl
      cases begins.null
    split
    · next heq => exact absurd (List.cons.inj heq).1 other
    · exact whole

/-- Kinds are read by their names. -/
theorem reads_kind : Reads readKind kindOf := by
  intro t sp cs rest blank written ends
  have hread := reads_text blank written ends
  rw [readKind, kindOf]
  cases text : textOf t with
  | none =>
    rw [text] at hread
    obtain ⟨e, hread⟩ := toOption_eq_none.mp hread
    rw [hread]
    rfl
  | some name =>
    rw [text] at hread
    rw [toOption_eq_some.mp hread]
    simp only [Option.bind_some]
    repeat' split
    all_goals rfl

/-- The content of a path is read from a string; other values have none. -/
theorem reads_content : Reads readContent contentOf := by
  intro t sp cs rest blank written ends
  have skipped := skipValue_written (settled_inFull maxNesting) blank_nil written ends
  rw [readContent, written.skipSpace_eq blank]
  cases t with
  | string body =>
    cases written with
    | string string =>
      simp only [List.cons_append, List.append_assoc, toOption_map,
        readString_append string, contentOf, Option.map_map]
      rfl
  | _ =>
    obtain ⟨c, more, rfl, begins⟩ := written.begins
    have other : c ≠ '"' := by
      rintro rfl
      obtain ⟨_, h⟩ := begins.string
      cases h
    split
    · next heq => cases heq
    · next heq => exact absurd (List.cons.inj heq).1 other
    · rw [List.nil_append] at skipped
      simp only [toOption_map, skipped, contentOf]
      split <;> rfl

/-- Flags are read as the integers of their range. -/
theorem reads_flags : Reads readFlags flagsOf :=
  (reads_integer _ _).map fun n => (⟨Int32.ofInt n⟩ : OpenFlags)

/-- Timeouts are read as the integers of their range. -/
theorem reads_timeout : Reads readTimeout timeoutOf :=
  (reads_integer _ _).map fun n => UInt32.ofNat n.toNat

/-! ## Arrays -/

/-- What an array reader makes of the elements of an array. -/
def ReadsElements (read : List Char → Reading α) (meaning : List Tree → Option α) : Prop :=
  ∀ ⦃ts cs⦄, Written (.elements true ts) cs → ∀ rest,
    (read (cs ++ rest)).toOption = (meaning ts).map (·, rest)

/-- At the end of an array there is no element. -/
theorem readElement_nil (read : List Char → Reading α) {isFirst : Bool} {cs : List Char}
    (h : Written (.elements isFirst []) cs) (rest : List Char) :
    readElement read isFirst (cs ++ rest) = .ok (none, ']' :: rest) := by
  cases h with
  | noElement blank =>
    rw [readElement, nextElement, List.append_assoc, skipSpace_append blank, List.singleton_append,
      skipSpace_cons rfl]
    rfl

/-- What stands before an element is passed over. -/
theorem nextElement_cons {isFirst : Bool} {sep sp cs : List Char} {t : Tree}
    (separator : Separator isFirst sep) (blank : Blank sp) (value : Written (.value t) cs)
    (rest : List Char) :
    nextElement isFirst (sep ++ (sp ++ (cs ++ rest))) = .ok (true, cs ++ rest) := by
  have start := value.skipSpace_eq blank rest
  obtain ⟨c, cs, rfl, begins⟩ := value.begins
  rw [List.cons_append] at start
  have comma : c ≠ ',' := by
    rintro rfl
    exact begins.not_mem (by decide)
  have closer : c ≠ ']' := by
    rintro rfl
    exact begins.not_mem (by decide)
  cases separator with
  | first => simp [nextElement, start, comma, closer]
  | comma blank' =>
    rw [nextElement, List.append_assoc, skipSpace_append blank', List.singleton_append,
      skipSpace_cons rfl]
    simp [start, closer]

/-- An element is read with what stands before it. -/
theorem readElement_cons {read : List Char → Reading α} {meaning : Tree → Option α}
    (reads : Reads read meaning) {isFirst : Bool} {t : Tree} {ts : List Tree} {cs : List Char}
    (h : Written (.elements isFirst (t :: ts)) cs) (rest : List Char) :
    ∃ more, Written (.elements false ts) more ∧
      (readElement read isFirst (cs ++ rest)).toOption =
        (meaning t).map fun a => (some a, more ++ rest) := by
  cases h with
  | @element _ sep sp cs more _ _ separator blank value later =>
    refine ⟨more, later, ?_⟩
    have hread := reads.map some blank_nil value (later.elements_endsNumber rest)
    rw [List.nil_append, Option.map_map] at hread
    simp only [readElement, List.append_assoc, nextElement_cons separator blank value]
    exact hread

/-- An array may be closed where it has no more elements. -/
theorem closeArray_written {isFirst : Bool} {ts : List Tree} {cs : List Char}
    (h : Written (.elements isFirst ts) cs) (rest : List Char) :
    (closeArray (cs ++ rest)).toOption = if ts = [] then some rest else none := by
  cases h with
  | noElement blank =>
    rw [closeArray, List.append_assoc, skipSpace_append blank, List.singleton_append,
      skipSpace_cons rfl]
    rfl
  | @element _ sep sp cs more _ _ separator blank value later =>
    have start := value.skipSpace_eq blank (more ++ rest)
    obtain ⟨c, cs, rfl, begins⟩ := value.begins
    rw [List.cons_append] at start
    have closer : c ≠ ']' := by
      rintro rfl
      exact begins.not_mem (by decide)
    cases separator with
    | first => simp [closeArray, start, expect, closer, Except.toOption]
    | comma blank' =>
      rw [closeArray, List.append_assoc, List.append_assoc, skipSpace_append blank',
        List.singleton_append, List.cons_append, skipSpace_cons rfl]
      simp [expect, Except.toOption]

/-- Reading goes on after an element that may be missing. -/
theorem bind_readElement {read : List Char → Reading α} {meaning : Tree → Option α}
    (reads : Reads read meaning) {isFirst : Bool} {ts : List Tree} {cs : List Char}
    (h : Written (.elements isFirst ts) cs) (rest : List Char)
    {next : Option α × List Char → Option β} {after : Option α → Option β}
    (later : ∀ a more, Written (.elements a.isNone ts.tail) more →
      next (a, more ++ rest) = after a) :
    (readElement read isFirst (cs ++ rest)).toOption.bind next =
      (single meaning ts.head?.toList).bind after := by
  cases ts with
  | nil =>
    rw [readElement_nil read h rest]
    exact later none [']'] (.noElement blank_nil)
  | cons t ts =>
    obtain ⟨more, written, hread⟩ := readElement_cons reads h rest
    rw [hread]
    show _ = ((meaning t).map some).bind after
    cases meaning t with
    | none => rfl
    | some a => exact later (some a) more written

/-! ## Objects -/

/-- What an object reader makes of the members of an object. -/
def ReadsMembers (read : List Char → Reading α) (meaning : Members → Option α) : Prop :=
  ∀ ⦃ms cs⦄, Written (.members true ms) cs → ∀ rest,
    (read (cs ++ rest)).toOption = (meaning ms).map (·, rest)

/-- What the reader of a member makes of what comes after its key. -/
def ReadsMember (member : σ → String → List Char → Reading σ)
    (step : σ → String → Tree → Option σ) : Prop :=
  ∀ state name ⦃t before after cs rest⦄, Blank before → Blank after → Written (.value t) cs →
    EndsNumber rest →
    (member state name (before ++ ':' :: (after ++ (cs ++ rest)))).toOption =
      (step state name t).map (·, rest)

/-- What the members of an object come to, one after the other. -/
def foldMembers (step : σ → String → Tree → Option σ) (state : σ) (ms : Members) : Option σ :=
  ms.foldlM (fun state m => (spelled m.1).bind fun name => step state name m.2) state

/-- A member is read with what stands before it. -/
theorem readMembers_key {member : σ → String → List Char → Reading σ} {isFirst : Bool}
    {sep sp : List Char} (separator : Separator isFirst sep) (blank : Blank sp) (limit : Nat)
    (state : σ) (cs : List Char) :
    (readMembers member (limit + 1) isFirst state (sep ++ (sp ++ '"' :: cs))).toOption =
      (readString cs).toOption.bind fun (name, rest) =>
        (member state name rest).toOption.bind fun (state, rest) =>
          (readMembers member limit false state rest).toOption := by
  have start : readMembers member (limit + 1) isFirst state (sep ++ (sp ++ '"' :: cs)) =
      readMembers member (limit + 1) true state ('"' :: cs) := by
    cases separator with
    | first =>
      rewrite [List.nil_append, readMembers, skipSpace_append blank]
      rfl
    | comma blank' =>
      rewrite [readMembers, List.append_assoc, skipSpace_append blank', List.singleton_append,
        skipSpace_cons rfl]
      simp only [skipSpace_append blank, skipSpace_cons (c := '"') rfl]
      rfl
  rewrite [start, readMembers, skipSpace_cons rfl]
  simp only [if_true]
  cases readString cs with
  | error e => rfl
  | ok a =>
    dsimp only [toOption_ok, Option.bind_some]
    cases member state a.1 a.2 <;> rfl

/-- The end of an object. -/
theorem readMembers_nil (member : σ → String → List Char → Reading σ) {isFirst : Bool}
    {cs : List Char} (h : Written (.members isFirst []) cs) (limit : Nat) (state : σ)
    (rest : List Char) :
    readMembers member (limit + 1) isFirst state (cs ++ rest) = .ok (state, rest) := by
  cases h with
  | noMember blank =>
    rw [readMembers, List.append_assoc, skipSpace_append blank, List.singleton_append,
      skipSpace_cons rfl]
    rfl

/-- The members of an object are read one after the other. -/
theorem readMembers_written {member : σ → String → List Char → Reading σ}
    {step : σ → String → Tree → Option σ} (reads : ReadsMember member step) {isFirst : Bool}
    {ms : Members} {cs : List Char} (h : Written (.members isFirst ms) cs) {limit : Nat}
    (within : ms.length < limit) (state : σ) (rest : List Char) :
    (readMembers member limit isFirst state (cs ++ rest)).toOption =
      (foldMembers step state ms).map (·, rest) := by
  induction ms generalizing isFirst cs limit state with
  | nil =>
    obtain ⟨limit, rfl⟩ := Nat.exists_eq_add_one_of_ne_zero (Nat.ne_zero_of_lt within)
    rw [readMembers_nil member h]
    rfl
  | cons m ms ih =>
    obtain ⟨limit, rfl⟩ := Nat.exists_eq_add_one_of_ne_zero (Nat.ne_zero_of_lt within)
    cases h with
    | @member _ sep sp key before after cs more t _ separator blank isKey blankBefore blankAfter
        value later =>
      have read := fun name => reads state name blankBefore blankAfter value
        (later.members_endsNumber rest)
      have go := fun state => ih later (Nat.lt_of_succ_lt_succ within) state
      simp only [List.append_assoc, List.cons_append, readMembers_key separator blank,
        readString_append isKey, foldMembers, List.foldlM_cons, Option.bind_eq_bind]
      cases spelled key with
      | none => rfl
      | some name =>
        simp only [Option.map_some, Option.bind_some, read]
        cases step state name t with
        | none => rfl
        | some state => exact go state

/-- Each member takes a character, at least. -/
theorem length_le_of_members {isFirst : Bool} {ms : Members} {cs : List Char}
    (h : Written (.members isFirst ms) cs) : ms.length ≤ cs.length := by
  induction ms generalizing isFirst cs with
  | nil => exact Nat.zero_le _
  | cons m ms ih =>
    cases h with
    | member _ _ _ _ _ _ later =>
      have := ih later
      simp only [List.length_append, List.length_cons]
      omega

/-- An object is read member by member. -/
theorem reads_object {member : σ → String → List Char → Reading σ}
    {step : σ → String → Tree → Option σ} (reads : ReadsMember member step) (state : σ) :
    ReadsMembers (readObject member state) (foldMembers step state) := by
  intro ms cs written rest
  refine readMembers_written reads written ?_ state rest
  have := length_le_of_members written
  rw [List.length_append]
  omega

/-- A value that is an array or an object is read by the reader for the one or for the other. -/
theorem reads_compound {array object : List Char → Reading α} {elements : List Tree → Option α}
    {members : Members → Option α} (readsArray : ReadsElements array elements)
    (readsObject : ReadsMembers object members) :
    Reads (readCompound array object) (compoundOf elements members) := by
  intro t sp cs rest blank written ends
  rw [readCompound, written.skipSpace_eq blank]
  cases t with
  | array ts =>
    cases written with
    | array inside => exact readsArray inside rest
  | object ms =>
    cases written with
    | object inside => exact readsObject inside rest
  | _ =>
    obtain ⟨c, more, rfl, begins⟩ := written.begins
    have bracket : c ≠ '[' := by
      rintro rfl
      obtain ⟨_, h⟩ := begins.array
      cases h
    have brace : c ≠ '{' := by
      rintro rfl
      obtain ⟨_, h⟩ := begins.object
      cases h
    simp [bracket, brace, mismatch_toOption, compoundOf]

/-! ## Members -/

/-- After a key, a colon is read, and the value for what it means. -/
theorem readField_written {read : List Char → Reading α} {meaning : Tree → Option α}
    (reads : Reads read meaning) {t : Tree} {before after cs rest : List Char}
    (blankBefore : Blank before) (blankAfter : Blank after) (value : Written (.value t) cs)
    (ends : EndsNumber rest) :
    (readField read (before ++ ':' :: (after ++ (cs ++ rest)))).toOption =
      (meaning t).map (·, rest) := by
  rw [readField, readColon_append blankBefore]
  exact reads blankAfter value ends

/-- The value of a member that must not have come before. -/
def once (meaning : Tree → Option α) (seen : Option α) (t : Tree) : Option (Option α) :=
  match seen with
  | some _ => none
  | none => (meaning t).map some

/-- A field that may occur once is read once and refused the second time. -/
theorem readOnce_written {read : List Char → Reading α} {meaning : Tree → Option α}
    (reads : Reads read meaning) (seen : Option α) (f : Option α → σ) {t : Tree}
    {before after cs rest : List Char} (blankBefore : Blank before) (blankAfter : Blank after)
    (value : Written (.value t) cs) (ends : EndsNumber rest) :
    ((readOnce read seen (before ++ ':' :: (after ++ (cs ++ rest)))).map
        fun (a, rest) => (f a, rest)).toOption =
      ((once meaning seen t).map f).map (·, rest) := by
  cases seen with
  | some _ => rfl
  | none =>
    simp only [readOnce, toOption_map, readField_written reads blankBefore blankAfter value ends,
      once, Option.map_map]
    rfl

/-- The value of an unknown member may be anything. -/
theorem skipField_written (state : σ) {t : Tree} {before after cs rest : List Char}
    (blankBefore : Blank before) (blankAfter : Blank after) (value : Written (.value t) cs)
    (ends : EndsNumber rest) :
    (skipField state (before ++ ':' :: (after ++ (cs ++ rest)))).toOption = some (state, rest) := by
  have skipped := skipValue_written settled_formOnly blankAfter value ends
  have passes : t.passes formOnly 0 = true := value.passes_formOnly 0
  rw [passes, if_pos rfl] at skipped
  rw [skipField, readColon_append blankBefore]
  simp only [toOption_bind, toOption_ok, Option.bind_some, skipped]

end EngineBridge.Config
