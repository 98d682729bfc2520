import EngineBridge.Config.Reader
import EngineBridge.Proofs.Config.Lexical

/-!
# Configurations are read back as they were written

Every reader for a part of a configuration takes the written form of that part off the front
of the input (`ReadsBack`).  Objects are built member by member (`Builds`), each member on top
of what the members before it have left, so that the readers of library sources, of open
options and of configurations are one theorem about objects with three tables of members.
-/

set_option autoImplicit false

namespace EngineBridge

open Json

namespace Config

variable {α σ : Type}

/-- A reader takes a form off the front of any input that does not go on with it, and gives
the value that the form stands for. -/
def ReadsBack (read : List Char → Reading α) (form : List Char) (a : α) : Prop :=
  ∀ rest, EndsNumber rest → read (form ++ rest) = .ok (a, rest)

/-! ## Values -/

/-- A text is read back. -/
theorem readsBack_text (s : String) : ReadsBack readText (writeString s) s := by
  intro rest _
  have hform : writeString s ++ rest = '"' :: (s.toList.flatMap writeChar ++ '"' :: rest) := by
    simp [writeString]
  rw [readText, hform, skipSpace_cons rfl]
  exact readString_written s rest

/-- An integer in the range that is asked for is read back, if a word holds it. -/
theorem readsBack_integer {low high n : Int} (hlow : low ≤ n) (hhigh : n ≤ high)
    (hmin : -(twoTo 63 : Int) ≤ low) (hmax : high ≤ maxWord) :
    ReadsBack (readInteger low high) (writeInt n) n := by
  intro rest hrest
  obtain ⟨c, cs, hform, hbegins, hread⟩ :=
    readNumber_written (Int.le_trans hmin hlow) (Int.le_trans hhigh hmax) hrest
  rw [readInteger, hform, List.cons_append, skipSpace_cons (isSpace_of_beginsNumber hbegins)]
  simp only [hbegins, if_true, hread, hlow, hhigh, and_self]

/-- Something optional that is not there is read back. -/
theorem readsBack_none (read : List Char → Reading α) :
    ReadsBack (readOptional read) writeNull none :=
  fun _ _ => rfl

/-- A value is read back where it might have been absent, if its form does not begin as the
null literal does. -/
theorem readsBack_some {read : List Char → Reading α} {c : Char} {form : List Char} {a : α}
    (hspace : isSpace c = false) (hn : c ≠ 'n') (h : ReadsBack read (c :: form) a) :
    ReadsBack (readOptional read) (c :: form) (some a) := by
  intro rest hrest
  have hread := h rest hrest
  rw [List.cons_append] at hread ⊢
  rw [readOptional, skipSpace_cons hspace]
  split
  · next heq => exact absurd (List.cons.inj heq).1 hn
  · rw [hread]
    rfl

/-- Flags are read back. -/
theorem readsBack_flags (flags : OpenFlags) :
    ReadsBack readFlags (writeInt flags.bits.toInt) flags := by
  intro rest hrest
  have hread : ReadsBack (readInteger (-2147483648) 2147483647) (writeInt flags.bits.toInt) _ :=
    readsBack_integer flags.bits.minValue_le_toInt flags.bits.toInt_le (by decide) (by decide)
  rw [readFlags, hread rest hrest]
  simp [Except.map]

/-- A timeout is read back. -/
theorem readsBack_timeout (ms : UInt32) : ReadsBack readTimeout (writeInt ms.toNat) ms := by
  intro rest hrest
  have hlt : ms.toNat < 4294967296 := ms.toNat_lt
  have hread : ReadsBack (readInteger 0 4294967295) (writeInt ms.toNat) ms.toNat :=
    readsBack_integer (by omega) (by omega) (by decide) (by decide)
  rw [readTimeout, hread rest hrest]
  simp [Except.map]

/-- The name of a file system is read back, or that there is none. -/
theorem readsBack_vfs (vfs : Option String) :
    ReadsBack (readOptional readText) ((vfs.map writeString).getD writeNull) vfs := by
  cases vfs with
  | none => exact readsBack_none readText
  | some name => exact readsBack_some rfl (by decide) (readsBack_text name)

/-- A timeout is read back, or that there is none. -/
theorem readsBack_busyTimeout (timeout : Option UInt32) :
    ReadsBack (readOptional readTimeout)
      ((timeout.map fun ms => writeInt ms.toNat).getD writeNull) timeout := by
  cases timeout with
  | none => exact readsBack_none readTimeout
  | some ms =>
    have hrange : ms.toNat < 4294967296 := ms.toNat_lt
    have hempty : EndsNumber [] := by
      rintro c ⟨⟩
    obtain ⟨c, cs, hform, hbegins, -⟩ :=
      readNumber_written (n := ms.toNat) (by omega) (by simp only [maxWord]; omega) hempty
    have hread := readsBack_timeout ms
    show ReadsBack _ (writeInt ms.toNat) _
    rw [hform] at hread ⊢
    have hn : c ≠ 'n' := by
      rintro rfl
      cases hbegins
    exact readsBack_some (isSpace_of_beginsNumber hbegins) hn hread

/-! ## Objects -/

/-- The value of a member is read back after its colon. -/
theorem readsBack_field {read : List Char → Reading α} {form : List Char} {a : α}
    (h : ReadsBack read form a) : ReadsBack (readField read) (':' :: form) a :=
  fun rest hrest => h rest hrest

/-- The value of a member that has not come before is read back. -/
theorem readsBack_once {read : List Char → Reading α} {form : List Char} {a : α}
    (h : ReadsBack read form a) : ReadsBack (readOnce read none) (':' :: form) (some a) := by
  intro rest hrest
  rw [readOnce, readsBack_field h rest hrest]
  rfl

/-- What is read back is read back, whatever is made of it. -/
theorem ReadsBack.map {β : Type} {read : List Char → Reading α} {form : List Char} {a : α}
    (h : ReadsBack read form a) (f : α → β) :
    ReadsBack (fun cs => (read cs).map fun (a, rest) => (f a, rest)) form (f a) := by
  intro rest hrest
  simp only [h rest hrest]
  rfl

/-- Readers that do the same read back the same. -/
theorem ReadsBack.congr {read other : List Char → Reading α} {form : List Char} {a : α}
    (h : ReadsBack read form a) (heq : ∀ cs, other cs = read cs) : ReadsBack other form a :=
  fun rest hrest => (heq (form ++ rest)).trans (h rest hrest)

/-- Members, written in this order, turn what was read before them into what has been read
after them. -/
inductive Builds (member : σ → String → List Char → Reading σ) :
    σ → List (String × List Char) → σ → Prop
  | done (state : σ) : Builds member state [] state
  | next {state between final : σ} {name : String} {form : List Char}
      {members : List (String × List Char)}
      (first : ReadsBack (member state name) (':' :: form) between)
      (rest : Builds member between members final) :
      Builds member state ((name, form) :: members) final

/-- The written forms of members after the first one, each with its comma. -/
def laterMembers (members : List (String × List Char)) : List Char :=
  members.flatMap fun m => ',' :: writeMember m.1 m.2

/-- An object is written as its first member and then the others. -/
theorem writeObject_cons (name : String) (form : List Char)
    (members : List (String × List Char)) :
    writeObject (writeMember name form :: members.map fun m => writeMember m.1 m.2) =
      '{' :: (writeMember name form ++ laterMembers members ++ ['}']) := by
  have hjoin : ∀ form : List Char,
      [','].intercalate (form :: members.map fun m => writeMember m.1 m.2) =
        form ++ laterMembers members := by
    induction members with
    | nil => simp [laterMembers]
    | cons second members ih =>
      intro form
      rw [List.map_cons, List.intercalate_cons_cons, ih]
      simp [laterMembers]
  rw [writeObject, hjoin]
  rfl

/-- A member is read as the first one of an object, and reading goes on after it. -/
theorem readMembers_member {member : σ → String → List Char → Reading σ} {state between : σ}
    {name : String} {form rest : List Char} (limit : Nat)
    (h : ReadsBack (member state name) (':' :: form) between) (hrest : EndsNumber rest) :
    readMembers member (limit + 1) true state (writeMember name form ++ rest) =
      readMembers member limit false between rest ∧
    readMembers member (limit + 1) false state (',' :: (writeMember name form ++ rest)) =
      readMembers member limit false between rest := by
  have hform : writeMember name form ++ rest =
      '"' :: (name.toList.flatMap writeChar ++ '"' :: (':' :: form ++ rest)) := by
    simp [writeMember, writeString]
  have hread := h rest hrest
  constructor
  · rw [hform, readMembers, skipSpace_cons rfl]
    simp only [if_true, readString_written, hread]
  · rw [hform, readMembers, skipSpace_cons rfl]
    simp only [Bool.false_eq_true, if_false, skipSpace_cons (c := '"') rfl, readString_written,
      hread]

/-- A number ends before what follows a value in an object. -/
theorem endsNumber_laterMembers (members : List (String × List Char)) (rest : List Char) :
    EndsNumber (laterMembers members ++ '}' :: rest) := by
  have hends : ∀ (c : Char) (rest : List Char), c = ',' ∨ c = '}' → EndsNumber (c :: rest) := by
    rintro c rest h d ⟨⟩
    rcases h with rfl | rfl <;> decide
  cases members with
  | nil => exact hends _ _ (.inr rfl)
  | cons second members => exact hends _ _ (.inl rfl)

/-- Members after the first one are read up to the end of the object. -/
theorem readMembers_later {member : σ → String → List Char → Reading σ} {state final : σ}
    {members : List (String × List Char)} (h : Builds member state members final) {limit : Nat}
    (hlimit : members.length < limit) (rest : List Char) :
    readMembers member limit false state (laterMembers members ++ '}' :: rest) =
      .ok (final, rest) := by
  induction h generalizing limit with
  | done state =>
    obtain ⟨limit, rfl⟩ := Nat.exists_eq_add_one_of_ne_zero (Nat.ne_of_gt hlimit)
    rfl
  | @next state between final name form members first later ih =>
    obtain ⟨limit, rfl⟩ := Nat.exists_eq_add_one_of_ne_zero (Nat.ne_zero_of_lt hlimit)
    have hform : laterMembers ((name, form) :: members) ++ '}' :: rest =
        ',' :: (writeMember name form ++ (laterMembers members ++ '}' :: rest)) := by
      simp [laterMembers]
    rw [hform, (readMembers_member limit first (endsNumber_laterMembers members rest)).2]
    exact ih (Nat.lt_of_succ_lt_succ hlimit)

/-- No more members are written than characters. -/
theorem length_le_laterMembers (members : List (String × List Char)) :
    members.length ≤ (laterMembers members).length := by
  induction members with
  | nil => exact Nat.le_refl 0
  | cons first members ih =>
    rw [laterMembers, List.flatMap_cons, List.length_append, List.length_cons, Nat.add_comm]
    exact Nat.add_le_add (Nat.succ_pos _) ih

/-- An object is read back from the forms of its members. -/
theorem readsBack_object {array object : List Char → Reading α}
    {member : σ → String → List Char → Reading σ} {state final : σ} {a : α}
    {name : String} {form : List Char} {members : List (String × List Char)}
    (h : Builds member state ((name, form) :: members) final)
    (hobject : ∀ cs rest, readObject member state cs = .ok (final, rest) →
      object cs = .ok (a, rest)) :
    ReadsBack (readCompound array object)
      (writeObject (writeMember name form :: members.map fun m => writeMember m.1 m.2)) a := by
  intro rest _
  have hform : writeObject (writeMember name form :: members.map fun m => writeMember m.1 m.2) ++
      rest = '{' :: (writeMember name form ++ (laterMembers members ++ '}' :: rest)) := by
    rw [writeObject_cons]
    simp
  rw [hform, readCompound, skipSpace_cons rfl]
  refine hobject _ rest ?_
  cases h with
  | @next _ between _ name form _ hfirst hlater =>
    have hlimit : members.length <
        (writeMember name form ++ (laterMembers members ++ '}' :: rest)).length := by
      have := length_le_laterMembers members
      simp only [List.length_append, List.length_cons]
      omega
    rw [readObject, (readMembers_member _ hfirst (endsNumber_laterMembers members rest)).1]
    exact readMembers_later hlater hlimit rest

/-! ## Configurations -/

/-- The name of a kind of library sources. -/
def Kind.name : Kind → String
  | .bundled => "bundled"
  | .system => "system"
  | .path => "path"

/-- A kind is read back. -/
theorem readsBack_kind (kind : Kind) : ReadsBack readKind (writeString kind.name) kind := by
  intro rest hrest
  rw [readKind, readsBack_text kind.name rest hrest]
  cases kind <;> rfl

/-- The kind is the first member of a library source. -/
theorem readsBack_kindMember (kind : Kind) :
    ReadsBack (sourceMember {} "kind") (':' :: writeString kind.name) { kind := some kind } :=
  ((readsBack_once (readsBack_kind kind)).map fun kind => ({ kind } : SourceParts)).congr
    fun _ => if_pos rfl

/-- The path is the second member of a library source. -/
theorem readsBack_pathMember (kind : Kind) (path : String) :
    ReadsBack (sourceMember { kind := some kind } "path") (':' :: writeString path)
      { kind := some kind, paths := [some path] } := by
  have hcontent : ReadsBack readContent (writeString path) (some path) := by
    intro rest _
    have hform : writeString path ++ rest =
        '"' :: (path.toList.flatMap writeChar ++ '"' :: rest) := by
      simp [writeString]
    rw [readContent, hform, skipSpace_cons rfl]
    simp only [readString_written]
    rfl
  refine ((readsBack_field hcontent).map fun content =>
    ({ kind := some kind, paths := [content] } : SourceParts)).congr fun cs => ?_
  show (if "path" = "kind" then _ else _) = _
  rw [if_neg (by decide)]
  rfl

/-- A library source is read back. -/
theorem readsBack_source (source : LibrarySource) :
    ReadsBack readSource source.write source := by
  have hplain : ∀ (kind : Kind) (source : LibrarySource), sourceOf kind [] = .ok source →
      ReadsBack readSource (writeObject [writeMember "kind" (writeString kind.name)]) source := by
    intro kind source hsource
    have hbuilds : Builds sourceMember {} [("kind", writeString kind.name)]
        { kind := some kind } := .next (readsBack_kindMember kind) (.done _)
    refine readsBack_object hbuilds ?_
    intro cs rest hread
    simp only [sourceObject, hread, bind, Except.bind, hsource]
  cases source with
  | bundled => exact hplain .bundled .bundled rfl
  | system => exact hplain .system .system rfl
  | path path =>
    have hbuilds : Builds sourceMember {}
        [("kind", writeString Kind.path.name), ("path", writeString path)]
        { kind := some .path, paths := [some path] } :=
      .next (readsBack_kindMember .path) (.next (readsBack_pathMember .path path) (.done _))
    refine readsBack_object hbuilds ?_
    intro cs rest hread
    simp only [sourceObject, hread, bind, Except.bind, sourceOf]

/-- Open options are read back. -/
theorem readsBack_options (options : OpenOptions) :
    ReadsBack readOptions options.write options := by
  have hflags := (readsBack_once (readsBack_flags options.flags)).map
    fun flags => ({ flags } : OptionParts)
  have hvfs := (readsBack_once (readsBack_vfs options.vfs)).map
    fun vfs => ({ flags := some options.flags, vfs } : OptionParts)
  have htimeout := (readsBack_once (readsBack_busyTimeout options.busyTimeout)).map
    fun busyTimeout =>
      ({ flags := some options.flags, vfs := some options.vfs, busyTimeout } : OptionParts)
  have hbuilds : Builds optionMember {}
      [("flags", writeInt options.flags.bits.toInt),
       ("vfs", (options.vfs.map writeString).getD writeNull),
       ("busy_timeout_ms", (options.busyTimeout.map fun ms => writeInt ms.toNat).getD writeNull)]
      { flags := some options.flags, vfs := some options.vfs,
        busyTimeout := some options.busyTimeout } := by
    refine .next (hflags.congr fun _ => if_pos rfl) (.next (hvfs.congr fun _ => ?_)
      (.next (htimeout.congr fun _ => ?_) (.done _)))
    · exact (if_neg (by decide)).trans (if_pos rfl)
    · exact (if_neg (by decide)).trans ((if_neg (by decide)).trans (if_pos rfl))
  refine readsBack_object hbuilds ?_
  intro cs rest hread
  rw [optionsObject, hread]
  rfl

/-- A configuration is read back. -/
theorem readsBack_config (config : Config) :
    ReadsBack (readCompound configArray configObject) config.write config := by
  have hlibrary := (readsBack_once (readsBack_source config.library)).map
    fun library => ({ library } : Parts)
  have hoptions := (readsBack_once (readsBack_options config.openOptions)).map
    fun openOptions => ({ library := some config.library, openOptions } : Parts)
  have hbuilds : Builds configMember {}
      [("library", config.library.write), ("open", config.openOptions.write)]
      { library := some config.library, openOptions := some config.openOptions } := by
    refine .next (hlibrary.congr fun _ => if_pos rfl) (.next (hoptions.congr fun _ => ?_) (.done _))
    exact (if_neg (by decide)).trans (if_pos rfl)
  refine readsBack_object hbuilds ?_
  intro cs rest hread
  rw [configObject, hread]
  rfl

/-- A text that was written for a configuration stands for that configuration. -/
theorem ofJson_toJson (config : Config) : ofJson config.toJson = .ok config := by
  have hempty : EndsNumber [] := by
    rintro c ⟨⟩
  have hread := readsBack_config config [] hempty
  rw [List.append_nil] at hread
  rw [ofJson, readWhole, toJson, String.toList_ofList, hread]
  rfl

/-- Writing a configuration and reading it again gives the configuration that it was.  So what
a text that stands for a configuration is written as stands for the same configuration, and
two texts stand for the same one if they are written as the same text, and only then. -/
theorem roundtrip :
    (∀ config : Config, ofJson config.toJson = .ok config) ∧
    (∀ text config, ofJson text = .ok config → ofJson config.toJson = ofJson text) ∧
    (∀ text text' config config', ofJson text = .ok config → ofJson text' = .ok config' →
      (ofJson text = ofJson text' ↔ config.toJson = config'.toJson)) := by
  refine ⟨ofJson_toJson, ?_, ?_⟩
  · intro text config h
    rw [h, ofJson_toJson]
  · intro text text' config config' h h'
    rw [h, h']
    constructor
    · intro hsame
      exact congrArg toJson (Except.ok.inj hsame)
    · intro hform
      rw [← ofJson_toJson config, hform, ofJson_toJson]

/-- Two texts for one configuration, with its members in another order, as objects and as
arrays, and with other escapes. -/
theorem roundtrip_two_texts :
    ∃ (text text' : String) (config : Config), text ≠ text' ∧
      ofJson text = .ok config ∧ ofJson text' = .ok config ∧
      ofJson config.toJson = ofJson text ∧
      (ofJson text = ofJson text' ↔ config.toJson = config.toJson) := by
  let text := "\x7b\"open\":[-1,null,7],\"library\":[\"path\",\"\\u0000\\ud83d\\ude00\\/\"]\x7d"
  let text' :=
    "[\x7b\"path\":\"\\u0000\\ud83d\\ude00/\",\"kind\":\"path\"\x7d,[-1,null,7]]"
  let config : Config :=
    { library := .path "\x00😀/", openOptions := { flags := ⟨-1⟩, busyTimeout := some 7 } }
  have hread : ofJson text = .ok config := by decide +kernel
  have hread' : ofJson text' = .ok config := by decide +kernel
  exact ⟨text, text', config, by decide +kernel, hread, hread', roundtrip.2.1 text config hread,
    roundtrip.2.2 text text' config config hread hread'⟩

end Config

end EngineBridge
