import EngineBridge.Proofs.Json.Skipping

/-!
# What is read is JSON

Where a reader takes something off the front of the input, what it took is written by the
grammar: the other direction of what the readers make of written forms.
-/

set_option autoImplicit false

namespace EngineBridge.Json

/-- White space is passed over, and nothing else. -/
theorem exists_blank (cs : List Char) : ∃ sp, Blank sp ∧ cs = sp ++ skipSpace cs :=
  ⟨cs.takeWhile isSpace, List.all_eq_true.mp List.all_takeWhile,
    List.takeWhile_append_dropWhile.symm⟩

/-- White space ends before some character, or with the input. -/
theorem skipSpace_cons_of {cs more : List Char} {c : Char} (h : skipSpace cs = c :: more) :
    isSpace c = false := by
  induction cs with
  | nil => cases h
  | cons d cs ih =>
    rw [skipSpace, List.dropWhile_cons] at h
    split at h
    · exact ih h
    · next other =>
      obtain ⟨rfl, -⟩ := List.cons.inj h
      exact Bool.eq_false_iff.mpr other

/-- The characters that were expected are the beginning of the input. -/
theorem expect_ok {es cs rest : List Char} (h : expect es cs = .ok rest) : cs = es ++ rest := by
  induction es generalizing cs with
  | nil => exact (Except.ok.inj h)
  | cons e es ih =>
    cases cs with
    | nil => cases h
    | cons c cs =>
      rw [expect] at h
      split at h
      · next same => rw [same, ih h, List.cons_append]
      · cases h

/-! ## Strings -/

/-- A code unit is four hexadecimal digits. -/
theorem hexWord_ok {cs : List Char} {n : Nat} (h : hexWord cs = .ok n) :
    ∃ digits left, cs = digits ++ left ∧ digits.length = 4 ∧
      ∀ d ∈ digits, (Text.hexValue? d).isSome := by
  rw [hexWord] at h
  split at h
  · next x y z w values =>
    rcases cs with _ | ⟨a, _ | ⟨b, _ | ⟨c, _ | ⟨d, left⟩⟩⟩⟩
    case cons.cons.cons.cons =>
      refine ⟨[a, b, c, d], left, rfl, rfl, ?_⟩
      simp [Option.bind_eq_some_iff] at values
      simp [values]
    all_goals simp [Option.bind_eq_some_iff] at values
  · cases h

/-- The letters that make an escape are those of the grammar. -/
theorem mem_of_simpleEscape {c d : Char} (h : simpleEscape? c = some d) :
    c ∈ ['"', '\\', '/', 'b', 'f', 'n', 'r', 't'] := by
  unfold simpleEscape? at h
  simp only [List.mem_cons, List.not_mem_nil, or_false]
  split_ifs at h <;> simp_all

/-- A reader of escapes takes off what an escape takes in the grammar. -/
def Escapes (escape : EscapeReader) : Prop :=
  ∀ ⦃cs d used⦄, escape cs = .ok (d, used) → ∃ taken left, cs = taken ++ left ∧
    used = taken.length ∧ ∀ body, StringBody body → StringBody ('\\' :: (taken ++ body))

/-- An escape by a letter takes that letter. -/
theorem escapes_simple {c d : Char} {cs : List Char} (h : simpleEscape? c = some d) :
    ∃ taken left, c :: cs = taken ++ left ∧ 1 = taken.length ∧
      ∀ body, StringBody body → StringBody ('\\' :: (taken ++ body)) :=
  ⟨[c], cs, rfl, rfl, fun _ => .escape (mem_of_simpleEscape h)⟩

/-- Reading escapes for their form only takes what the grammar has for an escape. -/
theorem escapes_form : Escapes formEscape := by
  intro cs d used h
  cases cs with
  | nil => cases h
  | cons c cs =>
    rw [formEscape] at h
    split at h
    · next unit =>
      subst unit
      obtain ⟨_, word, same⟩ := map_eq_ok.mp h
      cases same
      obtain ⟨digits, left, rfl, four, hex⟩ := hexWord_ok word
      exact ⟨'u' :: digits, left, rfl, by simp [four], fun _ => .unit four hex⟩
    · split at h
      · next simple =>
        cases h
        exact escapes_simple simple
      · cases h

/-- A second half of a pair is an escape of its own. -/
theorem secondHalf_ok {cs : List Char} {low : Nat} (h : secondHalf cs = .ok low) :
    ∃ digits left, cs = '\\' :: 'u' :: (digits ++ left) ∧ digits.length = 4 ∧
      ∀ d ∈ digits, (Text.hexValue? d).isSome := by
  obtain ⟨left, start, h⟩ := bind_eq_ok.mp h
  obtain ⟨_, word, -⟩ := bind_eq_ok.mp h
  obtain ⟨digits, left, rfl, four, hex⟩ := hexWord_ok word
  exact ⟨digits, left, expect_ok start, four, hex⟩

/-- Reading escapes in full takes what the grammar has for an escape, or for two of them. -/
theorem escapes_full : Escapes fullEscape := by
  intro cs d used h
  cases cs with
  | nil => cases h
  | cons c cs =>
    rw [fullEscape] at h
    split at h
    · next unit =>
      subst unit
      cases word : hexWord cs with
      | error e => simp [unicodeEscape, word, bind, Except.bind, Except.map] at h
      | ok =>
        obtain ⟨digits, left, rfl, four, hex⟩ := hexWord_ok word
        obtain ⟨n, word⟩ := hexWord_append four hex
        rw [unicodeEscape_append four word] at h
        split at h
        · cases h
        split at h
        · obtain ⟨_, pair, same⟩ := map_eq_ok.mp h
          obtain ⟨_, half, rfl⟩ := map_eq_ok.mp pair
          obtain ⟨-, rfl⟩ := Prod.mk.inj same
          obtain ⟨digits', left, rfl, four', hex'⟩ := secondHalf_ok half
          refine ⟨'u' :: (digits ++ '\\' :: 'u' :: digits'), left, by simp, ?_,
            fun body isBody => ?_⟩
          · simp [four, four']
          · simpa using StringBody.unit four hex (.unit four' hex' isBody)
        · cases h
          exact ⟨'u' :: digits, left, rfl, by simp [four], fun _ => .unit four hex⟩
    · split at h
      · next simple =>
        cases h
        exact escapes_simple simple
      · cases h

/-- What is read up to a closing quote is the body of a string. -/
theorem readBody_ok {escape : EscapeReader} (escapes : Escapes escape) {done cs s rest : List Char}
    (h : readBody escape done 0 cs = .ok (s, rest)) :
    ∃ body, StringBody body ∧ cs = body ++ '"' :: rest := by
  induction len : cs.length using Nat.strongRecOn generalizing cs done with
  | ind n ih =>
    subst len
    cases cs with
    | nil => simp [readBody] at h
    | cons c cs =>
      rw [readBody] at h
      split at h
      · next quote =>
        cases h
        exact ⟨[], .nil, by rw [quote, List.nil_append]⟩
      · next quote =>
        split at h
        · next backslash =>
          subst backslash
          split at h
          · cases h
          · next d used escape =>
            obtain ⟨taken, left, rfl, rfl, goesOn⟩ := escapes escape
            rw [readBody_append] at h
            have shorter : left.length < ('\\' :: (taken ++ left)).length := by
              rw [List.length_cons, List.length_append]
              omega
            obtain ⟨body, isBody, rfl⟩ := ih left.length shorter h rfl
            exact ⟨'\\' :: (taken ++ body), goesOn body isBody, by simp⟩
        · next backslash =>
          split at h
          · cases h
          · next printable =>
            obtain ⟨body, isBody, rfl⟩ := ih cs.length (by simp) h rfl
            exact ⟨c :: body, .plain (by omega) quote backslash isBody, rfl⟩

/-- A string that was read is written by the grammar, up to its closing quote. -/
theorem readString_ok {cs rest : List Char} {s : String} (h : readString cs = .ok (s, rest)) :
    ∃ body, StringBody body ∧ cs = body ++ '"' :: rest := by
  obtain ⟨⟨_, _⟩, read, same⟩ := map_eq_ok.mp h
  cases same
  exact readBody_ok escapes_full read

/-- A string that was skipped is written by the grammar, up to its closing quote. -/
theorem skipString_ok {cs rest : List Char} (h : skipString cs = .ok rest) :
    ∃ body, StringBody body ∧ cs = body ++ '"' :: rest := by
  obtain ⟨⟨_, _⟩, read, rfl⟩ := map_eq_ok.mp h
  exact readBody_ok escapes_form read

/-! ## Numbers -/

/-- The digits that were taken are digits, and the beginning of the input. -/
theorem takeDigits_eq {cs ds rest : List Char} (h : takeDigits cs = (ds, rest)) :
    (∀ d ∈ ds, d.isDigit = true) ∧ cs = ds ++ rest := by
  obtain ⟨rfl, rfl⟩ := Prod.mk.inj h
  exact ⟨List.all_eq_true.mp List.all_takeWhile, List.takeWhile_append_dropWhile.symm⟩

/-- The digits before a point are written without a leading zero. -/
theorem readIntegerDigits_ok {cs ds rest : List Char}
    (h : readIntegerDigits cs = .ok (ds, rest)) : Whole ds ∧ cs = ds ++ rest := by
  cases cs with
  | nil => cases h
  | cons c cs =>
    rw [readIntegerDigits.eq_def] at h
    dsimp only at h
    split at h
    · next zero =>
      subst zero
      split at h
      · split at h
        · cases h
        · cases h
          exact ⟨.zero, rfl⟩
      · cases h
        exact ⟨.zero, rfl⟩
    · next nonzero =>
      split at h
      · next digit =>
        obtain ⟨digits, parts⟩ := takeDigits_eq (Except.ok.inj h)
        cases ds with
        | nil => simp [takeDigits, digit] at h
        | cons d ds =>
          obtain ⟨rfl, -⟩ := List.cons.inj parts
          exact ⟨.digits nonzero ⟨List.cons_ne_nil _ _, digits⟩, parts⟩
      · cases h

/-- Digits that were read are at least one. -/
theorem readDigits_ok {cs ds rest : List Char} (h : readDigits cs = .ok (ds, rest)) :
    Digits ds ∧ cs = ds ++ rest := by
  rw [readDigits] at h
  cases taken : takeDigits cs with
  | mk ds' rest' =>
    obtain ⟨digits, parts⟩ := takeDigits_eq taken
    rw [taken] at h
    cases ds' with
    | nil => cases rest' <;> cases h
    | cons d ds' =>
      cases h
      exact ⟨⟨List.cons_ne_nil _ _, digits⟩, parts⟩

/-- A fraction is there with its point and digits, or not at all. -/
theorem readFraction_ok {cs rest : List Char} {f : Option (List Char)}
    (h : readFraction cs = .ok (f, rest)) :
    ∃ fraction, Fraction fraction ∧ cs = fraction ++ rest := by
  rw [readFraction.eq_def] at h
  split at h
  · obtain ⟨⟨ds, rest'⟩, read, same⟩ := map_eq_ok.mp h
    obtain ⟨digits, rfl⟩ := readDigits_ok read
    cases same
    exact ⟨'.' :: ds, .digits digits, rfl⟩
  · cases h
    exact ⟨[], .none, rfl⟩

/-- After its letter an exponent may have a sign. -/
theorem readExponent_letter {e : Char} (letter : e = 'e' ∨ e = 'E') (cs : List Char) :
    ∃ sign negative left, sign ∈ [[], ['+'], ['-']] ∧ cs = sign ++ left ∧
      readExponent (e :: cs) =
        (readDigits left).map fun (ds, rest) => (some (negative, ds), rest) := by
  rcases cs with _ | ⟨c, cs⟩
  · refine ⟨[], false, [], by decide, rfl, ?_⟩
    simp only [readExponent, if_pos letter]
    rfl
  by_cases minus : c = '-'
  · subst minus
    refine ⟨['-'], true, cs, by decide, rfl, ?_⟩
    simp only [readExponent, if_pos letter]
    cases readDigits cs <;> rfl
  by_cases plus : c = '+'
  · subst plus
    refine ⟨['+'], false, cs, by decide, rfl, ?_⟩
    simp only [readExponent, if_pos letter]
    cases readDigits cs <;> rfl
  · refine ⟨[], false, c :: cs, by decide, rfl, ?_⟩
    cases read : readDigits (c :: cs) <;> simp [readExponent, letter, minus, plus, read, Except.map]

/-- An exponent is there with its letter, sign and digits, or not at all. -/
theorem readExponent_ok {cs rest : List Char} {e : Option (Bool × List Char)}
    (h : readExponent cs = .ok (e, rest)) :
    ∃ exponent, Exponent exponent ∧ cs = exponent ++ rest := by
  cases cs with
  | nil =>
    cases h
    exact ⟨[], .none, rfl⟩
  | cons c cs =>
    by_cases letter : c = 'e' ∨ c = 'E'
    · obtain ⟨sign, negative, left, signed, rfl, start⟩ := readExponent_letter letter cs
      rw [start] at h
      obtain ⟨⟨ds, rest'⟩, read, same⟩ := map_eq_ok.mp h
      obtain ⟨digits, rfl⟩ := readDigits_ok read
      cases same
      exact ⟨c :: (sign ++ ds), .digits letter signed digits, by simp⟩
    · simp only [readExponent, if_neg letter] at h
      cases h
      exact ⟨[], .none, rfl⟩

/-- A number without its sign is made of the three parts that the grammar has. -/
theorem readUnsigned_ok {negative : Bool} {cs rest : List Char} {n : Number}
    (h : readUnsigned negative cs = .ok (n, rest)) :
    ∃ whole fraction exponent, Whole whole ∧ Fraction fraction ∧ Exponent exponent ∧
      cs = whole ++ (fraction ++ (exponent ++ rest)) := by
  rw [readUnsigned_eq] at h
  obtain ⟨⟨whole, _⟩, hwhole, h⟩ := bind_eq_ok.mp h
  obtain ⟨⟨_, _⟩, hfraction, h⟩ := bind_eq_ok.mp h
  obtain ⟨⟨_, _⟩, hexponent, h⟩ := bind_eq_ok.mp h
  obtain ⟨_, -, same⟩ := map_eq_ok.mp h
  cases same
  obtain ⟨isWhole, rfl⟩ := readIntegerDigits_ok hwhole
  obtain ⟨fraction, isFraction, rfl⟩ := readFraction_ok hfraction
  obtain ⟨exponent, isExponent, rfl⟩ := readExponent_ok hexponent
  exact ⟨whole, fraction, exponent, isWhole, isFraction, isExponent, rfl⟩

/-- A number that was read is a literal of the grammar. -/
theorem readNumber_ok {cs rest : List Char} {n : Number} (h : readNumber cs = .ok (n, rest)) :
    ∃ literal, NumberLiteral literal ∧ cs = literal ++ rest := by
  have unsigned : ∀ sign negative left, IsSign sign → cs = sign ++ left →
      readUnsigned negative left = .ok (n, rest) →
      ∃ literal, NumberLiteral literal ∧ cs = literal ++ rest := by
    rintro sign negative left isSign rfl read
    obtain ⟨whole, fraction, exponent, isWhole, isFraction, isExponent, rfl⟩ := readUnsigned_ok read
    exact ⟨_, .of isSign isWhole isFraction isExponent, by simp⟩
  rw [readNumber.eq_def] at h
  split at h
  · exact unsigned ['-'] true _ (.inr rfl) rfl h
  · exact unsigned [] false _ (.inl rfl) rfl h

/-- Calling a failure another name does not change the successes. -/
theorem asMalformed_eq_ok {α : Type} {x : Except Failure α} {a : α} :
    asMalformed x = .ok a ↔ x = .ok a := by
  cases x <;> simp [asMalformed]

/-- A number that was skipped is a literal of the grammar. -/
theorem skipNumber_ok {cs rest : List Char} (h : skipNumber cs = .ok rest) :
    ∃ literal, NumberLiteral literal ∧ cs = literal ++ rest := by
  obtain ⟨sign, left, isSign, rfl, start⟩ : ∃ sign left, IsSign sign ∧ cs = sign ++ left ∧
      (if cs.head? = some '-' then cs.drop 1 else cs) = left := by
    split
    · next minus =>
      obtain ⟨cs, rfl⟩ := List.head?_eq_some_iff.mp minus
      exact ⟨['-'], _, .inr rfl, rfl, rfl⟩
    · exact ⟨[], _, .inl rfl, rfl, rfl⟩
  rw [skipNumber_eq, asMalformed_eq_ok, start] at h
  obtain ⟨⟨whole, _⟩, hwhole, h⟩ := bind_eq_ok.mp h
  obtain ⟨⟨_, _⟩, hfraction, h⟩ := bind_eq_ok.mp h
  obtain ⟨⟨_, _⟩, hexponent, same⟩ := map_eq_ok.mp h
  cases same
  obtain ⟨isWhole, rfl⟩ := readIntegerDigits_ok hwhole
  obtain ⟨fraction, isFraction, rfl⟩ := readFraction_ok hfraction
  obtain ⟨exponent, isExponent, rfl⟩ := readExponent_ok hexponent
  exact ⟨_, .of isSign isWhole isFraction isExponent, by simp⟩

/-! ## Values that are passed over -/

/-- The literals that pass are written by the grammar. -/
structure Strictness.Sound (strictness : Strictness) : Prop where
  string {cs rest : List Char} (h : strictness.string cs = .ok rest) :
    ∃ body, StringBody body ∧ cs = body ++ '"' :: rest
  number {cs rest : List Char} (h : strictness.number cs = .ok rest) :
    ∃ literal, NumberLiteral literal ∧ cs = literal ++ rest

/-- What passes for its form is written by the grammar. -/
theorem sound_formOnly : formOnly.Sound where
  string := skipString_ok
  number := skipNumber_ok

/-- What passes in full is written by the grammar. -/
theorem sound_inFull (maxDepth : Nat) : (inFull maxDepth).Sound where
  string h := by
    obtain ⟨a, read, rfl⟩ := map_eq_ok.mp h
    exact readString_ok read
  number h := by
    obtain ⟨a, read, rfl⟩ := map_eq_ok.mp h
    exact readNumber_ok read

/-- A colon comes after white space only. -/
theorem readColon_ok {cs rest : List Char} (h : readColon cs = .ok rest) :
    ∃ sp, Blank sp ∧ cs = sp ++ ':' :: rest := by
  obtain ⟨sp, blank, split⟩ := exists_blank cs
  exact ⟨sp, blank, split.trans (by rw [expect_ok h]; rfl)⟩

section

variable {strictness : Strictness} {steps : Nat}

/-- From before a value the machine gets to the end of it. -/
def EndsValue (strictness : Strictness) (steps : Nat) : Prop :=
  ∀ ⦃frames cs rest⦄, skipFrom strictness steps .value frames cs = .ok rest →
    ∃ t sp v mid, ∃ m < steps, Blank sp ∧ Written (.value t) v ∧ cs = sp ++ (v ++ mid) ∧
      skipFrom strictness m .separator frames mid = .ok rest

/-- From inside an array the machine gets to the end of it. -/
def EndsElements (strictness : Strictness) (steps : Nat) : Prop :=
  ∀ (isFirst : Bool) ⦃frames cs rest⦄,
    skipFrom strictness steps (if isFirst then .first else .separator) (.array :: frames) cs =
      .ok rest →
    ∃ ts v mid, ∃ m < steps, Written (.elements isFirst ts) v ∧ cs = v ++ mid ∧
      skipFrom strictness m .separator frames mid = .ok rest

/-- From inside an object the machine gets to the end of it. -/
def EndsMembers (strictness : Strictness) (steps : Nat) : Prop :=
  ∀ (isFirst : Bool) ⦃frames cs rest⦄,
    skipFrom strictness steps (if isFirst then .first else .separator) (.object :: frames) cs =
      .ok rest →
    ∃ ms v mid, ∃ m < steps, Written (.members isFirst ms) v ∧ cs = v ++ mid ∧
      skipFrom strictness m .separator frames mid = .ok rest

/-- A machine that is not done yet and gets to an end takes a step first. -/
theorem skipFrom_ok {expected : Expected} {frames : List Frame} {cs rest : List Char}
    (undone : expected ≠ .separator ∨ frames ≠ [])
    (h : skipFrom strictness steps expected frames cs = .ok rest) :
    ∃ n next frames' mid, steps = n + 1 ∧
      skipStep strictness expected frames cs = .ok (next, frames', mid) ∧
      skipFrom strictness n next frames' mid = .ok rest := by
  cases steps with
  | zero => cases h
  | succ n =>
    rw [skipFrom, if_neg (by tauto)] at h
    cases step : skipStep strictness expected frames cs with
    | error e => simp [step] at h
    | ok a =>
      rw [step] at h
      exact ⟨n, a.1, a.2.1, a.2.2, rfl, rfl, h⟩

/-- A step that succeeds finds a character after white space. -/
theorem skipStep_ok {expected : Expected} {frames : List Frame} {cs : List Char}
    {a : Expected × List Frame × List Char}
    (h : skipStep strictness expected frames cs = .ok a) :
    ∃ sp c more, Blank sp ∧ isSpace c = false ∧ cs = sp ++ c :: more ∧
      skipStep strictness expected frames (c :: more) = .ok a := by
  obtain ⟨sp, blank, split⟩ := exists_blank cs
  cases start : skipSpace cs with
  | nil => simp [skipStep, start] at h
  | cons c more =>
    have space := skipSpace_cons_of start
    rw [start] at split
    rw [split, skipStep_blank blank] at h
    exact ⟨sp, c, more, blank, space, split, h⟩

/-- A literal word is a value. -/
theorem literal_ok {c : Char} {cs rest : List Char} {r : Except Failure (List Char)}
    (literal : literal? c cs = some r) (h : r = .ok rest) :
    ∃ t v, Written (.value t) v ∧ c :: cs = v ++ rest := by
  subst h
  unfold literal? at literal
  split at literal
  · next first =>
    exact ⟨.null, _, .null, by rw [first, expect_ok (Option.some.inj literal)]; rfl⟩
  split at literal
  · next first =>
    exact ⟨.bool true, _, .trueLiteral, by rw [first, expect_ok (Option.some.inj literal)]; rfl⟩
  split at literal
  · next first =>
    exact ⟨.bool false, _, .falseLiteral, by rw [first, expect_ok (Option.some.inj literal)]; rfl⟩
  · cases literal

/-- The end of a value is reached if the ends of shorter arrays and objects are. -/
theorem endsValue_of_lt (sound : strictness.Sound)
    (elements : ∀ n < steps, EndsElements strictness n)
    (members : ∀ n < steps, EndsMembers strictness n) : EndsValue strictness steps := by
  intro frames cs rest h
  obtain ⟨n, next, frames', mid, rfl, step, later⟩ := skipFrom_ok (.inl (by decide)) h
  obtain ⟨sp, c, more, blank, space, rfl, here⟩ := skipStep_ok step
  rw [skipStep_value space] at here
  split at here
  · next bracket =>
    split at here
    · cases here
      rcases bracket with rfl | rfl
      · obtain ⟨ts, v, mid, m, lt, written, rfl, closed⟩ := elements n (by omega) true later
        exact ⟨.array ts, sp, '[' :: v, mid, m, by omega, blank, .array written, rfl, closed⟩
      · obtain ⟨ms, v, mid, m, lt, written, rfl, closed⟩ := members n (by omega) true later
        exact ⟨.object ms, sp, '{' :: v, mid, m, by omega, blank, .object written, rfl, closed⟩
    · cases here
  split at here
  · next quote =>
    obtain ⟨left, string, same⟩ := map_eq_ok.mp here
    cases same
    obtain ⟨body, isBody, rfl⟩ := sound.string string
    exact ⟨.string body, sp, _, mid, n, by omega, blank, .string isBody, by simp [quote], later⟩
  split at here
  · obtain ⟨left, number, same⟩ := map_eq_ok.mp here
    cases same
    obtain ⟨literal, isNumber, split⟩ := sound.number number
    exact ⟨.number literal, sp, _, mid, n, by omega, blank, .number isNumber, by rw [split], later⟩
  split at here
  · next r literal =>
    obtain ⟨left, read, same⟩ := map_eq_ok.mp here
    cases same
    obtain ⟨t, v, written, split⟩ := literal_ok literal read
    exact ⟨t, sp, v, mid, n, by omega, blank, written, by rw [split], later⟩
  · cases here

/-- Inside an array or an object the machine finds its end, or else its next element or key. -/
theorem skipStep_inside {isFirst : Bool} {frame : Frame} {frames frames' : List Frame}
    {next : Expected} {cs mid : List Char}
    (h : skipStep strictness (if isFirst then .first else .separator) (frame :: frames) cs =
      .ok (next, frames', mid)) :
    (∃ sp, Blank sp ∧ cs = sp ++ frame.closer :: mid ∧ next = .separator ∧ frames' = frames) ∨
    ∃ sep sp, Separator isFirst sep ∧ Blank sp ∧ cs = sep ++ (sp ++ mid) ∧
      next = (if frame = .array then .value else .key) ∧ frames' = frame :: frames := by
  obtain ⟨sp, c, more, blank, space, rfl, here⟩ := skipStep_ok h
  rw [skipStep, skipSpace_cons space] at here
  cases isFirst with
  | true =>
    simp only [if_true] at here
    split at here
    · next closer =>
      cases here
      exact .inl ⟨sp, blank, by rw [closer], rfl, rfl⟩
    · cases here
      exact .inr ⟨[], sp, .first, blank, rfl, rfl, rfl⟩
  | false =>
    simp only [Bool.false_eq_true, if_false] at here
    split at here
    · next closer =>
      cases here
      exact .inl ⟨sp, blank, by rw [closer], rfl, rfl⟩
    split at here
    · next comma =>
      cases here
      exact .inr ⟨sp ++ [','], [], .comma blank, blank_nil, by simp [comma], rfl, rfl⟩
    · cases here

/-- What the machine takes for a key is a string, a colon and the white space around them. -/
theorem skipStep_key_ok (sound : strictness.Sound) {frames frames' : List Frame}
    {next : Expected} {cs mid : List Char}
    (h : skipStep strictness .key frames cs = .ok (next, frames', mid)) :
    ∃ sp key before, Blank sp ∧ StringBody key ∧ Blank before ∧
      cs = sp ++ '"' :: (key ++ '"' :: (before ++ ':' :: mid)) ∧ next = .value ∧
      frames' = frames := by
  obtain ⟨sp, c, more, blank, space, rfl, here⟩ := skipStep_ok h
  rw [skipStep, skipSpace_cons space] at here
  dsimp only at here
  split at here
  · next quote =>
    cases string : strictness.string more with
    | error e => simp [string] at here
    | ok left =>
      rw [string] at here
      obtain ⟨_, colon, same⟩ := map_eq_ok.mp here
      cases same
      obtain ⟨key, isKey, rfl⟩ := sound.string string
      obtain ⟨before, blankBefore, rfl⟩ := readColon_ok colon
      exact ⟨sp, key, before, blank, isKey, blankBefore, by rw [quote], rfl, rfl⟩
  · cases here

/-- The end of an array is reached by way of its first element. -/
theorem endsElements_of_lt (values : ∀ n < steps, EndsValue strictness n)
    (elements : ∀ n < steps, EndsElements strictness n) : EndsElements strictness steps := by
  intro isFirst frames cs rest h
  obtain ⟨n, next, frames', mid, rfl, step, later⟩ := skipFrom_ok (.inr (List.cons_ne_nil _ _)) h
  rcases skipStep_inside step with
    ⟨sp, blank, rfl, rfl, rfl⟩ | ⟨sep, sp, separator, blank, rfl, rfl, rfl⟩
  · exact ⟨[], sp ++ [']'], mid, n, by omega, .noElement blank, by simp [Frame.closer], later⟩
  · obtain ⟨t, sp', v, mid, m, lt, blank', value, rfl, passed⟩ := values n (by omega) later
    obtain ⟨ts, v', mid, m', lt', more, rfl, closed⟩ := elements m (by omega) false passed
    exact ⟨t :: ts, _, mid, m', by omega, .element separator (blank.append blank') value more,
      by simp, closed⟩

/-- The end of an object is reached by way of its first member. -/
theorem endsMembers_of_lt (sound : strictness.Sound)
    (values : ∀ n < steps, EndsValue strictness n)
    (members : ∀ n < steps, EndsMembers strictness n) : EndsMembers strictness steps := by
  intro isFirst frames cs rest h
  obtain ⟨n, next, frames', mid, rfl, step, later⟩ := skipFrom_ok (.inr (List.cons_ne_nil _ _)) h
  rcases skipStep_inside step with
    ⟨sp, blank, rfl, rfl, rfl⟩ | ⟨sep, sp, separator, blank, rfl, rfl, rfl⟩
  · exact ⟨[], sp ++ ['}'], mid, n, by omega, .noMember blank, by simp [Frame.closer], later⟩
  · obtain ⟨n, next, frames', mid, rfl, keyed, named⟩ := skipFrom_ok (.inl (by decide)) later
    obtain ⟨sp', key, before, blank', isKey, blankBefore, rfl, rfl, rfl⟩ :=
      skipStep_key_ok sound keyed
    obtain ⟨t, after, v, mid, m, lt, blankAfter, value, rfl, passed⟩ := values n (by omega) named
    obtain ⟨ms, v', mid, m', lt', more, rfl, closed⟩ := members m (by omega) false passed
    exact ⟨(key, t) :: ms, _, mid, m', by omega,
      .member separator (blank.append blank') isKey blankBefore blankAfter value more,
      by simp, closed⟩

/-- What the machine gets through is written by the grammar. -/
theorem ends_all (sound : strictness.Sound) (steps : Nat) :
    EndsValue strictness steps ∧ EndsElements strictness steps ∧ EndsMembers strictness steps := by
  induction steps using Nat.strongRecOn with
  | ind steps ih =>
    exact ⟨endsValue_of_lt sound (fun n lt => (ih n lt).2.1) (fun n lt => (ih n lt).2.2),
      endsElements_of_lt (fun n lt => (ih n lt).1) (fun n lt => (ih n lt).2.1),
      endsMembers_of_lt sound (fun n lt => (ih n lt).1) (fun n lt => (ih n lt).2.2)⟩

/-- A value that is passed over is a value. -/
theorem skipValue_ok (sound : strictness.Sound) {cs rest : List Char}
    (h : skipValue strictness cs = .ok rest) :
    ∃ t sp v, Blank sp ∧ Written (.value t) v ∧ cs = sp ++ (v ++ rest) := by
  obtain ⟨t, sp, v, mid, m, -, blank, written, rfl, done⟩ := (ends_all sound _).1 h
  cases m with
  | zero => cases done
  | succ m =>
    cases done
    exact ⟨t, sp, v, blank, written, rfl⟩

end

end EngineBridge.Json
