import EngineBridge.Proofs.Config.Spellings
import EngineBridge.Proofs.Json.Integers
import EngineBridge.Proofs.Operations.Opening

/-!
# Integers in open options

The flags and the busy timeout of open options are integers, and each of them takes the integers
of its own range, none of which is changed on the way: neither by the 64 bits in which a number is
read nor by the 32 bits in which the option holds it.  Numbers with a fraction or an exponent are
not integers, whatever they stand for.  The engine takes a busy timeout as a signed number, so it
is told the largest one where the option is beyond it.
-/

set_option autoImplicit false

namespace EngineBridge

open Json Native

namespace Config

variable {α : Type}

/-! ## Integers in a range -/

/-- An integer in a range of 64 bits is taken as it is, unless it is a zero with a minus sign. -/
theorem integerOf_eq_some_iff {literal : List Char} {n low high m : Int} (h : Denotes literal n)
    (wide : -(twoTo 63 : Int) ≤ low ∧ high ≤ maxWord) :
    integerOf low high (.number literal) = some m ↔
      m = n ∧ low ≤ n ∧ n ≤ high ∧ literal ≠ minusZero := by
  unfold integerOf
  constructor
  · intro taken
    dsimp only at taken
    split at taken
    · next k read =>
      obtain ⟨rfl, plain, -⟩ := h.numeral_eq_iff.mp read
      split at taken
      · next within =>
        cases taken
        exact ⟨rfl, within.1, within.2, plain⟩
      · cases taken
    · cases taken
  · rintro ⟨rfl, least, most, plain⟩
    have read := h.numeral_eq_iff.mpr ⟨rfl, plain, by omega, by omega⟩
    simp only [read, least, most, and_self, if_true]

/-- A number with a fraction or an exponent is in no range of integers. -/
theorem integerOf_scaled {literal : List Char} (h : Scaled literal) (low high : Int) :
    integerOf low high (.number literal) = none := by
  unfold integerOf
  dsimp only
  split
  · next n read => exact absurd read (h.numeral_ne n)
  · rfl

/-- Flags hold every integer of their range as it is. -/
theorem flagsOf_eq_some_iff {literal : List Char} {n : Int} {flags : OpenFlags}
    (h : Denotes literal n) :
    flagsOf (.number literal) = some flags ↔
      flags.bits.toInt = n ∧ -2 ^ 31 ≤ n ∧ n < 2 ^ 31 ∧ literal ≠ minusZero := by
  have wide : -(twoTo 63 : Int) ≤ -2147483648 ∧ (2147483647 : Int) ≤ maxWord := by decide
  simp only [flagsOf, Option.map_eq_some_iff, integerOf_eq_some_iff h wide]
  constructor
  · rintro ⟨m, ⟨rfl, least, most, plain⟩, rfl⟩
    exact ⟨Int32.toInt_ofInt_of_le (by omega) (by omega), by omega, by omega, plain⟩
  · rintro ⟨rfl, least, most, plain⟩
    exact ⟨_, ⟨rfl, by omega, by omega, plain⟩, by rw [Int32.ofInt_toInt]⟩

/-- A busy timeout holds every integer of its range as it is. -/
theorem timeoutOf_eq_some_iff {literal : List Char} {n : Int} {ms : UInt32}
    (h : Denotes literal n) :
    timeoutOf (.number literal) = some ms ↔
      (ms.toNat : Int) = n ∧ 0 ≤ n ∧ n < 2 ^ 32 ∧ literal ≠ minusZero := by
  have wide : -(twoTo 63 : Int) ≤ 0 ∧ (4294967295 : Int) ≤ maxWord := by decide
  simp only [timeoutOf, Option.map_eq_some_iff, integerOf_eq_some_iff h wide]
  constructor
  · rintro ⟨m, ⟨rfl, least, most, plain⟩, rfl⟩
    have held : (UInt32.ofNat m.toNat).toNat = m.toNat :=
      UInt32.toNat_ofNat_of_lt' (by simp only [UInt32.size]; omega)
    exact ⟨by omega, by omega, by omega, plain⟩
  · rintro ⟨rfl, least, most, plain⟩
    exact ⟨_, ⟨rfl, by omega, by omega, plain⟩, by simp⟩

/-! ## Open options but for one of them -/

/-- A configuration but for the value of one of its open options, which is that of a member with a
name, or else the element of an array at a position. -/
inductive OptionPlace (name : String) (position : Nat) : (Tree → Tree) → Prop
  | of {outer inner : Tree → Tree} (openOptions : Place "open" 1 outer)
      (option : Place name position inner) : OptionPlace name position fun t => outer (inner t)

/-- Nothing but a value is missing here: with some value there is a text that is accepted. -/
def Completable (place : Tree → Tree) : Prop :=
  ∃ t text config, (place t).Writes text ∧ ofJson text = .ok config

/-- Open options depend on the meaning of a value, which is one of the options, and on nothing else
in it. -/
def ByOption (meaning : Tree → Option α) (set : OpenOptions → α → OpenOptions)
    (options : Tree → Option OpenOptions) : Prop :=
  ∃ others : Option OpenOptions, ∀ t, options t = (meaning t).bind fun a => others.map (set · a)

section

variable {meaning : Tree → Option α} {set : OpenOptions → α → OpenOptions}

/-- What is never an option depends on no option. -/
theorem byOption_none : ByOption meaning set fun _ => none :=
  ⟨none, fun t => by cases meaning t <;> rfl⟩

/-- Open options depend on what stands for their flags only by its meaning, which becomes their
flags. -/
theorem byFlags_optionsFrom (before after vfs busyTimeout : List Tree) :
    ByOption flagsOf (fun options flags => { options with flags })
      fun t => optionsFrom (before ++ t :: after) vfs busyTimeout := by
  simp only [optionsFrom, single_at]
  split
  · refine ⟨(single (optionalOf textOf) vfs).bind fun vfs =>
      (single (optionalOf timeoutOf) busyTimeout).map fun busyTimeout =>
        OptionParts.options { vfs, busyTimeout }, fun t => ?_⟩
    dsimp only
    cases flagsOf t <;> cases single (optionalOf textOf) vfs <;>
      cases single (optionalOf timeoutOf) busyTimeout <;> rfl
  · exact byOption_none

/-- Open options depend on what stands for their timeout only by its meaning, which becomes their
timeout. -/
theorem byTimeout_optionsFrom (flags vfs before after : List Tree) :
    ByOption (optionalOf timeoutOf) (fun options busyTimeout => { options with busyTimeout })
      fun t => optionsFrom flags vfs (before ++ t :: after) := by
  simp only [optionsFrom, single_at]
  refine ⟨(single flagsOf flags).bind fun flags => (single (optionalOf textOf) vfs).bind fun vfs =>
    if before = [] ∧ after = [] then some (OptionParts.options { flags, vfs }) else none,
    fun t => ?_⟩
  dsimp only
  split <;> cases optionalOf timeoutOf t <;> cases single flagsOf flags <;>
    cases single (optionalOf textOf) vfs <;> rfl

/-- In the place of the flags, only the meaning of a tree counts. -/
theorem byFlags_place {place : Tree → Tree} (inside : Place "flags" 0 place) :
    ByOption flagsOf (fun options flags => { options with flags })
      fun t => optionsOf (place t) := by
  cases inside with
  | @member key before after named =>
    simp only [optionsOf, compoundOf, optionsOfMembers, allSpelled_append, allSpelled_cons, named,
      valuesOf_append, valuesOf_cons, if_true, Option.some.injEq, String.reduceEq, if_false,
      Option.isSome_some, Bool.true_and]
    split
    · apply byFlags_optionsFrom
    · apply byOption_none
  | element before after placed =>
    obtain rfl := List.eq_nil_of_length_eq_zero placed
    rcases after with _ | ⟨vfs, _ | ⟨busyTimeout, _ | ⟨u, after⟩⟩⟩
    · exact byFlags_optionsFrom [] [] [] []
    · exact byFlags_optionsFrom [] [] [vfs] []
    · exact byFlags_optionsFrom [] [] [vfs] [busyTimeout]
    · exact byOption_none

/-- In the place of the timeout, only the meaning of a tree counts. -/
theorem byTimeout_place {place : Tree → Tree} (inside : Place "busy_timeout_ms" 2 place) :
    ByOption (optionalOf timeoutOf) (fun options busyTimeout => { options with busyTimeout })
      fun t => optionsOf (place t) := by
  cases inside with
  | @member key before after named =>
    simp only [optionsOf, compoundOf, optionsOfMembers, allSpelled_append, allSpelled_cons, named,
      valuesOf_append, valuesOf_cons, if_true, Option.some.injEq, String.reduceEq, if_false,
      Option.isSome_some, Bool.true_and]
    split
    · apply byTimeout_optionsFrom
    · apply byOption_none
  | element before after placed =>
    obtain ⟨flags, vfs, rfl⟩ := List.length_eq_two.mp placed
    cases after with
    | nil => exact byTimeout_optionsFrom [flags] [vfs] [] []
    | cons u after => exact byOption_none

/-- A text with a value for the one option that is missing is accepted exactly if nothing else is
missing and the value means anything, and then the option is what it means. -/
theorem accepted_iff {outer inner : Tree → Tree} (openOptions : Place "open" 1 outer)
    (option : ByOption meaning set fun t => optionsOf (inner t)) {t : Tree} {text : String}
    (writes : (outer (inner t)).Writes text) :
    ((∃ config, ofJson text = .ok config) ↔
      Completable (fun t => outer (inner t)) ∧ ∃ a, meaning t = some a) ∧
    ∀ config, ofJson text = .ok config →
      ∃ others a, meaning t = some a ∧ config.openOptions = set others a := by
  obtain ⟨source, bySource⟩ := byOptions_place openOptions
  obtain ⟨others, byOthers⟩ := option
  dsimp only at bySource byOthers
  have accepted : ∀ t text config, (outer (inner t)).Writes text → (ofJson text = .ok config ↔
      ∃ a rest library, meaning t = some a ∧ others = some rest ∧ source = some library ∧
        config = { library, openOptions := set rest a }) := by
    intro t text config writes
    rw [← toOption_eq_some, ofJson_of_writes writes, bySource, byOthers]
    cases meaning t <;> cases others <;> cases source <;> simp [eq_comm]
  refine ⟨⟨?_, ?_⟩, ?_⟩
  · rintro ⟨config, taken⟩
    obtain ⟨a, _, _, means, -⟩ := (accepted t text config writes).mp taken
    exact ⟨⟨t, text, config, writes, taken⟩, a, means⟩
  · rintro ⟨⟨t₀, text₀, config₀, writes₀, taken₀⟩, a, means⟩
    obtain ⟨_, rest, library, -, hrest, hlibrary, -⟩ := (accepted t₀ text₀ config₀ writes₀).mp taken₀
    exact ⟨_, (accepted t text _ writes).mpr ⟨a, rest, library, means, hrest, hlibrary, rfl⟩⟩
  · intro config taken
    obtain ⟨a, rest, library, means, -, -, rfl⟩ := (accepted t text config writes).mp taken
    exact ⟨rest, a, means, rfl⟩

end

/-! ## The two integers -/

/-- Flags are given by the integers of 32 bits with a sign. -/
theorem flags_exact {place : Tree → Tree} (inside : OptionPlace "flags" 0 place)
    {literal : List Char} {text : String} (writes : (place (.number literal)).Writes text) :
    (∀ n, Denotes literal n →
      ((∃ config, ofJson text = .ok config) ↔
        Completable place ∧ -2 ^ 31 ≤ n ∧ n < 2 ^ 31 ∧ literal ≠ minusZero) ∧
      ∀ config, ofJson text = .ok config → config.openOptions.flags.bits.toInt = n) ∧
    (Scaled literal → ∀ config, ofJson text ≠ .ok config) := by
  obtain @⟨outer, inner, openOptions, option⟩ := inside
  obtain ⟨taken, means⟩ := accepted_iff openOptions (byFlags_place option) writes
  refine ⟨fun n denotes => ⟨?_, fun config accepted => ?_⟩, fun scaled config accepted => ?_⟩
  · rw [taken]
    apply and_congr_right'
    constructor
    · rintro ⟨flags, found⟩
      exact ((flagsOf_eq_some_iff denotes).mp found).2
    · intro within
      have held := Int32.toInt_ofInt_of_le within.1 within.2.1
      exact ⟨⟨Int32.ofInt n⟩, (flagsOf_eq_some_iff denotes).mpr ⟨held, within⟩⟩
  · obtain ⟨others, flags, found, options⟩ := means config accepted
    rw [options]
    exact ((flagsOf_eq_some_iff denotes).mp found).1
  · obtain ⟨others, flags, found, -⟩ := means config accepted
    simp [flagsOf, integerOf_scaled scaled] at found

/-- A busy timeout is given by the integers of 32 bits without a sign. -/
theorem busyTimeout_exact {place : Tree → Tree} (inside : OptionPlace "busy_timeout_ms" 2 place)
    {literal : List Char} {text : String} (writes : (place (.number literal)).Writes text) :
    (∀ n, Denotes literal n →
      ((∃ config, ofJson text = .ok config) ↔
        Completable place ∧ 0 ≤ n ∧ n < 2 ^ 32 ∧ literal ≠ minusZero) ∧
      ∀ config, ofJson text = .ok config →
        ∃ ms, config.openOptions.busyTimeout = some ms ∧ (ms.toNat : Int) = n) ∧
    (Scaled literal → ∀ config, ofJson text ≠ .ok config) := by
  obtain @⟨outer, inner, openOptions, option⟩ := inside
  obtain ⟨taken, means⟩ := accepted_iff openOptions (byTimeout_place option) writes
  have number : optionalOf timeoutOf (.number literal) = (timeoutOf (.number literal)).map some :=
    rfl
  rw [number] at taken means
  simp only [Option.map_eq_some_iff] at taken means
  refine ⟨fun n denotes => ⟨?_, fun config accepted => ?_⟩, fun scaled config accepted => ?_⟩
  · rw [taken]
    apply and_congr_right'
    constructor
    · rintro ⟨_, ms, found, -⟩
      exact ((timeoutOf_eq_some_iff denotes).mp found).2
    · intro within
      have held : ((UInt32.ofNat n.toNat).toNat : Int) = n := by
        rw [UInt32.toNat_ofNat_of_lt' (by simp only [UInt32.size]; omega)]
        omega
      exact ⟨_, _, (timeoutOf_eq_some_iff denotes).mpr ⟨held, within⟩, rfl⟩
  · obtain ⟨others, _, ⟨ms, found, rfl⟩, options⟩ := means config accepted
    rw [options]
    exact ⟨ms, rfl, ((timeoutOf_eq_some_iff denotes).mp found).1⟩
  · obtain ⟨others, _, ⟨ms, found, -⟩, -⟩ := means config accepted
    simp [timeoutOf, integerOf_scaled scaled] at found

/-- Integers in open options neither wrap nor are they rounded.  A number in the text of a
configuration is an integer literal, or else it has a fraction or an exponent and is refused as
flags and as a busy timeout.  Where nothing else is missing, an integer is taken as flags exactly if
32 bits with a sign hold it and it is no zero with a minus sign, and the flags are its bits then; it
is taken as a busy timeout exactly if 32 bits without a sign hold it and it is no zero with a minus
sign, and the timeout is that integer then.  A connection that is opened with it tells the engine
one busy timeout if the engine has made an object, and none otherwise: the integer, or the largest
one that the engine can be told, and never a negative one. -/
theorem integer_options_exact :
    (∀ literal, NumberLiteral literal → (∃ n, Denotes literal n) ∨ Scaled literal) ∧
    (∀ place, OptionPlace "flags" 0 place →
      ∀ literal text, (place (.number literal)).Writes text →
        (∀ n, Denotes literal n →
          ((∃ config, ofJson text = .ok config) ↔
            Completable place ∧ -2 ^ 31 ≤ n ∧ n < 2 ^ 31 ∧ literal ≠ minusZero) ∧
          ∀ config, ofJson text = .ok config → config.openOptions.flags.bits.toInt = n) ∧
        (Scaled literal → ∀ config, ofJson text ≠ .ok config)) ∧
    ∀ place, OptionPlace "busy_timeout_ms" 2 place →
      ∀ literal text, (place (.number literal)).Writes text →
        (∀ n, Denotes literal n →
          ((∃ config, ofJson text = .ok config) ↔
            Completable place ∧ 0 ≤ n ∧ n < 2 ^ 32 ∧ literal ≠ minusZero) ∧
          ∀ config, ofJson text = .ok config →
            (∃ ms, config.openOptions.busyTimeout = some ms ∧ (ms.toNat : Int) = n) ∧
            0 ≤ min n maxTimeout ∧
            ∀ {E : Engine} {H : Host} (w : World E H) (conn : Connection) (path : String),
              let opening := (conn.openWith path config.openOptions).run w
              let told := timeoutsTold (opening.2.since w.transcript.length)
              let asked := conn.state = .unopened ∧ Connection.Granted w path config.openOptions
              asked ∧ told = [min n maxTimeout] ∨ ¬asked ∧ told = []) ∧
        (Scaled literal → ∀ config, ofJson text ≠ .ok config) := by
  refine ⟨fun literal => NumberLiteral.denotes_or_scaled,
    fun place inside literal text => flags_exact inside,
    fun place inside literal text writes => ?_⟩
  obtain ⟨exact, scaled⟩ := busyTimeout_exact inside writes
  refine ⟨fun n denotes => ⟨(exact n denotes).1, fun config accepted => ?_⟩, scaled⟩
  obtain ⟨ms, timeout, rfl⟩ := (exact n denotes).2 config accepted
  refine ⟨⟨ms, timeout, rfl⟩, ?_, fun w conn path => conn.openWith_timeouts w path timeout⟩
  rw [maxTimeout]
  omega

/-- The least flags and the longest timeout are taken as they are, and the engine is told the
longest timeout that there is for it; flags that are less by one are refused, and so is a timeout of
one with a fraction. -/
theorem extreme_options_are_taken :
    (∃ config, ofJson "\x7b\"open\":\x7b\"flags\":-2147483648\x7d\x7d" = .ok config ∧
      config.openOptions.flags.bits.toInt = -2147483648) ∧
    (∀ config, ofJson "\x7b\"open\":\x7b\"flags\":-2147483649\x7d\x7d" ≠ .ok config) ∧
    (∃ config ms, ofJson "\x7b\"open\":\x7b\"busy_timeout_ms\":4294967295\x7d\x7d" = .ok config ∧
      config.openOptions.busyTimeout = some ms ∧ (ms.toNat : Int) = 4294967295 ∧
      timeoutsTold (((Connection.openWith { id := ⟨1⟩ } "x" config.openOptions).run
        (Session.begin Scripted.engine {})).2.since 0) = [2147483647]) ∧
    ∀ config, ofJson "\x7b\"open\":\x7b\"busy_timeout_ms\":1.0\x7d\x7d" ≠ .ok config := by
  obtain ⟨-, flagsExact, timeoutExact⟩ := integer_options_exact
  let openKey : List Char := ['o', 'p', 'e', 'n']
  let flags : List Char := ['f', 'l', 'a', 'g', 's']
  let timeout : List Char :=
    ['b', 'u', 's', 'y', '_', 't', 'i', 'm', 'e', 'o', 'u', 't', '_', 'm', 's']
  let least : List Char := ['2', '1', '4', '7', '4', '8', '3', '6', '4', '8']
  let below : List Char := ['2', '1', '4', '7', '4', '8', '3', '6', '4', '9']
  let longest : List Char := ['4', '2', '9', '4', '9', '6', '7', '2', '9', '5']
  have isBody : ∀ cs ∈ [openKey, flags, timeout], StringBody cs := by
    intro cs mem
    have plain : ∀ cs ∈ [openKey, flags, timeout],
      ∀ c ∈ cs, 0x20 ≤ c.toNat ∧ c ≠ '"' ∧ c ≠ '\\' := by
        simp [openKey, flags, timeout]
    exact stringBody_of_plain (plain cs mem)
  have isWhole : ∀ ds ∈ [least, below, longest, ['1']], Whole ds := by
    have digits : ∀ ds ∈ [least, below, longest, ['1']], ds.head? ≠ some '0' ∧ Digits ds := by
      simp [least, below, longest, Digits]
    intro ds mem
    obtain ⟨head, digits⟩ := digits ds mem
    cases ds with
    | nil => exact absurd rfl digits.1
    | cons d ds => exact .digits (fun zero => head (congrArg some zero)) digits
  have writes : ∀ {key literal : List Char} {text : String}, key ∈ [openKey, flags, timeout] →
      NumberLiteral literal →
      text.toList = (Tree.object [(openKey, .object [(key, .number literal)])]).compact →
      (Tree.object [(openKey, .object [(key, .number literal)])]).Writes text :=
    fun {key literal text} mem number chars => by
    have spelled : (Tree.object [(openKey, .object [(key, .number literal)])]).WellSpelled :=
      ⟨isBody openKey (by simp), ⟨isBody key mem, number, trivial⟩, trivial⟩
    exact Tree.writes_compact spelled blank_nil blank_nil (by simpa using chars)
  have openNamed : spelled openKey = some "open" := by decide +kernel
  have flagsPlace : OptionPlace "flags" 0 fun t => .object [(openKey, .object [(flags, t)])] :=
    .of (.member [] [] openNamed) (.member [] [] (by decide +kernel))
  have timeoutPlace : OptionPlace "busy_timeout_ms" 2
      fun t => .object [(openKey, .object [(timeout, t)])] :=
    .of (.member [] [] openNamed) (.member [] [] (by decide +kernel))
  have isZero : NumberLiteral ['0'] := (Denotes.unsigned .zero).isNumber
  have flagsMissing : Completable fun t => .object [(openKey, .object [(flags, t)])] :=
    ⟨_, "\x7b\"open\":\x7b\"flags\":0\x7d\x7d", { openOptions := { flags := ⟨0⟩ } },
      writes (by simp) isZero rfl, by decide +kernel⟩
  have isLeast : Denotes ('-' :: least) (-2147483648) := .negated (isWhole least (by simp))
  have isBelow : Denotes ('-' :: below) (-2147483649) := .negated (isWhole below (by simp))
  have isLongest : Denotes longest 4294967295 := .unsigned (isWhole longest (by simp))
  have isScaled : Scaled ['1', '.', '0'] := @Scaled.of [] ['1'] ['.', '0'] [] (.inl rfl)
    (isWhole ['1'] (by simp)) (.digits (by simp [Digits])) .none (by simp)
  have isNumber : NumberLiteral ['1', '.', '0'] := @NumberLiteral.of [] ['1'] ['.', '0'] []
    (.inl rfl) (isWhole ['1'] (by simp)) (.digits (by simp [Digits])) .none
  have leastWritten : (Tree.object [(openKey, .object [(flags, .number ('-' :: least))])]).Writes
      "\x7b\"open\":\x7b\"flags\":-2147483648\x7d\x7d" :=
    writes (by simp) isLeast.isNumber rfl
  have belowWritten : (Tree.object [(openKey, .object [(flags, .number ('-' :: below))])]).Writes
      "\x7b\"open\":\x7b\"flags\":-2147483649\x7d\x7d" :=
    writes (by simp) isBelow.isNumber rfl
  have longestWritten : (Tree.object [(openKey, .object [(timeout, .number longest)])]).Writes
      "\x7b\"open\":\x7b\"busy_timeout_ms\":4294967295\x7d\x7d" :=
    writes (by simp) isLongest.isNumber rfl
  have scaledWritten :
      (Tree.object [(openKey, .object [(timeout, .number ['1', '.', '0'])])]).Writes
        "\x7b\"open\":\x7b\"busy_timeout_ms\":1.0\x7d\x7d" :=
    writes (by simp) isNumber rfl
  refine ⟨?_, ?_, ?_, (timeoutExact _ timeoutPlace _ _ scaledWritten).2 isScaled⟩
  · obtain ⟨taken, exact⟩ := (flagsExact _ flagsPlace _ _ leastWritten).1 _ isLeast
    obtain ⟨config, accepted⟩ := taken.mpr ⟨flagsMissing, by decide, by decide, by decide⟩
    exact ⟨config, accepted, exact config accepted⟩
  · obtain ⟨taken, -⟩ := (flagsExact _ flagsPlace _ _ belowWritten).1 _ isBelow
    intro config accepted
    have within := (taken.mp ⟨config, accepted⟩).2.1
    omega
  · let config : Config := { openOptions := { busyTimeout := some 4294967295 } }
    have accepted : ofJson "\x7b\"open\":\x7b\"busy_timeout_ms\":4294967295\x7d\x7d" =
        .ok config := by
      decide +kernel
    obtain ⟨-, exact⟩ := (timeoutExact _ timeoutPlace _ _ longestWritten).1 _ isLongest
    obtain ⟨⟨ms, timeout, same⟩, -, opened⟩ := exact config accepted
    let w : World Scripted.engine (Session.host Scripted.engine) := Session.begin Scripted.engine {}
    have free : NulFree "x" := (by decide +kernel : 0 ∉ Utf8.encode "x")
    have granted : Connection.Granted w "x" config.openOptions :=
      ⟨⟨free, by simp [config]⟩, ⟨1⟩, rfl⟩
    refine ⟨config, ms, accepted, timeout, same, ?_⟩
    obtain ⟨-, told⟩ | ⟨other, -⟩ := opened w { id := ⟨1⟩ } "x"
    · exact told
    · exact absurd ⟨rfl, granted⟩ other

end Config

end EngineBridge
