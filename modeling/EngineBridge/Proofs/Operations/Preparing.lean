import EngineBridge.Library.Startup
import EngineBridge.Proofs.Custody.History
import EngineBridge.Proofs.Operations.Texts
import EngineBridge.Proofs.Text.Division

/-!
# What of a text is prepared

A statement keeps the part of its text that the engine prepared: up to the offset at which
the engine says that the rest begins, if the text can be divided there, and else all of it.
The rest is reported if there is more to it than white space.  Where the engine makes no
statement of a text there is none to be finalized.
-/

set_option autoImplicit false

namespace EngineBridge

open Native

variable {E : Engine} {H : Host}

/-- The world after some more reports. -/
def World.reporting (w : World E H) (events : List Event) : World E H :=
  events.foldl (fun w event => w.record (.reported event)) w

namespace Connection

/-! ## Dividing the text -/

/-- The part of a text that was prepared and the rest of it, given where the engine says the
rest begins. -/
structure Divides (sql : String) (tail : Option Int) (first rest : String) : Prop where
  joined : first ++ rest = sql
  boundary : ∀ n : Nat, tail = some (n : Int) → Utf8.IsBoundary sql n →
    Utf8.encode first = (Utf8.encode sql).take n
  null : tail = none → first = sql
  outside : ∀ n, tail = some n → n < 0 ∨ ((Utf8.encode sql).length : Int) < n → first = sql
  inside : ∀ n : Nat, tail = some (n : Int) → n ≤ (Utf8.encode sql).length →
    ¬Utf8.IsBoundary sql n → first = sql
  wellFormed : Utf8.WellFormed (Utf8.encode first)

/-- All of a text is prepared if it cannot be divided before its end. -/
theorem Divides.of_whole {sql : String} {tail : Option Int}
    (undivided : ∀ n : Nat, tail = some (n : Int) → Utf8.IsBoundary sql n →
      n = (Utf8.encode sql).length) : Divides sql tail sql "" where
  joined := String.append_empty
  boundary n said boundary := by rw [undivided n said boundary, List.take_length]
  null _ := rfl
  outside _ _ _ := rfl
  inside _ _ _ _ := rfl
  wellFormed := Utf8.wellFormed_iff.mpr ⟨sql, rfl⟩

/-- A text is divided where the rest is said to begin, if characters end there. -/
theorem Divides.of_append {sql first rest : String} (joined : first ++ rest = sql) :
    Divides sql (some ((Utf8.encode first).length : Int)) first rest := by
  have boundary := Utf8.isBoundary_of_append joined
  have octets : Utf8.encode sql = Utf8.encode first ++ Utf8.encode rest := by
    simp [← joined, Utf8.encode]
  refine ⟨joined, ?_, ?_, ?_, ?_, Utf8.wellFormed_iff.mpr ⟨first, rfl⟩⟩
  · intro n said _
    obtain rfl := Int.natCast_inj.mp (Option.some.inj said)
    rw [octets, List.take_left]
  · intro null
    cases null
  · intro n said out
    obtain rfl := Option.some.inj said
    have := boundary.1
    omega
  · intro n said _ inside
    obtain rfl := Int.natCast_inj.mp (Option.some.inj said)
    exact absurd boundary inside

/-- A text may be cut at its end. -/
theorem splitAt_length (sql : String) :
    Utf8.splitAt (Utf8.encode sql).length sql.toList = some (sql.toList, []) :=
  Utf8.splitAt_eq_some_iff.mpr ⟨by simp, rfl⟩

/-- A text is divided as it should be, whatever the engine says where the statement ends. -/
theorem divides_divide (sql : String) (tail : Option Int) :
    Divides sql tail (divide sql tail).1 (divide sql tail).2 := by
  unfold divide
  cases tail with
  | none =>
    simp only [splitAt_length, String.ofList_toList]
    exact .of_whole nofun
  | some offset =>
    cases offset with
    | negSucc n =>
      simp only [if_pos (Int.negSucc_lt_zero n), splitAt_length, String.ofList_toList]
      exact .of_whole nofun
    | ofNat n =>
      have nonneg : ¬(n : Int) < 0 := Int.not_lt.mpr (Int.natCast_nonneg n)
      simp only [Int.ofNat_eq_natCast, if_neg nonneg, Int.toNat_natCast]
      rcases Nat.lt_or_ge (Utf8.encode sql).length n with past | within
      · simp only [Nat.min_eq_right (Nat.le_of_lt past), splitAt_length, String.ofList_toList]
        refine .of_whole fun m said boundary => ?_
        obtain rfl := Int.natCast_inj.mp (Option.some.inj said)
        exact absurd boundary.1 (Nat.not_le.mpr past)
      · rw [Nat.min_eq_left within]
        cases split : Utf8.splitAt n sql.toList with
        | some parts =>
          obtain ⟨chars, length⟩ := Utf8.splitAt_eq_some_iff.mp split
          have joined : String.ofList parts.1 ++ String.ofList parts.2 = sql := by
            rw [← String.ofList_append, ← chars, String.ofList_toList]
          have divides := Divides.of_append joined
          rwa [Utf8.encode, String.toList_ofList, length] at divides
        | none =>
          refine .of_whole fun m said boundary => ?_
          obtain rfl := Int.natCast_inj.mp (Option.some.inj said)
          obtain ⟨first, rest, chars, length⟩ :=
            Utf8.exists_division boundary.1 boundary.2
          rw [Utf8.splitAt_eq_some_iff.mpr ⟨chars, length⟩] at split
          cases split

/-! ## Preparing -/

/-- What is reported of the rest of a text: nothing if it is all white space, and else what is
left of it without the white space at its two ends. -/
inductive Ignores (rest : String) : List Event → Prop
  | blank : (∀ c ∈ rest.toList, Text.IsWhiteSpace c) → Ignores rest []
  | text {c : Char} {kept : String} : c ∈ rest.toList → ¬Text.IsWhiteSpace c →
      Text.Trims rest kept → Ignores rest [.restIgnored kept]

/-- The call by which a text is prepared. -/
abbrev preparing (d : Database) (sql : String) : Call :=
  .prepareV2 d (.terminated sql) (Int32.ofNat ((Utf8.encode sql).length + 1))

variable {conn : Connection} {d : Database} {sql : String} {w : World E H}

/-- A text that the engine accepts is divided where it says, and the statement is made of the first
part. -/
theorem prepare_run (database : conn.database = .ok d) (free : NulFree sql)
    (short : (Utf8.encode sql).length < maxLength)
    (done : (w.answer (preparing d sql)).code = 0) :
    (conn.prepare sql).run.run w =
      (match (w.answer (preparing d sql)).program with
        | none => throw (.state .noStatement)
        | some program => do
          let (first, rest) := divide sql (w.answer (preparing d sql)).tail
          let ignored := Text.trim rest
          if ignored ≠ "" then Fallible.lift (Bridge.report (.restIgnored ignored))
          Fallible.lift (Bridge.report (.prepared conn.id first))
          pure ⟨conn.id, d, some program, .prepared, first⟩ : Fallible E H Statement).run.run
        (w.called (preparing d sql)) := by
  have length : (CString.terminated sql).memory.length = (Utf8.encode sql).length + 1 := by
    simp [CString.terminated, CString.ofBytes]
  have within : (Utf8.encode sql).length + 1 ≤ maxLength := short
  have sized : (Fallible.ofExcept .ofCodec (.ok (Int32.ofNat ((Utf8.encode sql).length + 1))) :
    Fallible E H Int32).run.run w = (.ok _, w) := rfl
  unfold prepare
  rw [Operation.live_ofText_of_nulFree database free, length, if_pos within,
    Fallible.run_bind_of_run sized,
    Fallible.run_bind_of_run (Fallible.checked_run (c := preparing d sql) done)]
  rfl

/-- A blank rest is ignored without a word. -/
theorem ignores_of_blank {rest : String} (blank : Text.trim rest = "") : Ignores rest [] :=
  .blank ((Text.trims_trim rest).eq_empty_iff.mp blank)

/-- A rest that is not blank is ignored with a report of it, trimmed. -/
theorem ignores_of_not_blank {rest : String} (some : Text.trim rest ≠ "") :
    Ignores rest [.restIgnored (Text.trim rest)] := by
  have trims := Text.trims_trim rest
  have notBlank := mt trims.eq_empty_iff.mpr some
  simp only [not_forall] at notBlank
  obtain ⟨c, mem, notBlank⟩ := notBlank
  exact .text mem notBlank trims

/-- With an object for the statement, the statement keeps the part of its text that was
prepared. -/
theorem prepare_run_of_program (database : conn.database = .ok d) (free : NulFree sql)
    (short : (Utf8.encode sql).length < maxLength)
    (done : (w.answer (preparing d sql)).code = 0) {program : Program}
    (made : (w.answer (preparing d sql)).program = some program) :
    ∃ first rest reports, Divides sql (w.answer (preparing d sql)).tail first rest ∧
      Ignores rest reports ∧
      (conn.prepare sql).run.run w =
        (.ok ⟨conn.id, d, some program, .prepared, first⟩,
          (w.called (preparing d sql)).reporting (reports ++ [.prepared conn.id first])) := by
  have divides := divides_divide sql (w.answer (preparing d sql)).tail
  rw [prepare_run database free short done, made]
  by_cases blank : Text.trim (divide sql (w.answer (preparing d sql)).tail).2 = ""
  · refine ⟨_, _, _, divides, ignores_of_blank blank, ?_⟩
    simp only [ne_eq, blank, not_true_eq_false, if_false]
    rfl
  · refine ⟨_, _, _, divides, ignores_of_not_blank blank, ?_⟩
    simp only [ne_eq, blank, not_false_eq_true, if_true]
    rfl

/-- A text without zero octets is prepared up to where the engine says that its rest begins, if
it can be divided there; without such an offset, and with one that is before the text, past
its end or inside a character, all of it is.  Either way the part that the statement keeps
and the rest together are the text, and the rest is reported, trimmed, if there is more to
it than white space.  If the engine makes no statement of the text, none comes of it, and
nothing that would have to be finalized.  (A text that is too long does not get to the
engine.) -/
theorem statement_keeps_prepared_part (database : conn.database = .ok d) (free : NulFree sql)
    (w : World E H) :
    (maxLength ≤ (Utf8.encode sql).length → (conn.prepare sql).run.run w =
      (.error (.ofCodec (.tooLarge (Utf8.encode sql).length)), w)) ∧
    ((Utf8.encode sql).length < maxLength → (w.answer (preparing d sql)).code = 0 →
      (∀ program, (w.answer (preparing d sql)).program = some program →
        ∃ first rest reports, Divides sql (w.answer (preparing d sql)).tail first rest ∧
          Ignores rest reports ∧
          (conn.prepare sql).run.run w =
            (.ok ⟨conn.id, d, some program, .prepared, first⟩,
              (w.called (preparing d sql)).reporting (reports ++ [.prepared conn.id first]))) ∧
      ((w.answer (preparing d sql)).program = none →
        ∃ added, (conn.prepare sql).run.run w =
            (.error (.state .noStatement), w.called (preparing d sql)) ∧
          (w.called (preparing d sql)).transcript = added ++ w.transcript ∧
          ∀ entry ∈ added, entry.prepares = none ∧ entry.finalizes = none)) := by
  refine ⟨fun long => Operation.prepare_of_tooLong database free long, fun short done =>
    ⟨fun program made => prepare_run_of_program database free short done made, fun none => ?_⟩⟩
  refine ⟨[.called (preparing d sql) (w.answer (preparing d sql)),
    .reported (.nativeCall .prepareV2)], ?_, rfl, ?_⟩
  · rw [prepare_run database free short done, none]
    rfl
  · simp [Entry.prepares, Entry.finalizes, none]

/-- A text is divided before its second statement, and what is left of the rest is reported. -/
theorem second_query_is_ignored :
    ∃ (conn : Connection) (w v : World Scripted.engine Startup.host) (kept : String),
      conn.database = .ok ⟨1⟩ ∧ NulFree "SELECT 1; é " ∧
      (w.answer (preparing ⟨1⟩ "SELECT 1; é ")).tail = some 9 ∧
      (conn.prepare "SELECT 1; é ").run.run w =
        (.ok ⟨⟨1⟩, ⟨1⟩, some ⟨1⟩, .prepared, "SELECT 1;"⟩, v) ∧
      Text.Trims " é " kept ∧ .reported (.restIgnored kept) ∈ v.transcript := by
  let conn : Connection := ⟨⟨1⟩, .opened, some ⟨1⟩, ":memory:"⟩
  let w := Startup.world ⟨[(.prepareV2, .reaction { tail := some (some 9) })]⟩
  have free : NulFree "SELECT 1; é " := (by decide +kernel : 0 ∉ Utf8.encode "SELECT 1; é ")
  have short : (Utf8.encode "SELECT 1; é ").length < maxLength := by decide +kernel
  obtain ⟨-, asked⟩ := statement_keeps_prepared_part (d := ⟨1⟩) (rfl : conn.database = _) free w
  obtain ⟨first, rest, reports, divides, ignores, run⟩ := (asked short rfl).1 ⟨1⟩ rfl
  have joined : "SELECT 1;" ++ " é " = "SELECT 1; é " := by decide +kernel
  have boundary : Utf8.IsBoundary "SELECT 1; é " 9 := Utf8.isBoundary_of_append joined
  have octets : Utf8.encode first = Utf8.encode "SELECT 1;" :=
    (divides.boundary 9 rfl boundary).trans (by decide +kernel)
  obtain rfl : first = "SELECT 1;" :=
    Except.ok.inj ((Utf8.decode_eq_ok_iff.mpr octets).symm.trans (Utf8.decode_encode _))
  obtain rfl : rest = " é " := (String.append_right_inj _).mp (divides.joined.trans joined.symm)
  cases ignores with
  | blank blank => exact absurd (blank 'é' (by decide)) (by decide)
  | @text c kept mem _ trims =>
    exact ⟨conn, w, _, kept, rfl, free, rfl, run, trims,
      List.mem_cons_of_mem _ List.mem_cons_self⟩

end Connection

end EngineBridge
