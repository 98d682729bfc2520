import EngineBridge.Proofs.Operations.Texts
import EngineBridge.Proofs.Session.Reentry

/-!
# Texts of a session

Every text that an operation of a session hands to the engine arrives whole, or the operation is
declined before the engine hears of it.  Two things are to be known about declined operations.
A function whose name is refused goes, and a connection that it owns is closed.  And a text that
has no 32-bit length is too large to be prepared.
-/

set_option autoImplicit false

namespace EngineBridge.Session

open Native Connection

variable {E : Engine} {w : World E (host E)}

/-- Serving the engine takes nothing out of the transcript of a session. -/
theorem grows_serve (reachable : Reachable w) (depth : Nat) (x : Execution)
    (reply : Reply E.State Int32) :
    (w.beginning x).Grows
      ((Upcall.serve (callbacks (perform depth)) reply).run (w.beginning x)).2 := by
  obtain ⟨tame, retelling⟩ := callbacks_tell E depth
  have poised : Poised (w.beginning x) := reachable.poised.quiet (quiet_start x w)
  exact World.RecountsOn.grows (retells_serve tame retelling reply _ poised)

/-- The texts of an operation that the state of its connection allows arrive whole or not at all.
If one of them holds a zero octet, the operation fails with the offset of the first such octet,
the texts being looked at in order; nothing else happens, but that a connection which the closure
of the operation owns is let go.  Otherwise one arena holds the texts one by one, each with a
zero at its end so that it is read as it was written, and what the engine gets to see first of the
operation are just these strings.  A text that has no 32-bit length with its end is not prepared,
and nothing happens then. -/
theorem texts_arrive_whole (reachable : Reachable w) (depth : Nat) {conn : Connection}
    {op : Operation (host E)} (allowed : op.Allowed conn) :
    let performed := (op.perform (callbacks (perform depth)) conn).run w
    (∀ position, op.NulAt position →
      performed.1 = (.error (.ofCodec (.interiorNul position)), conn) ∧
        op.Declines w performed.2) ∧
    ((∀ position, ¬ op.NulAt position) →
      (∀ text ∈ op.texts, (CString.terminated text).memory = Utf8.encode text ++ [0] ∧
        CString.decode (some (.terminated text)) = .ok (some text)) ∧
      (∀ arena : Arena, arena.allocateTexts op.texts =
        (op.texts.map fun text => .ok (.terminated text),
          ⟨(op.texts.map fun text => (CString.terminated text).memory).reverse ++
            arena.blocks⟩)) ∧
      (op.texts ≠ [] → ¬ op.Overlong → ∃ entry, Operation.Hands conn op entry ∧
        (performed.2.since w.transcript.length).find? Entry.isNative = some entry) ∧
      ∀ sql, op = .prepare sql → op.Overlong →
        performed = ((.error (.ofCodec (.tooLarge (Utf8.encode sql).length)), conn), w)) := by
  intro performed
  refine ⟨fun position nul => ?_, fun clean => ?_⟩
  · have declined := Operation.perform_of_nulAt (w := w) (callbacks (perform depth)) allowed nul
    rw [show performed = _ from declined]
    exact ⟨rfl, Operation.declines_declined⟩
  have free := Operation.not_nulAt_iff.mp clean
  refine ⟨fun text mem => ⟨rfl, CString.decode_terminated (free text mem)⟩,
    fun arena => arena.allocateTexts_of_nulFree free, ?_, ?_⟩
  · intro texts short
    obtain ⟨entry, hands, opens⟩ :=
      Operation.opens_perform allowed free short texts (grows_serve reachable depth)
    exact ⟨entry, hands, opens.since hands.isNative⟩
  · rintro sql rfl long
    obtain ⟨d, database⟩ := allowed
    exact Operation.keep_run
      (Operation.prepare_of_tooLong database (free sql List.mem_cons_self) long)

/-! ## Two connections -/

/-- The world after a session that opens two connections. -/
def pairWorld : World Scripted.engine (host Scripted.engine) :=
  let steps : List (Step Scripted.engine.Stimulus) :=
    [({ connection := some "a" }, .connect ":memory:" {}),
     ({ connection := some "b" }, .connect ":memory:" {})]
  ((steps.mapM (next 1)).run (begin Scripted.engine {})).2

/-- The second of the connections. -/
def secondOfPair : Connection := ⟨⟨2⟩, .opened, some ⟨2⟩, ":memory:"⟩

/-- The session goes on with a function whose name is refused, and which owns the first
connection. -/
def refusedName : Record Scripted.engine.Response :=
  ((next 1 ({ connection := some "b" }, .registerFunction "f\x00" 1 .empty (.own "a"))).run
    pairWorld).1

/-- A text of one letter. -/
def repeated (n : Nat) : String := String.ofList (List.replicate n 'a')

/-- The octets of a repeated letter are that letter's octet, repeated. -/
theorem encode_repeated (n : Nat) : Utf8.encode (repeated n) = List.replicate n 97 := by
  unfold Utf8.encode repeated
  rw [String.toList_ofList]
  induction n with
  | zero => rfl
  | succ n ih =>
    rw [List.replicate_succ, List.flatMap_cons, ih, List.replicate_succ]
    rfl

/-- The text `q` is prepared from its one octet and a zero, and told to be two octets long. -/
theorem query_arrives_whole :
    ∃ size answer, Int32.toInt size = 2 ∧
      ((((Operation.prepare "q").perform (callbacks (perform 1)) secondOfPair).run pairWorld).2.since
        pairWorld.transcript.length).find? Entry.isNative =
          some (.called (.prepareV2 ⟨2⟩ ⟨[113, 0]⟩ size) answer) := by
  have reachable : Reachable pairWorld := (Reachable.begin _).steps 1 _
  let op : Operation (host Scripted.engine) := .prepare "q"
  have allowed : op.Allowed secondOfPair := ⟨⟨2⟩, rfl⟩
  have clean : ∀ position, ¬ op.NulAt position := by
    refine Operation.not_nulAt_iff.mpr (List.forall_mem_singleton.mpr ?_)
    exact (by decide : 0 ∉ Utf8.encode "q")
  have short : ¬ op.Overlong := (by decide : ¬ maxLength ≤ (Utf8.encode "q").length)
  obtain ⟨-, whole⟩ := texts_arrive_whole reachable 1 allowed
  obtain ⟨entry, hands, first⟩ := (whole clean).2.2.1 (List.cons_ne_nil _ _) short
  change Operation.Hands secondOfPair (.prepare "q") entry at hands
  cases hands with
  | prepare database size =>
    obtain rfl : (⟨2⟩ : Database) = _ := Except.ok.inj database
    exact ⟨_, _, size, first⟩

/-- A name that is refused closes a connection, and a text that is too large is not prepared. -/
theorem refused_name_closes_connection :
    Reachable pairWorld ∧
      (refusedName.report.result matches
        .error (.operation (.infrastructure (.marshal (.interiorNul 1))))) ∧
      Transcript.calls refusedName.entries = [(.closeV2, [.database ⟨1⟩])] ∧
      (secondOfPair.prepare (repeated 2147483647)).run.run pairWorld =
        (.error (.ofCodec (.tooLarge 2147483647)), pairWorld) := by
  have free : NulFree (repeated 2147483647) := by
    unfold NulFree
    rw [encode_repeated]
    exact fun mem => absurd (List.eq_of_mem_replicate mem) (by decide)
  have length : (Utf8.encode (repeated 2147483647)).length = 2147483647 := by
    rw [encode_repeated, List.length_replicate]
  have large : (secondOfPair.prepare (repeated 2147483647)).run.run pairWorld =
      (.error (.ofCodec (.tooLarge (Utf8.encode (repeated 2147483647)).length)), pairWorld) :=
    Operation.prepare_of_tooLong (d := ⟨2⟩) rfl free (Nat.le_of_eq length.symm)
  rw [length] at large
  exact ⟨(Reachable.begin _).steps 1 _, by decide +kernel, by decide +kernel, large⟩

end EngineBridge.Session
