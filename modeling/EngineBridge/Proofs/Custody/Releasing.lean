import EngineBridge.Proofs.Custody.Diagnosing
import EngineBridge.Proofs.Custody.Tracking

/-!
# Objects that are released

An object that the engine has handed out for a connection is on its way to one, or belongs
to a connection that is held, or was told to be closed.  An object behind a statement is let
go at most once, since all calls are lawful.
-/

set_option autoImplicit false

namespace EngineBridge

open Native

variable {E : Engine} {H : Host}

/-- The engine was told to close an object, whatever it answered. -/
def ToldToClose (d : Database) (log : List Entry) : Prop :=
  ∃ code, Entry.called (.closeV2 d) code ∈ log

/-- How often the engine was told to let the object behind a statement go. -/
def finalizations (p : Program) (log : List Entry) : Nat :=
  log.countP fun entry => entry.finalizes = some p

/-- An object that the engine was told to close stays one. -/
theorem ToldToClose.mono {d : Database} {log log' : List Entry} (h : ToldToClose d log)
    (sub : log ⊆ log') : ToldToClose d log' := by
  obtain ⟨code, hmem⟩ := h
  exact ⟨code, sub hmem⟩

/-! ## Connections -/

/-- An object is on its way to a connection, or that of a connection that is held, or it was
told to be closed. -/
def Stage.Keeps (s : Stage E H) (d : Database) : Prop :=
  s.custody.opening = some d ∨ (∃ x ∈ s.held, x.database = .ok d) ∨
    ToldToClose d s.world.transcript

/-- No object that the engine has handed out for a connection is forgotten. -/
def Stage.Remembers (s : Stage E H) : Prop :=
  ∀ entry ∈ s.world.transcript, ∀ d, entry.allots = some d → s.Keeps d

section Moves

variable {s s' : Stage E H} {d : Database}

/-- The transcript only grows. -/
theorem Move.transcript_subset (move : Move s s') :
    s.world.transcript ⊆ s'.world.transcript := by
  cases move with
  | note | call | began | allocate | abandon | adopt | close | refuseClose | prepare | reset
  | step | finalize | installFunction | removeFunction | settle | refuseBusy =>
    exact List.subset_cons_self _ _
  | _ => exact List.Subset.refl _

/-- An object that is handed out is on its way to a connection. -/
theorem Move.opening_of_allots (move : Move s s') {entry : Entry}
    (he : entry ∈ s'.world.transcript) (allots : entry.allots = some d) :
    entry ∈ s.world.transcript ∨ s'.custody.opening = some d := by
  -- an entry that hands out nothing is not the one in question
  have earlier {latest : Entry} {log : List Entry} (none : latest.allots = none)
      (hmem : entry ∈ latest :: log) : entry ∈ log := by
    rcases List.mem_cons.mp hmem with rfl | hmem
    · rw [none] at allots
      cases allots
    · exact hmem
  cases move with
  | note hn => exact .inl (earlier hn.neutral.allots he)
  | call plain => exact .inl (earlier plain.neutral.allots he)
  | allocate =>
    rcases List.mem_cons.mp he with rfl | he
    · exact .inr allots
    · exact .inl he
  | began | abandon | adopt | close | refuseClose | prepare | reset | step | finalize
  | installFunction | removeFunction | settle | refuseBusy => exact .inl (earlier rfl he)
  | _ => exact .inl he

/-- An object on its way to a connection arrives there, or is told to be closed. -/
theorem Move.keeps_opening (move : Move s s') (opening : s.custody.opening = some d) :
    s'.Keeps d := by
  cases move with
  | allocate idle => cases idle.symm.trans opening
  | @abandon κ w other hother =>
    obtain rfl : other = d := Option.some.inj (hother.symm.trans opening)
    exact .inr (.inr ⟨_, List.mem_cons_self⟩)
  | @adopt κ w x rest other path hother =>
    obtain rfl : other = d := Option.some.inj (hother.symm.trans opening)
    exact .inr (.inl ⟨_, Stage.mem_held_of_exclusive (Multiset.mem_cons_self _ _), rfl⟩)
  | _ => exact .inl opening

/-- A connection that is open stays so, unless it is told to be closed. -/
theorem Move.keeps_held (move : Move s s') {x : Connection} (hx : x ∈ s.held)
    (database : x.database = .ok d) : s'.Keeps d := by
  have stays (hx' : x ∈ s'.held) : s'.Keeps d := .inr (.inl ⟨x, hx', database⟩)
  cases move.evolves with
  | same held => exact stays (held ▸ hx)
  | created held => exact stays (held ▸ Multiset.mem_cons_of_mem hx)
  | opened before unopened held =>
    rw [before] at hx
    rcases Multiset.mem_cons.mp hx with rfl | hx
    · have live := (Connection.database_eq_ok_iff.mp database).1
      cases unopened.symm.trans live
    · exact stays (held ▸ Multiset.mem_cons_of_mem hx)
  | closed before hdatabase held connections target transcript =>
    rw [before] at hx
    rcases Multiset.mem_cons.mp hx with rfl | hx
    · obtain rfl := Except.ok.inj (hdatabase.symm.trans database)
      exact .inr (.inr ⟨0, transcript ▸ List.mem_cons_self⟩)
    · exact stays (held ▸ Multiset.mem_cons_of_mem hx)
  | discarded before tried connections target transcript =>
    rw [before] at hx
    rcases Multiset.mem_cons.mp hx with rfl | hx
    · exact .inr (.inr (transcript ▸ tried d database))
    · exact stays hx

/-- Moves forget no object that the engine has handed out for a connection. -/
theorem Move.remembers (move : Move s s') (h : s.Remembers) : s'.Remembers := by
  intro entry he d allots
  rcases move.opening_of_allots he allots with he | opening
  · rcases h entry he d allots with opening | ⟨x, hx, database⟩ | told
    · exact move.keeps_opening opening
    · exact move.keeps_held hx database
    · exact .inr (.inr (told.mono move.transcript_subset))
  · exact .inl opening

end Moves

/-- An object that the engine has agreed to close is gone. -/
theorem Native.gone_of_closes {d : Database} {log : List Entry} {entry : Entry}
    (hmem : entry ∈ log) (closes : entry.closes = some (d, 0)) : Gone d log := by
  induction log with
  | nil => cases hmem
  | cons latest earlier ih =>
    rcases List.mem_cons.mp hmem with rfl | hmem
    · exact .inl ⟨0, closes, .inl rfl⟩
    · exact .inr (ih hmem)

/-- A connection is told to be closed if the engine has handed out its object, and not any
more once the engine has agreed. -/
def ClosesOnce (entry : Entry) (earlier : List Entry) : Prop :=
  ∀ d code, entry.closes = some (d, code) →
    (∃ other ∈ earlier, other.allots = some d) ∧ ∀ other ∈ earlier, other.closes ≠ some (d, 0)

/-- Lawful calls close each object at most once. -/
theorem Lawful.closesOnce {entry : Entry} {earlier : List Entry} (h : Lawful entry earlier) :
    ClosesOnce entry earlier := by
  intro d code closes
  have named := mem_operands_of_closes closes
  refine ⟨h.allotted d named, ?_⟩
  intro other ho agreed
  exact h.kept d named (gone_of_closes ho agreed)

/-! ## Statements -/

section Statements

variable {p : Program} {log : List Entry}

/-- An object that was never let go is one that was let go no times. -/
theorem finalizations_eq_zero_iff :
    finalizations p log = 0 ↔ ∀ entry ∈ log, entry.finalizes ≠ some p := by
  simp only [finalizations, List.countP_eq_zero, decide_eq_true_eq, ne_eq]

/-- Lawful calls let the object behind a statement go at most once. -/
theorem finalizations_le_one (lawful : Throughout Lawful log) : finalizations p log ≤ 1 := by
  induction log with
  | nil => exact Nat.zero_le 1
  | cons entry earlier ih =>
    have before := ih lawful.before
    unfold finalizations at before ⊢
    rw [List.countP_cons]
    split
    · next latest =>
      have unfinalized := lawful.now.unfinalized p
        (mem_operands_of_finalizes (of_decide_eq_true latest))
      have none : List.countP (fun entry => entry.finalizes = some p) earlier = 0 :=
        finalizations_eq_zero_iff.mpr unfinalized
      omega
    · exact before

/-- An object that was let go was let go once. -/
theorem finalizations_eq_one (lawful : Throughout Lawful log) {entry : Entry}
    (hmem : entry ∈ log) (finalizes : entry.finalizes = some p) : finalizations p log = 1 := by
  have most := finalizations_le_one (p := p) lawful
  have some : finalizations p log ≠ 0 := fun zero =>
    finalizations_eq_zero_iff.mp zero entry hmem finalizes
  omega

end Statements

/-! ## Failures to open -/

/-- Of the objects that the engine has handed out between two worlds, at most one is left that
was not told to be closed. -/
def World.Leaves (left : Option Database) (w w' : World E H) : Prop :=
  ∃ more, w'.transcript = more ++ w.transcript ∧
    ∀ entry ∈ more, ∀ d, entry.allots = some d → left = some d ∨ ToldToClose d more

namespace World

variable {w w₁ w₂ : World E H} {left left' : Option Database}

/-- Where nothing happens no object is left. -/
theorem Leaves.refl (w : World E H) : w.Leaves none w :=
  ⟨[], rfl, by simp⟩

/-- The object that is left may be passed on or told to be closed. -/
theorem Leaves.append (h : w.Leaves left w₁) (more : List Entry)
    (transcript : w₂.transcript = more ++ w₁.transcript)
    (quiet : ∀ entry ∈ more, entry.allots = none)
    (next : ∀ d, left = some d → left' = some d ∨ ToldToClose d more) : w.Leaves left' w₂ := by
  obtain ⟨before, heq, told⟩ := h
  refine ⟨more ++ before, by rw [transcript, heq, List.append_assoc], fun entry he d allots => ?_⟩
  rcases List.mem_append.mp he with he | he
  · cases (quiet entry he).symm.trans allots
  · rcases told entry he d allots with hleft | htold
    · exact (next d hleft).imp_right fun h => h.mono (List.subset_append_left _ _)
    · exact .inr (htold.mono (List.subset_append_right _ _))

/-- What an attempt to open a database hands out is left. -/
theorem leaves_openV2 (w : World E H) (path : CString) (flags : Int32) (vfs : Option CString) :
    w.Leaves ((w.announced (.openV2 path flags vfs)).answer (.openV2 path flags vfs)).database
      (w.called (.openV2 path flags vfs)) := by
  refine ⟨[.called _ _, .reported _], rfl, fun entry he d allots => .inl ?_⟩
  rcases List.mem_cons.mp he with rfl | he
  · exact allots
  · rw [List.mem_singleton.mp he] at allots
    cases allots

/-- A diagnosis hands out nothing. -/
theorem Leaves.diagnosed (h : w.Leaves left w₁) (database : Option Database) (symbol : Symbol)
    (code : Int32) : w.Leaves left (w₁.diagnosed database symbol code) := by
  cases database with
  | none =>
    exact h.append [.reported _, .called (.errstr code) _] rfl (by simp [Entry.allots])
      fun _ => .inl
  | some d =>
    exact h.append [.reported _, .called (.errmsg d) _] rfl (by simp [Entry.allots])
      fun _ => .inl

/-- A call that hands out nothing leaves what was left before. -/
theorem Leaves.called (h : w.Leaves left w₁) (c : Call)
    (quiet : ∀ a, (Entry.called c a).allots = none) : w.Leaves left (w₁.called c) :=
  h.append [.called c _, .reported _] rfl
    (List.forall_mem_cons.mpr ⟨quiet _, by simp [Entry.allots]⟩) fun _ => .inl

/-- Nothing is left once it has been told to be closed. -/
theorem Leaves.closed {d : Database} (h : w.Leaves (some d) w₁) :
    w.Leaves none (w₁.called (.closeV2 d)) := by
  refine h.append [.called (.closeV2 d) _, .reported _] rfl (by simp [Entry.allots]) ?_
  intro other heq
  obtain rfl := Option.some.inj heq
  exact .inr ⟨_, List.mem_cons_self⟩

end World

namespace Connection

/-- An attempt to open a database leaves the object that it gives, and no other. -/
theorem leaves_openDatabase {file : CString} {flags : OpenFlags} {vfs : Option CString}
    {w w' : World E H} {r : Except BindError Database}
    (run : (openDatabase file flags vfs).run.run w = (r, w')) : w.Leaves r.toOption w' := by
  have made := w.leaves_openV2 file flags.bits vfs
  rw [openDatabase_run] at run
  dsimp only at run
  generalize w.called (.openV2 file flags.bits vfs) = v at made run
  generalize (w.announced (.openV2 file flags.bits vfs)).answer (.openV2 file flags.bits vfs) =
    answer at made run
  obtain ⟨code, database⟩ := answer
  split at run
  · cases database with
    | none => cases run; exact made
    | some d => cases run; exact made
  · have diagnosed := made.diagnosed database .openV2 code
    cases database with
    | none => cases run; exact diagnosed
    | some d => cases run; exact diagnosed.closed

/-- A new object whose busy timeout cannot be set is told to be closed. -/
theorem leaves_applyTimeout_error {d : Database} {ms : UInt32} {w v v' : World E H}
    {e : BindError} (made : w.Leaves (some d) v)
    (run : (applyTimeout d ms).run.run v = (.error e, v')) : w.Leaves none v' := by
  have set := made.called (.busyTimeout d (nativeMilliseconds ms)) fun _ => rfl
  rw [applyTimeout_run] at run
  dsimp only at run
  split at run
  · cases run
  · cases run
    exact (set.diagnosed (some d) .busyTimeout _).closed

/-- An attempt to acquire an object that fails leaves no object behind. -/
theorem leaves_acquire_error {conn : Connection} {path : String} {options : OpenOptions}
    {w w' : World E H} {e : BindError}
    (run : (conn.acquire path options).run.run w = (.error e, w')) : w.Leaves none w' := by
  unfold acquire at run
  split at run
  · cases run
    exact .refl w
  · cases run
    exact .refl w
  · rcases Fallible.run_bind_error run with failed | ⟨strings, w₁, converted, run⟩
    · obtain rfl := Fallible.ofExcept_run failed
      exact .refl w'
    · obtain rfl := Fallible.ofExcept_run converted
      obtain ⟨file, vfs⟩ := strings
      rcases Fallible.run_bind_error run with failed | ⟨d, w₂, made, run⟩
      · exact leaves_openDatabase failed
      · have left := leaves_openDatabase made
        split at run
        · cases run
        · rcases Fallible.run_bind_error run with failed | ⟨_, _, _, run⟩
          · exact leaves_applyTimeout_error left failed
          · cases run

/-- A failure to open a connection leaves no object behind. -/
theorem leaves_openWith_error {conn after : Connection} {path : String} {options : OpenOptions}
    {w w' : World E H} {e : BindError}
    (run : (conn.openWith path options).run w = ((.error e, after), w')) :
    w.Leaves none w' := by
  cases hacquire : (conn.acquire path options).run.run w with
  | mk r v =>
    unfold openWith at run
    rw [Bridge.run_bind_of_run hacquire] at run
    cases r with
    | error e' =>
      cases run
      exact leaves_acquire_error hacquire
    | ok d => cases run

/-- A failure to create a connection that is open leaves no object behind. -/
theorem leaves_connectWith_error {path : String} {options : OpenOptions} {w w' : World E H}
    {e : BindError} (run : (connectWith path options).run.run w = (.error e, w')) :
    w.Leaves none w' := by
  let conn : Connection := { id := ⟨w.connections + 1⟩ }
  let v : World E H := { w with connections := w.connections + 1 }
  have created : (Fallible.lift create : Fallible E H Connection).run.run w = (.ok conn, v) := rfl
  cases hopen : (conn.openWith path options).run v with
  | mk ran v' =>
    obtain ⟨r, after⟩ := ran
    unfold connectWith at run
    rw [Fallible.run_bind_of_run created,
      Fallible.run_bind_of_run (Fallible.lift_run_of_run hopen)] at run
    cases r with
    | ok => cases run
    | error e' =>
      -- a connection that is not open has nothing to let go
      have left : v.Leaves none v' := leaves_openWith_error hopen
      obtain ⟨rfl, -⟩ := openWith_error hopen
      cases run
      exact left

end Connection

end EngineBridge
