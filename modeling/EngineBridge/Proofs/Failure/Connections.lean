import EngineBridge.Proofs.Failure.Course

/-!
# Operations on connections answer for their failures

Every operation on a connection ends with the engine error of the native call that failed, if
there was one, and with no other engine error.
-/

set_option autoImplicit false

namespace EngineBridge

open Native

variable {E : Engine} {H : Host} {cb : Callbacks E H} {roll : Roster}
  {w : World E H}

/-! ## Connections that go out of use -/

/-- These connections may all go out of use. -/
def Roster.Covers (roll : Roster) (conns : Multiset Connection) : Prop :=
  ∀ conn ∈ conns, roll.leaving conn

/-- What a closure owns may go out of use. -/
theorem Roster.covers_singleton {r : Registration H}
    (owned : ∀ conn, r.owned = some conn → roll.leaving conn) : roll.Covers (capturedBy [r]) := by
  intro conn hconn
  apply owned conn
  simpa [capturedBy] using hconn

namespace Roster.Covers

variable {r : Registry H} (covers : roll.Covers r.captured) (key : FunctionKey)

include covers

/-- What the closure in a slot owns is covered with the registry. -/
theorem find? : roll.Covers (capturedBy (r.find? key).toList) := by
  intro conn hconn
  apply covers conn
  rw [Registry.captured_erase r key]
  exact Multiset.mem_add.mpr (.inl hconn)

/-- What the closures in the other slots own is covered with the registry. -/
theorem erase : roll.Covers (r.erase key).captured := by
  intro conn hconn
  apply covers conn
  rw [Registry.captured_erase r key]
  exact Multiset.mem_add.mpr (.inr hconn)

/-- What the closures of a connection own is covered with the registry. -/
theorem ownedBy (owner : ConnectionId) : roll.Covers (capturedBy (r.ownedBy owner)) := by
  intro conn hconn
  apply covers conn
  rw [Registry.captured_eraseOwner r owner]
  exact Multiset.mem_add.mpr (.inl hconn)

/-- One more closure may own a connection that is covered. -/
theorem insert {registration : Registration H} (new : roll.Covers (capturedBy [registration])) :
    roll.Covers (r.insert key registration).captured := by
  intro conn hconn
  rw [Registry.captured_insert, Multiset.mem_add] at hconn
  rcases hconn with kept | entered
  · exact covers.erase key conn kept
  · exact new conn entered

end Roster.Covers

/-- Closures own nothing more while connections are closed. -/
theorem World.Sheds.covers {w' : World E H} (sheds : w.Sheds w')
    (covers : roll.Covers w.registry.captured) : roll.Covers w'.registry.captured := by
  intro conn hconn
  obtain ⟨key, r, found, owned⟩ := Registry.mem_captured_iff.mp hconn
  rcases sheds.slot key with same | ⟨gone, -⟩
  · exact covers conn (Registry.mem_captured_iff.mpr ⟨key, r, same ▸ found, owned⟩)
  · rw [gone] at found
    cases found

namespace Accounts

variable {α β : Type} {errors : α → List EngineError}

/-- A computation that cannot fail, and another one in a world of which it is known what may go
out of use there. -/
theorem bind_covers {m : Bridge E H β} {f : β → Bridge E H α}
    (h : Accounts cb roll m w fun _ => []) (covers : roll.Covers (m w).2.registry.captured)
    (next : ∀ b w', roll.Covers w'.registry.captured → Accounts cb roll (f b) w' errors) :
    Accounts cb roll (m >>= f) w errors :=
  h.andThen (next _ _ covers)

/-- A computation that cannot fail, and one that can in a world of which it is known what may go
out of use there. -/
theorem run_lift_bind_covers {ε : Type} {engine : ε → Option EngineError} {m : Bridge E H β}
    {f : β → ExceptT ε (Bridge E H) α} (h : Accounts cb roll m w fun _ => [])
    (covers : roll.Covers (m w).2.registry.captured)
    (next : ∀ b w', roll.Covers w'.registry.captured →
      Accounts cb roll (f b).run w' (failures engine)) :
    Accounts cb roll ((ExceptT.lift m : ExceptT ε (Bridge E H) β) >>= f).run w
      (failures engine) := by
  rw [ExceptT.run_bind_lift]
  exact h.bind_covers covers next

end Accounts

namespace Connection

variable {dispose : List (Registration H) → Bridge E H Unit}

/-- A connection is closed, and the connections go that its closures own. -/
theorem course_closeWith_of_agreed {conn : Connection} {d : Database}
    (disposed : ∀ regs w, roll.Covers (capturedBy regs) → roll.Covers w.registry.captured →
      Accounts cb roll (dispose regs) w fun _ => [])
    (covers : roll.Covers w.registry.captured) (database : conn.database = .ok d)
    (done : (w.announced (.closeV2 d)).answer (.closeV2 d) = (0 : Int32)) :
    ∃ w', conn.closeWith dispose w =
        ((.ok (), { conn with state := .closed, handle := none }), w') ∧
      Course cb roll [] w w' := by
  have closed : Course cb roll [] w (w.called (.closeV2 d)) := by
    refine .called fun code answered => ?_
    exact (Option.some.inj answered).symm.trans done
  have gone : Course cb roll [] (w.called (.closeV2 d)) (w.letGo conn d) := .silent rfl rfl
  have rest := disposed _ _ (covers.ownedBy conn.id) ((w.sheds_letGo conn d).covers covers)
  refine ⟨_, closeWith_eq database done, ?_⟩
  exact (closed.andThen gone).andThen (rest.andThen (.remark trivial))

/-- A connection that is told to close answers for the failure to do so. -/
theorem accounts_closeWith
    (disposed : ∀ regs w, roll.Covers (capturedBy regs) → roll.Covers w.registry.captured →
      Accounts cb roll (dispose regs) w fun _ => [])
    (conn : Connection) (covers : roll.Covers w.registry.captured) :
    Accounts cb roll (conn.closeWith dispose) w fun r => failures BindError.asEngine r.1 := by
  unfold Accounts
  cases database : conn.database with
  | error e =>
    rw [closeWith_eq_of_error database]
    exact .refl w
  | ok d =>
    by_cases done : (w.announced (.closeV2 d)).answer (.closeV2 d) = (0 : Int32)
    · obtain ⟨w', run, course⟩ := course_closeWith_of_agreed disposed covers database done
      rw [run]
      exact course
    · rw [show conn.closeWith dispose w = _ from closeWith_run_of_refused database done]
      exact .refused (.closeV2 d) (some d) rfl done rfl

/-- Nobody waits for a connection to be closed that goes out of use. -/
theorem accounts_dropWith
    (disposed : ∀ regs w, roll.Covers (capturedBy regs) → roll.Covers w.registry.captured →
      Accounts cb roll (dispose regs) w fun _ => [])
    {conn : Connection} (leaving : roll.leaving conn) (covers : roll.Covers w.registry.captured) :
    Accounts cb roll (conn.dropWith dispose) w fun _ => [] := by
  unfold dropWith
  split
  · unfold Accounts
    cases database : conn.database with
    | error e =>
      rw [show (conn.closeWith dispose >>= _) w = _ from
        Bridge.run_bind_of_run (closeWith_eq_of_error database)]
      exact .remark rfl
    | ok d =>
      by_cases done : (w.announced (.closeV2 d)).answer (.closeV2 d) = (0 : Int32)
      · obtain ⟨w', run, course⟩ := course_closeWith_of_agreed disposed covers database done
        rw [show (conn.closeWith dispose >>= _) w = _ from Bridge.run_bind_of_run run]
        exact course
      · have announced : Course cb roll [] w (w.announced (.closeV2 d)) := .remark trivial
        rw [show (conn.closeWith dispose >>= _) w = _ from
          Bridge.run_bind_of_run (closeWith_run_of_refused database done)]
        exact announced.andThen (.unclosed leaving database rfl done)
  · exact .pure rfl

end Connection

namespace Bridge

/-- Nobody waits for the connections that go along with closures, however deep they reach. -/
theorem accounts_disposeTo (depth : Nat) (regs : List (Registration H)) (w : World E H)
    (going : roll.Covers (capturedBy regs)) (covers : roll.Covers w.registry.captured) :
    Accounts cb roll (disposeTo depth regs) w fun _ => [] := by
  induction depth generalizing regs w with
  | zero => exact .pure rfl
  | succ depth ih =>
    unfold disposeTo
    induction regs generalizing w with
    | nil => exact .pure rfl
    | cons r regs others =>
      -- what the first closure lets go is still allowed to go, and no more is captured than before
      rw [capturedBy_cons] at going
      have later : roll.Covers (capturedBy regs) := fun x hx =>
        going x (Multiset.mem_add.mpr (.inr hx))
      rw [List.forM_eq_forM, List.forM_cons]
      cases owned : r.owned with
      | none => exact others w later covers
      | some conn =>
        have leaving : roll.leaving conn := going conn (by simp [owned])
        have sheds := Connection.sheds_dropWith (E := E) (sheds_disposeTo depth) conn w
        have dropped : Accounts cb roll (conn.dropWith (disposeTo depth)) w fun _ => [] :=
          Connection.accounts_dropWith ih leaving covers
        exact dropped.bind_covers (sheds.covers covers) fun _ w' covers => others w' later covers

/-- Nobody waits for the connections that go along with closures. -/
theorem accounts_dispose (regs : List (Registration H)) (w : World E H)
    (going : roll.Covers (capturedBy regs)) (covers : roll.Covers w.registry.captured) :
    Accounts cb roll (dispose regs) w fun _ => [] :=
  accounts_disposeTo _ regs w going covers

/-- Nobody waits for the connection that goes along with a closure that is replaced. -/
theorem accounts_supersede (key : FunctionKey) {replaced : Option (Registration H)}
    (going : roll.Covers (capturedBy replaced.toList)) (covers : roll.Covers w.registry.captured) :
    Accounts cb roll (supersede key replaced) w fun _ => [] := by
  cases replaced with
  | none => exact .pure rfl
  | some r =>
    have reported : Course cb roll [] w (w.record (.reported (.replaced key.slot key.owner))) :=
      .remark trivial
    exact reported.andThen (accounts_dispose [r] _ going covers)

/-- Nobody waits for the connection that goes along with the closure in a slot when another one
takes its place. -/
theorem accounts_register (key : FunctionKey) {r : Registration H}
    (new : roll.Covers (capturedBy [r])) (covers : roll.Covers w.registry.captured) :
    Accounts cb roll (register key r) w fun _ => [] := by
  have filled : Course cb roll [] w (w.withRegistry (w.registry.insert key r)) := .silent rfl rfl
  exact filled.andThen (accounts_supersede key (covers.find? key) (covers.insert key new))

/-- Connections that closures own may go out of use after a closure is registered if those before
may and the new one may. -/
theorem covers_register (key : FunctionKey) {r : Registration H}
    (new : roll.Covers (capturedBy [r])) (covers : roll.Covers w.registry.captured) :
    roll.Covers ((register key r : Bridge E H Unit) w).2.registry.captured := by
  have sheds := sheds_supersede (E := E) key (w.registry.find? key)
    (w.withRegistry (w.registry.insert key r))
  exact sheds.covers (covers.insert key new)

/-- Nobody waits for the connection that goes along with the closure in a slot when the slot is
emptied. -/
theorem accounts_release (key : FunctionKey) (covers : roll.Covers w.registry.captured) :
    Accounts cb roll (release key : Bridge E H Unit) w fun _ => [] := by
  have emptied : Course cb roll [] w (w.withRegistry (w.registry.erase key)) := .silent rfl rfl
  exact emptied.andThen (accounts_dispose _ _ (covers.find? key) (covers.erase key))

end Bridge

/-! ## Connections that open -/

namespace Connection

variable (conn : Connection)

/-- A connection that is told to close answers for the failure to do so. -/
theorem accounts_close (covers : roll.Covers w.registry.captured) :
    Accounts cb roll conn.close w fun r => failures BindError.asEngine r.1 :=
  accounts_closeWith Bridge.accounts_dispose conn covers

/-- Nobody waits for a connection to be closed that goes out of use. -/
theorem accounts_drop (leaving : roll.leaving conn) (covers : roll.Covers w.registry.captured) :
    Accounts cb roll conn.drop w fun _ => [] :=
  accounts_dropWith Bridge.accounts_dispose leaving covers

/-- A connection that is not open goes without a trace. -/
theorem accounts_drop_of_not_opened (h : conn.state ≠ .opened) :
    Accounts cb roll conn.drop w fun _ => [] := by
  unfold drop dropWith
  rw [if_neg h]
  exact .pure rfl

/-- An attempt to open a database is diagnosed by the object that was made, if there is one,
and that object is closed. -/
theorem accounts_openDatabase (file : CString) (flags : OpenFlags) (vfs : Option CString) :
    Accounts cb roll (openDatabase file flags vfs : Fallible E H Database).run w
      (failures BindError.asEngine) := by
  have run := openDatabase_run (E := E) (H := H) file flags vfs w
  unfold Accounts
  rw [show (openDatabase file flags vfs).run w = _ from run]
  by_cases done : ((w.announced (.openV2 file flags.bits vfs)).answer
      (.openV2 file flags.bits vfs)).code = 0
  · have opened : Course cb roll [] w (w.called (.openV2 file flags.bits vfs)) := by
      refine .called fun code answered => ?_
      exact (Option.some.inj answered).symm.trans done
    simp only [if_pos done]
    split <;> exact opened
  · have failed : Course cb roll _ w _ := .refused (.openV2 file flags.bits vfs) _ rfl done rfl
    simp only [if_neg done]
    split
    · next d made =>
      exact .abandoned failed (List.cons_ne_nil _ _)
        ((made_called made).grown (exists_diagnosed_transcript _ _ _ _))
    · exact failed

/-- What has been opened is the object in the answer to the call. -/
theorem openDatabase_run_ok {file : CString} {flags : OpenFlags} {vfs : Option CString}
    {d : Database} {w' : World E H}
    (run : (openDatabase file flags vfs).run.run w = (.ok d, w')) :
    ((w.announced (.openV2 file flags.bits vfs)).answer (.openV2 file flags.bits vfs)).database =
        some d ∧ w' = w.called (.openV2 file flags.bits vfs) := by
  rw [openDatabase_run] at run
  dsimp only at run
  split at run
  · split at run
    · next made =>
      cases run
      exact ⟨made, rfl⟩
    · cases run
  · cases run

/-- An object of which the busy timeout cannot be set is closed again. -/
theorem course_applyTimeout {w₁ : World E H} {d : Database} (ms : UInt32)
    (opened : Course cb roll [] w w₁) (made : Made w w₁ d) :
    Course cb roll (failures BindError.asEngine ((applyTimeout d ms).run.run w₁).1) w
      ((applyTimeout d ms).run.run w₁).2 := by
  rw [applyTimeout_run]
  by_cases done : (w₁.announced (.busyTimeout d (nativeMilliseconds ms))).answer
      (.busyTimeout d (nativeMilliseconds ms)) = (0 : Int32)
  · simp only [if_pos done]
    refine opened.andThen (.called fun code answered => ?_)
    exact (Option.some.inj answered).symm.trans done
  · have refused : Course cb roll _ w₁ _ :=
      .refused (.busyTimeout d (nativeMilliseconds ms)) (some d) rfl done rfl
    have called : ∃ more, (w₁.called (.busyTimeout d (nativeMilliseconds ms))).transcript =
        more ++ w₁.transcript := ⟨[_, _], rfl⟩
    simp only [if_neg done]
    exact .abandoned (opened.andThen refused) (List.cons_ne_nil _ _)
      ((made.grown called).grown (exists_diagnosed_transcript _ _ _ _))

/-- An object that cannot be used is closed again. -/
theorem accounts_acquire (path : String) (options : OpenOptions) :
    Accounts cb roll (conn.acquire path options : Fallible E H Database).run w
      (failures BindError.asEngine) := by
  unfold acquire
  split
  · exact .run_throw rfl
  · exact .run_throw rfl
  · refine .run_ofExcept_bind (fun _ => rfl) fun (file, vfs) _ => ?_
    have opened : Accounts cb roll (openDatabase file options.flags vfs).run w
        (failures BindError.asEngine) := accounts_openDatabase file options.flags vfs
    unfold Accounts at opened ⊢
    rw [ExceptT.run_bind]
    cases run : (openDatabase file options.flags vfs).run w with
    | mk r w₁ =>
      rw [run] at opened
      rw [show ((openDatabase file options.flags vfs).run >>= _) w = _ from
        Bridge.run_bind_of_run run]
      cases r with
      | error e => exact opened
      | ok d =>
        obtain ⟨made, rfl⟩ := openDatabase_run_ok run
        dsimp only
        split
        · exact opened
        · next ms _ =>
          have limited := course_applyTimeout ms opened (made_called made)
          rw [ExceptT.run_bind]
          cases run : (applyTimeout d ms).run.run
              (w.called (.openV2 file options.flags.bits vfs)) with
          | mk r w₂ =>
            rw [run] at limited
            rw [Bridge.run_bind_of_run run]
            cases r <;> exact limited

/-- Creating a connection is no failure of the engine. -/
theorem accounts_create : Accounts cb roll (create : Bridge E H Connection) w fun _ => [] :=
  .bind (.modifyGet rfl rfl) fun _ _ => .pure rfl

/-- Opening fails by the engine just when asking for the database does, or setting its timeout. -/
theorem accounts_openWith (path : String) (options : OpenOptions) :
    Accounts cb roll (conn.openWith path options) w fun r => failures BindError.asEngine r.1 := by
  have acquired : Accounts cb roll (conn.acquire path options).run w
      (failures BindError.asEngine) := conn.accounts_acquire path options
  unfold Accounts at acquired ⊢
  unfold openWith
  cases run : (conn.acquire path options).run w with
  | mk r w₁ =>
    rw [run] at acquired
    rw [show ((conn.acquire path options).run >>= _) w = _ from Bridge.run_bind_of_run run]
    cases r with
    | error e => exact acquired
    | ok d =>
      have armed : Course cb roll [] w₁ (Bridge.arm conn.id d w₁).2 := .silent rfl rfl
      exact (acquired.andThen armed).andThen (.remark trivial)

/-- Creating a connection and opening it fails by the engine just when opening does. -/
theorem accounts_connectWith (path : String) (options : OpenOptions) :
    Accounts cb roll (connectWith path options : Fallible E H Connection).run w
      (failures BindError.asEngine) := by
  refine .run_bind (.run_lift accounts_create) fun conn w₁ created => ?_
  have unopened : conn.state ≠ .opened := by
    cases created
    nofun
  have opened : Accounts cb roll (conn.openWith path options) w₁
      fun r => failures BindError.asEngine r.1 := conn.accounts_openWith path options
  unfold Accounts at opened ⊢
  unfold Fallible.lift
  rw [ExceptT.run_bind_lift]
  cases run : (conn.openWith path options) w₁ with
  | mk r w₂ =>
    rw [run] at opened
    rw [show (conn.openWith path options >>= _) w₁ = _ from Bridge.run_bind_of_run run]
    obtain ⟨result, after⟩ := r
    cases result with
    | error e =>
      obtain ⟨rfl, -, -⟩ := openWith_error run
      exact opened.followed (accounts_drop_of_not_opened _ unopened)
    | ok => exact opened

/-! ## What an open connection is asked to do -/

/-- What is done with the object of a connection is done if the connection is open. -/
theorem accounts_live {α : Type} {f : Database → Fallible E H α}
    (h : ∀ d, conn.database = .ok d → Accounts cb roll (f d).run w (failures BindError.asEngine)) :
    Accounts cb roll (conn.live >>= f).run w (failures BindError.asEngine) :=
  .run_ofExcept_bind (fun _ => rfl) h

/-- A call after which a slot is emptied fails with the code in its answer. -/
theorem accounts_succeed_release {d : Database} {c : Call} {code : c.Answer → Int32}
    (key : FunctionKey) (answered : ∀ answer, c.resultCode answer = some (code answer))
    (informed : ∀ answer, c.Informed roll.home answer (some d))
    (covers : roll.Covers w.registry.captured) :
    Accounts cb roll (do
      Fallible.succeed (some d) c code
      Fallible.lift (Bridge.release key) : Fallible E H Unit).run w
        (failures BindError.asEngine) := by
  refine .run_bind (.run_succeed answered informed) fun _ w' run => ?_
  have covers' : roll.Covers w'.registry.captured := by
    rw [(Fallible.succeed_registry run).1]
    exact covers
  exact .run_lift (Bridge.accounts_release key covers')

/-- Setting the busy timeout answers for the failure to do so. -/
theorem accounts_setBusyTimeout (ms : UInt32) (covers : roll.Covers w.registry.captured) :
    Accounts cb roll (conn.setBusyTimeout ms : Fallible E H Unit).run w
      (failures BindError.asEngine) :=
  conn.accounts_live fun _ _ =>
    accounts_succeed_release _ (fun _ => rfl) (fun _ => rfl) covers

/-- A busy timeout that is set between two notes answers for the failure to do so. -/
theorem accounts_busyTimeout (ms : UInt32) (covers : roll.Covers w.registry.captured) :
    Accounts cb roll (conn.busyTimeout ms : Fallible E H Unit).run w
      (failures BindError.asEngine) :=
  .run_noted (conn.accounts_setBusyTimeout ms covers)

/-- Telling the engine to ask no busy handler answers for the failure to do so. -/
theorem accounts_uninstallBusyHandler (covers : roll.Covers w.registry.captured) :
    Accounts cb roll (conn.uninstallBusyHandler : Fallible E H Unit).run w
      (failures BindError.asEngine) :=
  conn.accounts_live fun _ _ =>
    accounts_succeed_release _ (fun _ => rfl) (fun _ => rfl) covers

/-- Removing the busy handler between two notes answers for the failure to do so. -/
theorem accounts_clearBusyHandler (covers : roll.Covers w.registry.captured) :
    Accounts cb roll (conn.clearBusyHandler : Fallible E H Unit).run w
      (failures BindError.asEngine) :=
  .run_noted (conn.accounts_uninstallBusyHandler covers)

/-- Installing a busy handler answers for the failure to do so; the handler goes again then, with
what it owns. -/
theorem accounts_installBusyHandler {handler : Closure H.Handler}
    (new : roll.Covers (capturedBy [Registration.busy handler]))
    (covers : roll.Covers w.registry.captured) :
    Accounts cb roll (conn.installBusyHandler handler : Fallible E H Unit).run w
      (failures BindError.asEngine) := by
  unfold installBusyHandler
  split
  · exact .run_lift_bind (Bridge.accounts_dispose _ w new covers) fun _ _ => .run_throw rfl
  · next d _ =>
    have registered := Bridge.covers_register (E := E) ⟨conn.id, .busyHandler⟩ new covers
    refine .run_lift_bind_covers (Bridge.accounts_register _ new covers) registered ?_
    intro _ w₁ covers₁
    refine .run_tryCatch_throw (.run_succeed (fun _ => rfl) fun _ => rfl) fun e w₂ run => ?_
    apply Bridge.accounts_release
    rw [(Fallible.succeed_registry run).1]
    exact covers₁

/-- Registering a busy handler between two notes answers for the failure to do so. -/
theorem accounts_registerBusyHandler {handler : Closure H.Handler}
    (new : roll.Covers (capturedBy [Registration.busy handler]))
    (covers : roll.Covers w.registry.captured) :
    Accounts cb roll (conn.registerBusyHandler handler : Fallible E H Unit).run w
      (failures BindError.asEngine) :=
  .run_noted (conn.accounts_installBusyHandler new covers)

/-- Having a function accepted answers for the failure to do so. -/
theorem accounts_announceFunction (name : String) (arity : Int32) (flags : FunctionFlags) :
    Accounts cb roll (conn.announceFunction name arity flags : Fallible E H Unit).run w
      (failures BindError.asEngine) := by
  refine conn.accounts_live fun d _ => ?_
  refine .run_ofExcept_bind (fun _ => rfl) fun text _ => ?_
  exact .run_succeed (fun _ => rfl) fun _ => rfl

/-- Installing a function answers for the failure to have it accepted; the function goes then,
with what it owns. -/
theorem accounts_installFunction (name : String) (arity : Int32) (flags : FunctionFlags)
    {function : Closure H.Function}
    (new : roll.Covers (capturedBy [Registration.function function]))
    (covers : roll.Covers w.registry.captured) :
    Accounts cb roll (conn.installFunction name arity flags function : Fallible E H Unit).run w
      (failures BindError.asEngine) := by
  have announced {r : Except BindError Unit} {w' : World E H}
      (run : (conn.announceFunction name arity flags).run.run w = (r, w')) :
      roll.Covers w'.registry.captured := by
    have asked : AskedBy Call.Columnless w w' := by
      rw [show w' = _ from (congrArg Prod.snd run).symm]
      exact conn.asks_announceFunction name arity flags w
    rw [asked.registry_eq]
    exact covers
  refine .run_bind (.run_tryCatch_throw (conn.accounts_announceFunction name arity flags) ?_) ?_
  · exact fun _ w' run => Bridge.accounts_dispose _ w' new (announced run)
  · intro _ w' run
    have covers' := announced (Fallible.run_tryCatch_ok run)
    exact .run_lift (Bridge.accounts_register _ new covers')

/-- Registering a function between two notes answers for the failure to do so. -/
theorem accounts_registerFunction (name : String) (arity : Int32) (flags : FunctionFlags)
    {function : Closure H.Function}
    (new : roll.Covers (capturedBy [Registration.function function]))
    (covers : roll.Covers w.registry.captured) :
    Accounts cb roll (conn.registerFunction name arity flags function : Fallible E H Unit).run w
      (failures BindError.asEngine) :=
  .run_noted (conn.accounts_installFunction name arity flags new covers)

/-- Having a function dropped answers for the failure to do so. -/
theorem accounts_uninstallFunction (name : String) (arity : Int32)
    (covers : roll.Covers w.registry.captured) :
    Accounts cb roll (conn.uninstallFunction name arity : Fallible E H Unit).run w
      (failures BindError.asEngine) := by
  refine conn.accounts_live fun d _ => ?_
  refine .run_ofExcept_bind (fun _ => rfl) fun text _ => ?_
  exact accounts_succeed_release _ (fun _ => rfl) (fun _ => rfl) covers

/-- Removing a function between two notes answers for the failure to do so. -/
theorem accounts_removeFunction (name : String) (arity : Int32)
    (covers : roll.Covers w.registry.captured) :
    Accounts cb roll (conn.removeFunction name arity : Fallible E H Unit).run w
      (failures BindError.asEngine) :=
  .run_noted (conn.accounts_uninstallFunction name arity covers)

/-- Asking for the number of changes is no failure of the engine. -/
theorem accounts_changes : Accounts cb roll (conn.changes : Fallible E H Int32).run w
    (failures BindError.asEngine) :=
  conn.accounts_live fun _ _ => .run_lift (.call fun _ => rfl)

/-- Asking for the number of all changes is no failure of the engine. -/
theorem accounts_totalChanges : Accounts cb roll (conn.totalChanges : Fallible E H Int32).run w
    (failures BindError.asEngine) :=
  conn.accounts_live fun _ _ => .run_lift (.call fun _ => rfl)

/-- Asking for a limit, or setting it, is no failure of the engine. -/
theorem accounts_limit (limit : Limit) (value : Int32) :
    Accounts cb roll (conn.limit limit value : Fallible E H Int32).run w
      (failures BindError.asEngine) :=
  conn.accounts_live fun _ _ => .run_lift (.call fun _ => rfl)

/-- Asking for the latest message is no failure of the engine. -/
theorem accounts_errmsg : Accounts cb roll (conn.errmsg : Fallible E H String).run w
    (failures BindError.asEngine) :=
  conn.accounts_live fun _ _ => .run_lift_bind (.call fun _ => rfl) fun _ _ => .run_requiredString

/-- Switching extensions on or off fails by the engine just when its call does. -/
theorem accounts_enableLoadExtension (on : Bool) :
    Accounts cb roll (conn.enableLoadExtension on : Fallible E H Unit).run w
      (failures BindError.asEngine) :=
  conn.accounts_live fun _ _ => .run_succeed (fun _ => rfl) fun _ => rfl

/-- Preparing fails by the engine just when its call does. -/
theorem accounts_prepare (sql : String) :
    Accounts cb roll (conn.prepare sql : Fallible E H Statement).run w
      (failures BindError.asEngine) := by
  refine conn.accounts_live fun d _ => ?_
  refine .run_ofExcept_bind (fun _ => rfl) fun text _ => ?_
  refine .run_ofExcept_bind (fun _ => rfl) fun size _ => ?_
  refine .run_bind (.run_checked (fun _ => rfl) fun _ => rfl) ?_
  rintro ⟨code, program, tail⟩ w₁ -
  have reported (first : String) (v : World E H) : Accounts cb roll
      (Bridge.report (.prepared conn.id first) : Bridge E H Unit) v fun _ => [] := .record trivial
  have ignored (rest : String) (v : World E H) : Accounts cb roll
      (Bridge.report (.restIgnored rest) : Bridge E H Unit) v fun _ => [] := .record trivial
  cases program with
  | none => exact .run_throw rfl
  | some p =>
    simp only
    split
    · exact .run_lift_bind (ignored _ _) fun _ _ =>
        .run_lift_bind (reported _ _) fun _ _ => .run_pure _
    · exact .run_lift_bind (reported _ _) fun _ _ => .run_pure _

/-- Interrupting is no failure of the engine. -/
theorem accounts_interrupt (id : ConnectionId) :
    Accounts cb roll (interrupt id : Bridge E H Unit) w fun _ => [] := by
  refine .get_bind ?_
  split
  · exact .pure rfl
  · exact .call fun _ => rfl

/-- An execution that fails is diagnosed. -/
theorem accounts_executeBatch (sql : String) :
    Accounts cb roll (conn.executeBatch cb sql).run w (failures BindError.asEngine) := by
  refine conn.accounts_live fun d _ => ?_
  refine .run_ofExcept_bind (fun _ => rfl) fun text _ => ?_
  unfold Accounts Fallible.lift
  rw [ExceptT.run_bind_lift]
  cases run : (Upcall.execute cb (.exec d text)) w with
  | mk code w₁ =>
    rw [show (Upcall.execute cb (.exec d text) >>= _) w = _ from Bridge.run_bind_of_run run]
    split
    · next hok => exact .executed run ((ResultClass.ofCode_eq_ok_iff code).mp hok)
    · next hne =>
      have fails : ¬ Execution.Succeeds (.exec d text) code := fun succeeds =>
        hne ((ResultClass.ofCode_eq_ok_iff code).mpr succeeds)
      have informed : Operand.Informed roll.home (Execution.exec d text).operands (some d) := rfl
      rw [ExceptT.run_bind_lift]
      rw [Bridge.run_bind_of_run (Bridge.diagnose_run _ _ _ _)]
      exact .unexecuted run fails informed

end Connection

namespace Library

/-- Asking for the version is no failure of the engine. -/
theorem accounts_version : Accounts cb roll (version : Fallible E H String).run w
    (failures BindError.asEngine) :=
  .run_lift_bind (.call fun _ => rfl) fun _ _ => .run_requiredString

/-- Switching the shared cache on or off fails by the engine just when its call does. -/
theorem accounts_enableSharedCache (on : Bool) :
    Accounts cb roll (enableSharedCache on : Fallible E H Unit).run w
      (failures BindError.asEngine) :=
  .run_succeed (fun _ => rfl) fun _ => rfl

end Library

end EngineBridge
