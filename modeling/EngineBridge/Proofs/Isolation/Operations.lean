import EngineBridge.Proofs.Isolation.Connections

/-!
# Opening connections and working with them agrees

What is opened gets a new identity in each world, and everything that is done with an open
connection concerns its object, its own callbacks and its own interrupts.
-/

set_option autoImplicit false

namespace EngineBridge

open Native Session

variable {E : Engine} {S : Setting E} {θ : Ties} {α : Type}

namespace Connection

variable {conn conn' : Connection}

/-! ## Opening -/

/-- New connections are tied, whatever their numbers are. -/
theorem agrees_create :
    Agrees S θ (create : SessionM E Connection) create Connection.Tied := by
  have numbered : Agrees S θ (Bridge.newConnection : SessionM E ConnectionId) Bridge.newConnection
      fun θ₁ id id' => (id, id') ∈ θ₁.ids :=
    fun _ _ alike => ⟨_, θ.le_addId _ _, alike.newConnection, List.mem_cons_self⟩
  exact numbered.bind fun θ₁ id id' _ tied => .pure ⟨tied, rfl⟩

/-- Asking for a database does the same in both worlds. -/
theorem repeats_openDatabase (file : CString) (flags : OpenFlags) (vfs : Option CString) :
    Repeats S (openDatabase file flags vfs : Fallible E (host E) Database).run := by
  have opened : Repeats S (Bridge.call (.openV2 file flags.bits vfs) : SessionM E Opened) :=
    .call trivial
  refine .run_bind (.run_lift opened) fun answer => ?_
  split
  · split
    · exact .run_pure _
    · exact .run_throw _
  · refine .run_bind (.run_lift (.diagnose _ _ _)) fun e => ?_
    split
    · exact .run_throw _
    · exact .run_bind (.run_lift (.call trivial)) fun _ => .run_throw _

/-- Setting the timeout of options does the same in both worlds. -/
theorem repeats_applyTimeout (d : Database) (ms : UInt32) :
    Repeats S (applyTimeout d ms : Fallible E (host E) Unit).run := by
  have limited : Repeats S (Fallible.succeed (some d) (.busyTimeout d (nativeMilliseconds ms)) (·) :
      Fallible E (host E) Unit).run := .run_succeed trivial
  exact limited.run_tryCatch fun e =>
    .run_bind (.run_lift (.call trivial)) fun _ => .run_throw e

/-- Acquiring a database, with the close after a failure, does the same in both worlds. -/
theorem repeats_acquire (path : String) (options : OpenOptions) :
    Repeats S (conn.acquire path options : Fallible E (host E) Database).run := by
  unfold acquire
  split
  · exact .run_throw _
  · exact .run_throw _
  · refine .run_bind (.run_ofExcept _) fun strings => ?_
    refine .run_bind (repeats_openDatabase _ _ _) fun d => ?_
    split
    · exact .run_pure d
    · exact .run_bind (repeats_applyTimeout d _) fun _ => .run_pure d

/-- Opening connections that are tied agrees, and they stay tied. -/
theorem agrees_openWith (path : String) (options : OpenOptions) (tied : conn.Tied θ conn') :
    Agrees S θ (conn.openWith path options) (conn'.openWith path options)
      (GivesBack Connection.Tied) := by
  obtain ⟨id', hid, rfl⟩ := tied.exists_eq
  have acquired : Repeats S (conn.acquire path options : Fallible E (host E) Database).run :=
    repeats_acquire path options
  refine (acquired θ).bind fun θ₁ r _ le heq => ?_
  subst heq
  have hid₁ := le.1 hid
  cases r with
  | error e => exact .pure ⟨rfl, tied.mono le⟩
  | ok d =>
    have armed : Agrees S θ₁ (Bridge.arm conn.id d : SessionM E Unit) (Bridge.arm id' d) Anything :=
      fun _ _ alike => ⟨θ₁, le_refl θ₁, alike.arm hid₁ d, trivial⟩
    refine armed.bind fun θ₂ _ _ le₂ _ => ?_
    refine .bind (.report (.opened path (le₂.1 hid₁))) fun θ₃ _ _ le₃ _ => ?_
    exact .pure ⟨rfl, le₃.1 (le₂.1 hid₁), rfl⟩

/-- Closing connections that are tied agrees, and they stay tied. -/
theorem agrees_close (tied : conn.Tied θ conn') :
    Agrees S θ conn.close conn'.close (GivesBack Connection.Tied) :=
  agrees_closeWith Bridge.agrees_dispose tied

/-- Connections that are tied go out of use alike. -/
theorem agrees_drop (tied : conn.Tied θ conn') : Agrees S θ conn.drop conn'.drop Anything :=
  agrees_dropWith Bridge.agrees_dispose tied

/-- Connections that are created and opened alike are tied. -/
theorem agrees_connectWith (path : String) (options : OpenOptions) :
    Agrees S θ (connectWith path options : Fallible E (host E) Connection).run
      (connectWith path options).run (Results Connection.Tied) := by
  refine .run_lift_bind agrees_create fun θ₁ conn conn' _ tied => ?_
  refine .run_lift_bind (agrees_openWith path options tied) fun θ₂ r r' _ hr => ?_
  obtain ⟨result, after⟩ := r
  obtain ⟨result', after'⟩ := r'
  obtain ⟨rfl, hafter⟩ := hr
  cases result with
  | ok => exact .run_pure hafter
  | error e => exact .run_lift_bind (agrees_drop hafter) fun _ _ _ _ _ => .run_throw e

/-! ## What an open connection is asked to do -/

/-- A question to an open connection does the same in both worlds if it does so for each
database. -/
theorem repeats_live {f : Database → Fallible E (host E) α} (h : ∀ d, Repeats S (f d).run) :
    Repeats S (conn.live >>= f).run :=
  .run_bind (.run_ofExcept _) h

/-- Connections that are tied have the same object. -/
theorem agrees_live {f f' : Database → Fallible E (host E) α} {R : Ties → α → α → Prop}
    (tied : conn.Tied θ conn') (h : ∀ d, Agrees S θ (f d).run (f' d).run (Results R)) :
    Agrees S θ (conn.live >>= f).run (conn'.live >>= f').run (Results R) := by
  obtain ⟨id', -, rfl⟩ := tied.exists_eq
  exact .run_ofExcept_bind fun d _ => h d

/-- The number of changes is the same in both worlds. -/
theorem repeats_changes : Repeats S (conn.changes : Fallible E (host E) Int32).run :=
  repeats_live fun _ => .run_lift (.call trivial)

/-- The number of all changes is the same in both worlds. -/
theorem repeats_totalChanges : Repeats S (conn.totalChanges : Fallible E (host E) Int32).run :=
  repeats_live fun _ => .run_lift (.call trivial)

/-- A limit is the same in both worlds. -/
theorem repeats_limit (limit : Limit) (value : Int32) :
    Repeats S (conn.limit limit value : Fallible E (host E) Int32).run :=
  repeats_live fun _ => .run_lift (.call trivial)

/-- The latest message is the same in both worlds. -/
theorem repeats_errmsg : Repeats S (conn.errmsg : Fallible E (host E) String).run :=
  repeats_live fun _ => .run_bind (.run_lift (.call trivial)) fun _ => .run_requiredString _

/-- Switching extensions on or off does the same in both worlds. -/
theorem repeats_enableLoadExtension (on : Bool) :
    Repeats S (conn.enableLoadExtension on : Fallible E (host E) Unit).run :=
  repeats_live fun _ => .run_succeed trivial

/-- The calls for a timeout agree on connections that are tied. -/
theorem agrees_setBusyTimeout (ms : UInt32) (tied : conn.Tied θ conn') :
    Agrees S θ (conn.setBusyTimeout ms : Fallible E (host E) Unit).run
      (conn'.setBusyTimeout ms).run (Results Anything) := by
  refine agrees_live tied fun d => ?_
  have limited : Repeats S (Fallible.succeed (some d) (.busyTimeout d (nativeMilliseconds ms)) (·) :
      Fallible E (host E) Unit).run := .run_succeed trivial
  refine .run_bind limited.results fun θ₁ _ _ le _ => ?_
  exact .run_lift (Bridge.agrees_release ⟨le.1 tied.1, rfl⟩)

/-- Setting a timeout agrees on connections that are tied, notes included. -/
theorem agrees_busyTimeout (ms : UInt32) (tied : conn.Tied θ conn') :
    Agrees S θ (conn.busyTimeout ms : Fallible E (host E) Unit).run (conn'.busyTimeout ms).run
      (Results Anything) :=
  .run_noted tied.1 .busyTimeout fun _ le => agrees_setBusyTimeout ms (tied.mono le)

/-- The calls and changes for a busy handler agree if connections and closures are tied. -/
theorem agrees_installBusyHandler {c c' : Closure (HandlerBody E.Stimulus)}
    (tied : conn.Tied θ conn') (closures : ClosureTied (HandlerBody.Within S.party) θ c c') :
    Agrees S θ (installBusyHandler (E := E) (H := host E) conn c).run
      (installBusyHandler (E := E) (H := host E) conn' c').run (Results Anything) := by
  obtain ⟨id', hid, rfl⟩ := tied.exists_eq
  have database : ({ conn with id := id' } : Connection).database = conn.database := rfl
  unfold installBusyHandler
  rw [database]
  cases conn.database with
  | error e =>
    refine .run_lift_bind (Bridge.agrees_dispose θ _ _ (.cons (.busy closures) .nil)) ?_
    exact fun _ _ _ _ _ => .run_throw _
  | ok d =>
    have key : FunctionKey.Tied θ.ids ⟨conn.id, .busyHandler⟩ ⟨id', .busyHandler⟩ := ⟨hid, rfl⟩
    refine .run_lift_bind (Bridge.agrees_register key (.busy closures)) fun θ₁ _ _ le _ => ?_
    refine .run_tryCatch_throw ?_ fun θ₂ e le₂ => Bridge.agrees_release (key.mono (le.trans le₂).1)
    exact .run_succeed (.busyHandler d (le.1 hid)) fun _ _ _ answered =>
      eq_of_heq (answered.heq nofun)

/-- Registering busy handlers that are tied agrees, notes included. -/
theorem agrees_registerBusyHandler {c c' : Closure (HandlerBody E.Stimulus)}
    (tied : conn.Tied θ conn') (closures : ClosureTied (HandlerBody.Within S.party) θ c c') :
    Agrees S θ (registerBusyHandler (E := E) (H := host E) conn c).run
      (registerBusyHandler (E := E) (H := host E) conn' c').run (Results Anything) :=
  .run_noted tied.1 (.registerBusyHandler closures.token) fun _ le =>
    agrees_installBusyHandler (tied.mono le) (closures.mono le)

/-- The calls and changes for taking a busy handler away agree. -/
theorem agrees_uninstallBusyHandler (tied : conn.Tied θ conn') :
    Agrees S θ (conn.uninstallBusyHandler : Fallible E (host E) Unit).run
      conn'.uninstallBusyHandler.run (Results Anything) := by
  refine agrees_live tied fun d => ?_
  have removed : Repeats S (Fallible.succeed (some d) (.busyHandler d false 0) (·) :
      Fallible E (host E) Unit).run := .run_succeed rfl
  refine .run_bind removed.results fun θ₁ _ _ le _ => ?_
  exact .run_lift (Bridge.agrees_release ⟨le.1 tied.1, rfl⟩)

/-- Taking busy handlers away agrees, notes included. -/
theorem agrees_clearBusyHandler (tied : conn.Tied θ conn') :
    Agrees S θ (conn.clearBusyHandler : Fallible E (host E) Unit).run conn'.clearBusyHandler.run
      (Results Anything) :=
  .run_noted tied.1 .clearBusyHandler fun _ le => agrees_uninstallBusyHandler (tied.mono le)

/-- The engine is told of functions of the same name alike. -/
theorem agrees_announceFunction (name : String) (arity : Int32) (flags : FunctionFlags)
    (tied : conn.Tied θ conn') :
    Agrees S θ (conn.announceFunction name arity flags : Fallible E (host E) Unit).run
      (conn'.announceFunction name arity flags).run (Results Anything) := by
  refine agrees_live tied fun d => .run_ofExcept_bind fun text _ => ?_
  have key : FunctionKey.Tied θ.ids ⟨conn.id, .ofFunction name arity⟩
      ⟨conn'.id, .ofFunction name arity⟩ := ⟨tied.1, rfl⟩
  exact .run_succeed (.createFunctionV2 d text arity _ true false false true key)
    fun _ _ _ answered => eq_of_heq (answered.heq nofun)

/-- The calls and changes for a function agree if connections and closures are tied. -/
theorem agrees_installFunction (name : String) (arity : Int32) (flags : FunctionFlags)
    {c c' : Closure (FunctionBody E.Stimulus)} (tied : conn.Tied θ conn')
    (closures : ClosureTied (FunctionBody.Within S.party) θ c c') :
    Agrees S θ (installFunction (E := E) (H := host E) conn name arity flags c).run
      (installFunction (E := E) (H := host E) conn' name arity flags c').run
      (Results Anything) := by
  have announced : Agrees S θ (conn.announceFunction name arity flags).run
      (conn'.announceFunction name arity flags).run (Results Anything) :=
    agrees_announceFunction name arity flags tied
  refine .run_bind (.run_tryCatch_throw announced fun θ₁ _ le => ?_) fun θ₁ _ _ le _ => ?_
  · exact Bridge.agrees_dispose θ₁ _ _ (.cons (.function (closures.mono le)) .nil)
  · exact .run_lift (Bridge.agrees_register ⟨le.1 tied.1, rfl⟩ (.function (closures.mono le)))

/-- Registering functions that are tied agrees, notes included. -/
theorem agrees_registerFunction (name : String) (arity : Int32) (flags : FunctionFlags)
    {c c' : Closure (FunctionBody E.Stimulus)} (tied : conn.Tied θ conn')
    (closures : ClosureTied (FunctionBody.Within S.party) θ c c') :
    Agrees S θ (registerFunction (E := E) (H := host E) conn name arity flags c).run
      (registerFunction (E := E) (H := host E) conn' name arity flags c').run
      (Results Anything) :=
  .run_noted tied.1 (.registerFunction name arity closures.token) fun _ le =>
    agrees_installFunction name arity flags (tied.mono le) (closures.mono le)

/-- The calls and changes for removing a function agree. -/
theorem agrees_uninstallFunction (name : String) (arity : Int32) (tied : conn.Tied θ conn') :
    Agrees S θ (conn.uninstallFunction name arity : Fallible E (host E) Unit).run
      (conn'.uninstallFunction name arity).run (Results Anything) := by
  refine agrees_live tied fun d => .run_ofExcept_bind fun text _ => ?_
  have removed : Repeats S (Fallible.succeed (some d)
      (.createFunctionV2 d text arity FunctionFlags.empty.textRepresentation none false false false
        false) (·) : Fallible E (host E) Unit).run := .run_succeed rfl
  refine .run_bind removed.results fun θ₁ _ _ le _ => ?_
  exact .run_lift (Bridge.agrees_release ⟨le.1 tied.1, rfl⟩)

/-- Removing functions of the same name agrees, notes included. -/
theorem agrees_removeFunction (name : String) (arity : Int32) (tied : conn.Tied θ conn') :
    Agrees S θ (conn.removeFunction name arity : Fallible E (host E) Unit).run
      (conn'.removeFunction name arity).run (Results Anything) :=
  .run_noted tied.1 (.removeFunction name arity) fun _ le =>
    agrees_uninstallFunction name arity (tied.mono le)

/-- Statements that are prepared for the same text on tied connections are tied. -/
theorem agrees_prepare (sql : String) (tied : conn.Tied θ conn') :
    Agrees S θ (conn.prepare sql : Fallible E (host E) Statement).run (conn'.prepare sql).run
      (Results Statement.Tied) := by
  refine agrees_live tied fun d => .run_ofExcept_bind fun text _ => ?_
  refine .run_ofExcept_bind fun size _ => ?_
  have answered : Repeats S
      (Fallible.checked (some d) (.prepareV2 d text size) (·.code) : Fallible E (host E) _).run :=
    .run_checked trivial
  refine .run_bind answered.results fun θ₁ answer _ le heq => ?_
  subst heq
  have reported (θ₂ : Ties) (first : String) (le₂ : θ₁ ≤ θ₂) :
      Agrees S θ₂ (Bridge.report (.prepared conn.id first) : SessionM E Unit)
        (Bridge.report (.prepared conn'.id first)) Anything :=
    .report (.prepared first (le₂.1 (le.1 tied.1)))
  obtain ⟨code, program, tail⟩ := answer
  cases program with
  | none => exact .run_throw _
  | some p =>
    dsimp only
    split
    · refine .run_lift_bind (.report (.nameless trivial)) fun θ₂ _ _ le₂ _ => ?_
      refine .run_lift_bind (reported θ₂ _ le₂) fun θ₃ _ _ le₃ _ => ?_
      exact .run_pure ⟨le₃.1 (le₂.1 (le.1 tied.1)), rfl⟩
    · refine .run_lift_bind (reported θ₁ _ (le_refl θ₁)) fun θ₂ _ _ le₂ _ => ?_
      exact .run_pure ⟨le₂.1 (le.1 tied.1), rfl⟩

/-- Interrupting through handles that are tied agrees. -/
theorem agrees_interrupt {id id' : ConnectionId} (tied : (id, id') ∈ θ.ids) :
    Agrees S θ (interrupt id : SessionM E Unit) (interrupt id') Anything := by
  refine .get_bind fun w w' alike => ?_
  have target : w.target id = w'.target id' := alike.target _ tied
  rw [target]
  split
  · exact .pure trivial
  · have called (d : Database) : Repeats S (Bridge.call (.interrupt d) : SessionM E Unit) :=
      .call trivial
    exact (called _ θ).mono fun _ _ _ _ => trivial

/-- Handles that are tied are shown alike. -/
theorem agrees_describeHandle {id id' : ConnectionId} (tied : (id, id') ∈ θ.ids) :
    Agrees S θ (describeHandle id : SessionM E String) (describeHandle id')
      fun _ a b => a = b := by
  refine .get_bind fun w w' alike => ?_
  have target : w.target id = w'.target id' := alike.target _ tied
  rw [target]
  exact .pure rfl

/-- Connections that are tied have as many callbacks. -/
theorem agrees_callbackCount (tied : conn.Tied θ conn') :
    Agrees S θ (conn.callbackCount : SessionM E Nat) conn'.callbackCount fun _ a b => a = b :=
  .get_bind fun _ _ alike => .pure (alike.count tied.1)

end Connection

namespace Library

/-- The version is the same in both worlds. -/
theorem repeats_version : Repeats S (version : Fallible E (host E) String).run :=
  .run_bind (.run_lift (.call trivial)) fun _ => .run_requiredString _

end Library

end EngineBridge
