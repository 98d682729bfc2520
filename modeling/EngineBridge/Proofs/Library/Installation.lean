import EngineBridge.Library.Startup
import EngineBridge.Proofs.Library.Loading
import EngineBridge.Scripted.Libraries

/-!
# The engine of a process

A process has no engine until one is loaded with all its exports, be it because it was asked
for or because a connection needed one; the attempts before that leave no trace.  From then
on the process has that engine: its connections use it, and another one is refused without
a look at the libraries.
-/

set_option autoImplicit false

namespace EngineBridge

/-- The engine that a step would have installed; a use of the engine goes for the built-in
one. -/
def StartupStep.library : StartupStep → Option LibrarySource
  | .binding | .connection => some .bundled
  | .install library => some library
  | .installConfig json => (Config.ofJson json).toOption.map Config.library
  | .invalid => none

/-- The engine that a step can install, with the libraries that there are. -/
def StartupStep.brings (loader : Loader) (step : StartupStep) : Option Binding :=
  step.library.bind fun library => (Binding.load loader library).toOption

namespace StartupStep

variable {loader : Loader} {step : StartupStep} {library : LibrarySource} {b : Binding}

/-- The engine that a step brings is loaded from the library that the step asks for. -/
theorem load_of_brings (asked : step.library = some library) (h : step.brings loader = some b) :
    Binding.load loader library = .ok b := by
  revert h
  simp only [brings, asked, Option.bind_some]
  cases Binding.load loader library <;> simp [Except.toOption]

/-- The built-in engine can always be installed. -/
theorem brings_of_bundled (asked : step.library = some .bundled) :
    step.brings loader = some .builtIn := by
  unfold brings
  rw [asked, Option.bind_some, Binding.load_bundled]
  rfl

/-- A step can install an engine just if a library for it is loaded and has all exports. -/
theorem brings_eq_some_iff :
    step.brings loader = some b ↔
      ∃ library source, step.library = some library ∧ loader.source library = .ok source ∧
        b.Resolves source := by
  constructor
  · intro h
    obtain ⟨library, asked, -⟩ := Option.bind_eq_some_iff.mp h
    obtain ⟨source, loaded, resolves⟩ := Binding.load_eq_ok_iff.mp (load_of_brings asked h)
    exact ⟨library, source, asked, loaded, resolves⟩
  · rintro ⟨library, source, asked, loaded, resolves⟩
    simp [brings, asked, Binding.load_eq_ok_iff.mpr ⟨source, loaded, resolves⟩, Except.toOption]

end StartupStep

namespace Installation

variable {loader : Loader} {library : LibrarySource} {i : Installation}

/-- Where there is an engine, another one is refused. -/
theorem install_of_installed {b : Binding} (h : i.installed = some b) :
    i.install loader library = (.error (.alreadyInstalled b.source), i) := by
  simp only [install, h]

/-- Where there is an engine, it is the one to use. -/
theorem binding_of_installed {b : Binding} (h : i.installed = some b) :
    i.binding loader = (.ok b, i) := by
  simp only [binding, h]

/-- Where there is none, an engine that can be loaded is installed. -/
theorem install_of_fresh {b : Binding} (fresh : i.installed = none)
    (loaded : Binding.load loader library = .ok b) :
    i.install loader library =
      (.ok b, ⟨some b, i.events ++ [.installed b.source b.table.entries.length]⟩) := by
  simp only [install, fresh, loaded]

/-- Where there is none, an engine that cannot be loaded leaves everything as it was. -/
theorem install_of_fresh_error {e : InfrastructureError} (fresh : i.installed = none)
    (failed : Binding.load loader library = .error e) :
    i.install loader library = (.error e, i) := by
  simp only [install, fresh, failed]

/-- With no engine installed, the built-in one is. -/
theorem binding_of_fresh (fresh : i.installed = none) :
    i.binding loader =
      (.ok .builtIn,
        ⟨some .builtIn, i.events ++ [.installedDefault Binding.builtIn.source]⟩) := by
  have loaded := Binding.load_bundled loader
  unfold binding
  rw [fresh]
  generalize Binding.load loader .bundled = outcome at loaded ⊢
  rw [loaded]

/-- What was reported is that the engine of the process was installed, once. -/
def Announced (i : Installation) : Prop :=
  match i.installed with
  | none => i.events = []
  | some b =>
    i.events = [.installed b.source b.table.entries.length] ∨
      b = .builtIn ∧ i.events = [.installedDefault b.source]

/-- An engine is reported when it is installed, and a refusal is not. -/
theorem Announced.install (h : i.Announced) (loader : Loader) (library : LibrarySource) :
    (i.install loader library).2.Announced := by
  cases found : i.installed with
  | some b => rwa [install_of_installed found]
  | none =>
    cases loaded : Binding.load loader library with
    | error e => rwa [install_of_fresh_error found loaded]
    | ok b =>
      have silent : i.events = [] := by simpa [Announced, found] using h
      rw [install_of_fresh found loaded]
      exact .inl (by rw [silent]; rfl)

/-- The built-in engine is reported when it is installed for a first use. -/
theorem Announced.binding (h : i.Announced) (loader : Loader) :
    (i.binding loader).2.Announced := by
  cases found : i.installed with
  | some b => rwa [binding_of_installed found]
  | none =>
    have silent : i.events = [] := by simpa [Announced, found] using h
    rw [binding_of_fresh found]
    exact .inr ⟨rfl, by rw [silent]; rfl⟩

/-- An engine of a configuration is reported like any other. -/
theorem Announced.installConfig (h : i.Announced) (loader : Loader) (json : String) :
    (i.installConfig loader json).2.Announced := by
  unfold Installation.installConfig
  cases Config.ofJson json with
  | error e => exact h
  | ok config =>
    have announced := h.install loader config.library
    dsimp only
    split <;> rename_i found <;> rwa [found] at announced

end Installation

namespace Startup

/-- The ways in which a step can fail in a process without an engine. -/
inductive Fails (loader : Loader) : StartupStep → StartupReport → Prop where
  | install {library : LibrarySource} {e : InfrastructureError} :
    library.Unusable loader e → Fails loader (.install library) (.infrastructure e)
  | configured {json : String} {config : Config} {e : InfrastructureError} :
    Config.ofJson json = .ok config → config.library.Unusable loader e →
      Fails loader (.installConfig json) (.setup (.operation (.infrastructure e)))
  | config {json : String} {e : Json.Failure} :
    Config.ofJson json = .error e → Fails loader (.installConfig json) (.setup (.config e))
  | invalid : Fails loader .invalid .badRequest

/-- The report of a step that installs an engine. -/
def welcome (b : Binding) : StartupStep → StartupReport
  | .connection => .states (visit.run (world {})).1
  | _ => .source b.source

/-- A process without an engine, and what it does next. -/
structure Unsettled (p : Process) : Prop where
  /-- It is as it was at the start. -/
  untouched : p = {}
  failing : ∀ loader step, step.brings loader = none →
    Fails loader step (perform loader p step).1 ∧ (perform loader p step).2 = p
  succeeding : ∀ loader step b, step.brings loader = some b →
    (perform loader p step).1 = welcome b step ∧
      (perform loader p step).2.installation.installed = some b

/-- A process that has the engine `b`, and what it does next, whatever libraries there are. -/
structure Settled (b : Binding) (p : Process) : Prop where
  installed : p.installation.installed = some b
  /-- All connections use the engine. -/
  tables : ∀ table ∈ p.tables, table = b.table
  binding : ∀ loader, perform loader p .binding = (.source b.source, p)
  connection : ∀ loader, perform loader p .connection =
    (welcome b .connection, { p with tables := b.table :: p.tables })
  install : ∀ loader library, perform loader p (.install library) =
    (.infrastructure (.alreadyInstalled b.source), p)
  installConfig : ∀ loader json config, Config.ofJson json = .ok config →
    perform loader p (.installConfig json) =
      (.setup (.operation (.infrastructure (.alreadyInstalled b.source))), p)
  /-- A configuration that cannot be read does no harm. -/
  config : ∀ loader json e, Config.ofJson json = .error e →
    perform loader p (.installConfig json) = (.setup (.config e), p)

variable {loader : Loader} {step : StartupStep} {p : Process} {b : Binding}

/-- In a process with no engine, a step that brings none fails and leaves nothing behind. -/
theorem perform_of_brings_none (fresh : p.installation.installed = none)
    (h : step.brings loader = none) :
    Fails loader step (perform loader p step).1 ∧ (perform loader p step).2 = p := by
  cases step with
  | binding =>
    have asked : StartupStep.library .binding = some .bundled := rfl
    simp [StartupStep.brings_of_bundled asked] at h
  | connection =>
    have asked : StartupStep.library .connection = some .bundled := rfl
    simp [StartupStep.brings_of_bundled asked] at h
  | install library =>
    cases loaded : Binding.load loader library with
    | ok b => simp [StartupStep.brings, StartupStep.library, loaded, Except.toOption] at h
    | error e =>
      have failed : perform loader p (.install library) = (.infrastructure e, p) := by
        simp only [perform, Installation.install_of_fresh_error fresh loaded]
      rw [failed]
      exact ⟨.install (Binding.load_eq_error_iff.mp loaded), rfl⟩
  | installConfig json =>
    cases read : Config.ofJson json with
    | error e =>
      have failed : perform loader p (.installConfig json) = (.setup (.config e), p) := by
        simp only [perform, Installation.installConfig, read]
      rw [failed]
      exact ⟨.config read, rfl⟩
    | ok config =>
      cases loaded : Binding.load loader config.library with
      | ok b =>
        simp [StartupStep.brings, StartupStep.library, read, loaded, Except.toOption] at h
      | error e =>
        have failed : perform loader p (.installConfig json) =
            (.setup (.operation (.infrastructure e)), p) := by
          simp only [perform, Installation.installConfig, read,
            Installation.install_of_fresh_error fresh loaded]
        rw [failed]
        exact ⟨.configured read (Binding.load_eq_error_iff.mp loaded), rfl⟩
  | invalid => exact ⟨.invalid, rfl⟩

/-- A process that has an engine goes on with it. -/
theorem Settled.of_installed (installed : p.installation.installed = some b)
    (tables : ∀ table ∈ p.tables, table = b.table) : Settled b p where
  installed := installed
  tables := tables
  binding loader := by simp only [perform, Installation.binding_of_installed installed]
  connection loader := by
    simp only [perform, Installation.binding_of_installed installed, welcome]
  install loader library := by simp only [perform, Installation.install_of_installed installed]
  installConfig loader json config read := by
    simp only [perform, Installation.installConfig, read,
      Installation.install_of_installed installed]
  config loader json e unread := by simp only [perform, Installation.installConfig, unread]

/-- In a process with no engine, a step that brings one installs it. -/
theorem perform_of_brings (fresh : p.installation.installed = none) (unused : p.tables = [])
    (h : step.brings loader = some b) :
    (perform loader p step).1 = welcome b step ∧ Settled b (perform loader p step).2 := by
  have settled : ∀ events tables, (∀ table ∈ tables, table = b.table) →
      Settled b ⟨⟨some b, events⟩, tables⟩ := fun events tables same => .of_installed rfl same
  have empty : ∀ table ∈ p.tables, table = b.table := by simp [unused]
  cases step with
  | binding =>
    have asked : StartupStep.library .binding = some .bundled := rfl
    obtain rfl : .builtIn = b := by simpa [StartupStep.brings_of_bundled asked] using h
    simp only [perform, Installation.binding_of_fresh fresh]
    exact ⟨rfl, settled _ _ empty⟩
  | connection =>
    have asked : StartupStep.library .connection = some .bundled := rfl
    obtain rfl : .builtIn = b := by simpa [StartupStep.brings_of_bundled asked] using h
    simp only [perform, Installation.binding_of_fresh fresh]
    exact ⟨rfl, settled _ _ (List.forall_mem_cons.mpr ⟨rfl, empty⟩)⟩
  | install library =>
    have loaded := StartupStep.load_of_brings rfl h
    simp only [perform, Installation.install_of_fresh fresh loaded]
    exact ⟨rfl, settled _ _ empty⟩
  | installConfig json =>
    cases read : Config.ofJson json with
    | error e => simp [StartupStep.brings, StartupStep.library, read, Except.toOption] at h
    | ok config =>
      have asked : StartupStep.library (.installConfig json) = some config.library := by
        simp [StartupStep.library, read, Except.toOption]
      have loaded := StartupStep.load_of_brings asked h
      simp only [perform, Installation.installConfig, read,
        Installation.install_of_fresh fresh loaded]
      exact ⟨rfl, settled _ _ empty⟩
  | invalid => cases h

/-- No step changes the engine of a process that has one. -/
theorem Settled.perform (h : Settled b p) : Settled b (perform loader p step).2 := by
  cases step with
  | binding => rwa [h.binding]
  | connection =>
    rw [h.connection]
    exact .of_installed h.installed (List.forall_mem_cons.mpr ⟨rfl, h.tables⟩)
  | install library => rwa [h.install]
  | installConfig json =>
    cases read : Config.ofJson json with
    | error e => rwa [h.config _ _ _ read]
    | ok config => rwa [h.installConfig _ _ _ read]
  | invalid => exact h

/-- The process after a history goes on from the process after its first step. -/
theorem course_cons (rest : List (Loader × StartupStep)) :
    (course p ((loader, step) :: rest)).2 = (course (perform loader p step).2 rest).2 := by
  rw [course]

/-- No history changes the engine of a process that has one. -/
theorem Settled.course {history : List (Loader × StartupStep)} (h : Settled b p) :
    Settled b (course p history).2 := by
  induction history generalizing p with
  | nil => exact h
  | cons first rest ih =>
    rw [course_cons]
    exact ih h.perform

/-- Each step reports the engine that it installs, if any. -/
theorem announced_perform (h : p.installation.Announced) :
    (perform loader p step).2.installation.Announced := by
  cases step with
  | invalid => exact h
  | binding | connection =>
    have announced := h.binding loader
    simp only [perform]
    split <;> rename_i found <;> rwa [found] at announced
  | install library =>
    have announced := h.install loader library
    simp only [perform]
    split <;> rename_i found <;> rwa [found] at announced
  | installConfig json =>
    have announced := h.installConfig loader json
    simp only [perform]
    split <;> rename_i found <;> rwa [found] at announced

/-- A process at its start has no engine. -/
theorem unsettled_begin : Unsettled {} where
  untouched := rfl
  failing _ _ := perform_of_brings_none rfl
  succeeding _ _ _ h := (perform_of_brings rfl rfl h).imp_right Settled.installed

/-- The engine that a step of a history can install. -/
def brought (entry : Loader × StartupStep) : Option Binding :=
  entry.2.brings entry.1

/-- A process has the engine that was first brought, and nothing before that. -/
theorem course_of_fresh (fresh : p.installation.installed = none) (unused : p.tables = [])
    (history : List (Loader × StartupStep)) :
    match history.findSome? brought with
    | none => (course p history).2 = p
    | some b => Settled b (course p history).2 := by
  induction history with
  | nil => rfl
  | cons first rest ih =>
    obtain ⟨loader, step⟩ := first
    rw [course_cons]
    cases h : step.brings loader with
    | none =>
      rw [List.findSome?_cons_of_isNone (by simp [brought, h]),
        (perform_of_brings_none fresh h).2]
      exact ih
    | some b =>
      rw [List.findSome?_cons_of_isSome (by simp [brought, h])]
      simp only [brought, h]
      exact (perform_of_brings fresh unused h).2.course

/-- A process has the engine that was first brought since its start, and nothing before that. -/
theorem course_begin (history : List (Loader × StartupStep)) :
    match history.findSome? brought with
    | none => (course {} history).2 = {}
    | some b => Settled b (course {} history).2 :=
  course_of_fresh rfl rfl history

/-- Whatever a process did, what it reported about its engine is that it was installed, once. -/
theorem course_announced (history : List (Loader × StartupStep)) :
    (course {} history).2.installation.Announced := by
  have kept (p : Process) (h : p.installation.Announced) :
      (course p history).2.installation.Announced := by
    induction history generalizing p with
    | nil => exact h
    | cons entry rest ih =>
      rw [course_cons]
      exact ih _ (announced_perform h)
  exact kept {} rfl

/-- Nothing is installed in a process until a library is loaded that has all exports, and the
process is as it was at its start; what fails until then is told.  The first such library
is the engine of the process for good: it is used whenever an engine is asked for and by all
connections, and installing another one is refused, whatever libraries there are by then.
If it came without having been asked for, it is the built-in one. -/
theorem engine_installed_once (history : List (Loader × StartupStep)) :
    (history.findSome? brought = none → Unsettled (course {} history).2) ∧
    (∀ b, history.findSome? brought = some b →
      (∀ later, Settled b (course {} (history ++ later)).2) ∧
      ∃ before loader step after, history = before ++ (loader, step) :: after ∧
        (∀ entry ∈ before, brought entry = none) ∧
        (∃ library source, step.library = some library ∧ loader.source library = .ok source ∧
          b.Resolves source) ∧
        (step = .binding ∨ step = .connection → b = .builtIn)) := by
  -- what comes later does not matter to which engine was brought first
  refine ⟨fun none_brought => ?_, fun b first => ⟨fun later => ?_, ?_⟩⟩
  · have untouched := course_begin history
    rw [none_brought] at untouched
    rw [untouched]
    exact unsettled_begin
  · have settled := course_begin (history ++ later)
    rwa [List.findSome?_append, first] at settled
  · obtain ⟨before, ⟨loader, step⟩, after, listed, brings, nothing⟩ :=
      List.findSome?_eq_some_iff.mp first
    refine ⟨before, loader, step, after, listed, nothing,
      StartupStep.brings_eq_some_iff.mp brings, ?_⟩
    have lazily : step.library = some .bundled → b = .builtIn := fun asked =>
      Option.some.inj (brings.symm.trans (StartupStep.brings_of_bundled asked))
    rintro (rfl | rfl)
    · exact lazily (by rfl)
    · exact lazily (by rfl)

/-- A library without most exports leaves the way free for the engine that a connection
needs, and then it is too late for another one. -/
example :
    run Scripted.loader {} [.install (.path "libpartial_engine.so"), .connection, .binding,
        .install (.path Scripted.engineName)] =
      [.infrastructure (.missingSymbol .libversion "libpartial_engine.so"),
       .states [.unopened, .opened, .closed], .source "bundled",
       .infrastructure (.alreadyInstalled "bundled")] := by
  decide +kernel

end Startup

end EngineBridge
