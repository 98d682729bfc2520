import EngineBridge.Proofs.Isolation.ScriptedStates

/-!
# The scripted engine is oblivious

What the scripted engine runs takes the same course in two runs that differ in contexts only:
it calls back at the same points, with contexts that are tied, and comes to the same end.
-/

set_option autoImplicit false

namespace EngineBridge

open Native

variable {σ α β : Type} {Same : IdTies → σ → σ → Prop} {ids : IdTies}

/-- A course goes on alike after parts that are alike. -/
theorem Native.Replies.bind {r r' : Reply σ α} (h : Replies Same ids r r')
    {next next' : α → σ → Reply σ β}
    (goesOn : ∀ ids₁ a t t', ids ⊆ ids₁ → Same ids₁ t t' →
      Replies Same ids₁ (next a t) (next' a t')) :
    Replies Same ids (r.bind next) (r'.bind next') := by
  induction h with
  | done answer same => exact goesOn _ answer _ _ (List.Subset.refl _) same
  | busy attempts given same _ ih =>
    refine .busy attempts given same fun ids₁ code t t' le tied => ?_
    refine ih ids₁ code t t' le tied fun ids₂ a u u' le₂ => ?_
    exact goesOn ids₂ a u u' (List.Subset.trans le le₂)
  | function context count arguments same _ ih =>
    refine .function context count arguments same fun ids₁ t t' le tied => ?_
    refine ih ids₁ t t' le tied fun ids₂ a u u' le₂ => ?_
    exact goesOn ids₂ a u u' (List.Subset.trans le le₂)

namespace Scripted

open State

variable {s s' : State}

/-! ## Functions -/

/-- Functions are invoked alike. -/
theorem replies_invoke (h : StateTied ids s s') {key key' : Option FunctionKey}
    (keys : KeyTied ids key key') (cells : List Cell) (count : Int32) (nullArguments : Bool) :
    Replies StateTied ids (invoke key cells count nullArguments s)
      (invoke key' cells count nullArguments s') := by
  unfold invoke
  rw [h.invocations.length_eq]
  have invoked :
      InvocationTied ids { key, arguments := cells } { key := key', arguments := cells } :=
    ⟨keys, rfl, rfl⟩
  refine .function _ _ _ ?_ fun ids₁ t t' _ tied => ?_
  · exact { h with invocations := List.rel_append h.invocations (.cons invoked .nil) }
  · rw [tied.result]
    exact .done _ tied

/-- Functions of the same name and arity are found in both states, with contexts that are tied. -/
theorem function?_tied (h : StateTied ids s s') (d : Database) (name : Bytes) (arity : Int32) :
    Option.Rel (KeyTied ids) (function? s d name arity) (function? s' d name arity) := by
  have both := h.database? d
  unfold function?
  generalize s.database? d = db at both
  generalize s'.database? d = db' at both
  cases both with
  | none => exact .none
  | some tied => exact lookup_tied tied.functions (foldOctets name, arity)

/-- Functions are invoked alike by their names. -/
theorem replies_invokeNamed (h : StateTied ids s s') (d : Database) (name : String)
    (cells : List Cell) :
    Replies StateTied ids (invokeNamed d name cells s) (invokeNamed d name cells s') := by
  have fixed := function?_tied h d (Utf8.encode name) (Int32.ofNat cells.length)
  have variadic := function?_tied h d (Utf8.encode name) (-1)
  unfold invokeNamed
  dsimp only
  generalize function? s d (Utf8.encode name) (Int32.ofNat cells.length) = f at fixed
  generalize function? s' d (Utf8.encode name) (Int32.ofNat cells.length) = f' at fixed
  generalize function? s d (Utf8.encode name) (-1) = g at variadic
  generalize function? s' d (Utf8.encode name) (-1) = g' at variadic
  have found : Option.Rel (KeyTied ids) (f.or g) (f'.or g') := by
    cases fixed with
    | none => exact variadic
    | some keys => exact .some keys
  generalize f.or g = key at found
  generalize f'.or g' = key' at found
  cases found with
  | none => exact .done _ h
  | some keys =>
    exact (replies_invoke h keys cells _ false).bind fun _ _ _ _ _ tied => .done _ tied

mutual

/-- A source of a cell is evaluated alike. -/
theorem replies_evaluate (p : Option Program) (d : Database) {ids : IdTies} {s s' : State}
    (h : StateTied ids s s') :
    (source : CellSource) → Replies StateTied ids (evaluate p d source s) (evaluate p d source s')
  | .given cell => .done _ h
  | .parameter index => by
    unfold evaluate
    simp only [h.parameter]
    exact .done _ h
  | .call name arguments => by
    unfold evaluate
    refine (replies_evaluateAll p d h arguments).bind fun ids₁ cells t t' _ tied => ?_
    cases cells with
    | error message => exact .done _ tied
    | ok cells => exact replies_invokeNamed tied d name cells

/-- Sources of cells are evaluated alike, one after the other. -/
theorem replies_evaluateAll (p : Option Program) (d : Database) {ids : IdTies} {s s' : State}
    (h : StateTied ids s s') :
    (sources : List CellSource) →
      Replies StateTied ids (evaluateAll p d sources s) (evaluateAll p d sources s')
  | [] => .done _ h
  | source :: rest => by
    unfold evaluateAll
    refine (replies_evaluate p d h source).bind fun ids₁ cell t t' _ tied => ?_
    cases cell with
    | error message => exact .done _ tied
    | ok cell =>
      refine (replies_evaluateAll p d tied rest).bind fun ids₂ cells u u' _ tied => ?_
      cases cells with
      | error message => exact .done _ tied
      | ok cells => exact .done _ tied

end

/-! ## Executions -/

/-- A busy connection is tried again alike. -/
theorem replies_contend (d : Database) {otherwise : State → Reply State Int32}
    (last : ∀ ids t t', StateTied ids t t' →
      Replies StateTied ids (otherwise t) (otherwise t'))
    (more attempts : Nat) (h : StateTied ids s s') :
    Replies StateTied ids (contend d otherwise more attempts s)
      (contend d otherwise more attempts s') := by
  induction more generalizing ids s s' attempts with
  | zero => exact last ids s s' h
  | succ more ih =>
    have both := h.handler d
    unfold contend
    dsimp only
    generalize (s.database? d).bind (·.handler) = handler at both
    generalize (s'.database? d).bind (·.handler) = handler' at both
    cases both with
    | none => exact .done _ (h.say d _)
    | some given =>
      refine .busy (Int32.ofNat attempts) given h fun ids₁ code t t' _ tied => ?_
      split
      · exact .done _ (tied.say d _)
      · exact ih (attempts + 1) tied

/-- A reaction is followed alike. -/
theorem replies_follow (r : Reaction) (d : Database) {otherwise : State → Reply State Int32}
    (last : ∀ ids t t', StateTied ids t t' →
      Replies StateTied ids (otherwise t) (otherwise t'))
    (h : StateTied ids s s') :
    Replies StateTied ids (follow r d otherwise s) (follow r d otherwise s') := by
  unfold follow
  split
  · exact replies_contend d last _ _ h
  · exact .done _ h
  · exact last ids s s' h

/-- A program moves on alike. -/
theorem replies_advance (p : Program) (q : ProgramState) (h : StateTied ids s s') :
    Replies StateTied ids (advance p q s) (advance p q s') := by
  unfold advance
  split
  · exact .done _ (h.onProgram p _)
  · refine (replies_evaluateAll _ _ (h.onProgram p _) _).bind fun ids₁ cells t t' _ tied => ?_
    cases cells with
    | error message => exact .done _ (tied.say _ _)
    | ok cells => exact .done _ (tied.onProgram p _)

/-- What the engine runs it runs alike. -/
theorem replies_execute (h : StateTied ids s s') (execution : Execution) :
    Replies StateTied ids (execute s execution) (execute s' execution) := by
  cases execution with
  | step p =>
    unfold execute
    simp only [h.program?]
    cases s'.program? p with
    | none => exact .done _ h
    | some q =>
      obtain ⟨r, t, t', ht, ht', tied⟩ := (h.react .step (some q.database)).exists_eq
      simp only [ht, ht']
      have followed := replies_follow r q.database (fun ids _ _ => replies_advance p q) tied
      exact followed.bind fun _ _ _ _ _ tied => .done _ (tied.onProgram p _)
  | exec d sql =>
    obtain ⟨r, t, t', ht, ht', tied⟩ := (h.react .exec (some d)).exists_eq
    simp only [execute, ht, ht']
    exact replies_follow r d (fun _ _ _ tied => .done 0 tied) tied

/-- A stimulus from outside is answered alike. -/
theorem replies_stimulate (h : StateTied ids s s') (stimulus : Stimulus) :
    Replies StateTied ids (stimulate s stimulus) (stimulate s' stimulus) := by
  cases stimulus with
  | invoke d name arity arguments count nullArguments =>
    have both := function?_tied h d (Utf8.encode name) arity
    unfold stimulate
    dsimp only
    generalize function? s d (Utf8.encode name) arity = key at both
    generalize function? s' d (Utf8.encode name) arity = key' at both
    cases both with
    | none => exact .done _ h
    | some keys =>
      refine (replies_evaluateAll none d h arguments).bind fun ids₁ cells t t' le tied => ?_
      cases cells with
      | error message => exact .done _ tied
      | ok cells =>
        have invoked := replies_invoke tied (keys.mono le) cells
        exact (invoked _ nullArguments).bind fun _ _ _ _ _ tied => .done _ tied
  | contend d attempts =>
    have both := h.handler d
    unfold stimulate
    dsimp only
    generalize (s.database? d).bind (·.handler) = handler at both
    generalize (s'.database? d).bind (·.handler) = handler' at both
    cases both with
    | none => exact .done _ h
    | some given => exact .busy attempts given h fun _ _ _ _ _ tied => .done _ tied
  | extend script => exact .done _ { h with script := congrArg (·.append script) h.script }

/-- The scripted engine does not look into the contexts of callbacks. -/
def oblivious : Oblivious engine where
  Same := StateTied
  mono le h := h.mono le
  answer h calls := answered_answer h calls
  execute := replies_execute
  stimulate := replies_stimulate

/-- A state in which no context has been given yet. -/
theorem stateTied_self (script : Script) : StateTied [] { script } { script } :=
  ⟨rfl, .nil, rfl, .nil⟩

end Scripted

end EngineBridge
