import EngineBridge.Proofs.Custody.Failing

/-!
# The registry as the transcript tells it

Which closure is in a slot follows from what was there before and from what has happened since.
A change of callbacks that has come to its end fills a slot, or empties it, or does nothing to
it; a connection that has been closed leaves all its slots empty.  `replay` applies this to a
piece of the transcript, one entry after the other.

`World.Recounts` says that a registry has come about in this way and in no other.  It goes from
one piece of a run to the next, so that a whole run tells its registry if each operation does.
-/

set_option autoImplicit false

namespace EngineBridge

open Native

variable {E : Engine} {H : Host}

/-! ## What entries do to a slot -/

/-- What can be in a slot: a closure, by its kind and its number. -/
inductive Occupant where
  | handler (token : Nat)
  | function (token : Nat)
deriving DecidableEq

/-- A registered closure, by its kind and its number. -/
def Registration.occupant : Registration H → Occupant
  | .busy handler => .handler handler.token
  | .function code => .function code.token

/-- The closure in a slot, by its kind and its number. -/
def World.occupant (w : World E H) (key : FunctionKey) : Option Occupant :=
  (w.registry.find? key).map Registration.occupant

/-- The slot that a change of callbacks has filled or emptied, now that it has come to its end,
and what it has left there. -/
def Change.outcome : Change → Except BindError Unit → Option (Slot × Option Occupant)
  | .registerBusyHandler token, .ok _ => some (.busyHandler, some (.handler token))
  -- the handler is in its slot before the engine is asked, and leaves it when the engine refuses
  | .registerBusyHandler _, .error (.engine _) => some (.busyHandler, none)
  | .clearBusyHandler, .ok _ | .busyTimeout, .ok _ => some (.busyHandler, none)
  | .registerFunction name arity token, .ok _ =>
    some (.ofFunction name arity, some (.function token))
  | .removeFunction name arity, .ok _ => some (.ofFunction name arity, none)
  | _, .error _ => none

/-- What is in a slot once something has happened, if that has changed it. -/
def Entry.effect (key : FunctionKey) : Entry → Option (Option Occupant)
  | .settled id change result =>
    (change.outcome result).bind fun (slot, occupant) =>
      if key = ⟨id, slot⟩ then some occupant else none
  | .reported (.closed id _) => if key.owner = id then some none else none
  | _ => none

/-- What is in a slot once all of some entries, the latest of which is first, have had their
effect. -/
def replay (key : FunctionKey) (entries : List Entry) (before : Option Occupant) :
    Option Occupant :=
  entries.foldr (fun entry occupant => (entry.effect key).getD occupant) before

variable {key : FunctionKey}

/-- A replay goes on from where the earlier entries have led. -/
theorem replay_append (later earlier : List Entry) (before : Option Occupant) :
    replay key (later ++ earlier) before = replay key later (replay key earlier before) := by
  simp [replay]

/-- Each entry puts something in a slot, takes something out, or leaves it. -/
theorem replay_cons (entry : Entry) (earlier : List Entry) (before : Option Occupant) :
    replay key (entry :: earlier) before =
      (entry.effect key).getD (replay key earlier before) := by
  simp [replay]

/-- Entries that have no effect on a slot leave it as it is. -/
theorem replay_of_idle {entries : List Entry} (idle : ∀ entry ∈ entries, entry.effect key = none)
    (before : Option Occupant) : replay key entries before = before := by
  induction entries with
  | nil => rfl
  | cons entry earlier ih =>
    have first : entry.effect key = none := idle entry (by simp)
    have others : replay key earlier before = before := by
      apply ih
      intro other ho
      exact idle other (by simp [ho])
    rw [replay_cons, first, others]
    rfl

namespace Entry

/-- A note that is not about callbacks has no effect on any slot. -/
theorem IsAside.effect_eq_none {entry : Entry} (h : entry.IsAside) (key : FunctionKey) :
    entry.effect key = none := by
  cases entry with
  | settled => exact h.elim
  | reported event =>
    cases event with
    | closed => exact h.elim
    | _ => rfl
  | _ => rfl

/-- A change that has come to its end has no effect on the slots it is not about. -/
theorem effect_settled_of_ne {id : ConnectionId} {change : Change}
    {result : Except BindError Unit} {slot : Slot} {occupant : Option Occupant}
    (outcome : change.outcome result = some (slot, occupant)) (other : key ≠ ⟨id, slot⟩) :
    (settled id change result).effect key = none := by
  simp [effect, outcome, other]

/-- A change that has come to its end leaves in its slot what its outcome says. -/
theorem effect_settled {id : ConnectionId} {change : Change} {result : Except BindError Unit}
    {slot : Slot} {occupant : Option Occupant}
    (outcome : change.outcome result = some (slot, occupant)) :
    (settled id change result).effect ⟨id, slot⟩ = some occupant := by
  simp [effect, outcome]

/-- A change without an outcome has no effect on any slot. -/
theorem effect_settled_of_none {id : ConnectionId} {change : Change}
    {result : Except BindError Unit} (outcome : change.outcome result = none) :
    (settled id change result).effect key = none := by
  simp [effect, outcome]

end Entry

/-! ## Slots that entries account for -/

/-- Some entries account for what has become of a slot: their effects, one after the other, are
what it holds, and if there are none it still holds the same closure. -/
structure Explains (key : FunctionKey) (entries : List Entry)
    (before after : Option (Registration H)) : Prop where
  occupant : after.map Registration.occupant = replay key entries (before.map Registration.occupant)
  untouched : (∀ entry ∈ entries, entry.effect key = none) → after = before

namespace Explains

variable {entries later : List Entry} {before between after : Option (Registration H)}

/-- Entries without effect account for a slot that is as it was. -/
theorem of_idle (idle : ∀ entry ∈ entries, entry.effect key = none) :
    Explains key entries before before := by
  constructor
  · rw [replay_of_idle idle]
  · intro _
    rfl

/-- Entries that account for two pieces of a run account for both of them together. -/
theorem trans (h : Explains key entries before between) (h' : Explains key later between after) :
    Explains key (later ++ entries) before after := by
  constructor
  · rw [replay_append, ← h.occupant, h'.occupant]
  · intro idle
    have first : between = before := by
      apply h.untouched
      intro entry he
      exact idle entry (by simp [he])
    rw [← first]
    apply h'.untouched
    intro entry he
    exact idle entry (by simp [he])

/-- The effect of the latest entry accounts for what is there, whatever went before. -/
theorem of_effect {entry : Entry}
    (effect : entry.effect key = some (after.map Registration.occupant)) :
    Explains key (entry :: entries) before after := by
  constructor
  · rw [replay_cons, effect]
    rfl
  · intro idle
    have none : entry.effect key = none := idle entry (by simp)
    rw [none] at effect
    cases effect

end Explains

/-! ## Worlds whose transcript tells the registry -/

namespace World

/-- What has happened between two worlds accounts for what has become of some slots. -/
def RecountsOn (slots : FunctionKey → Prop) (w v : World E H) : Prop :=
  ∃ entries, v.transcript = entries ++ w.transcript ∧
    ∀ key, slots key → Explains key entries (w.registry.find? key) (v.registry.find? key)

/-- What has happened between two worlds accounts for what has become of the registry. -/
abbrev Recounts (w v : World E H) : Prop := RecountsOn (fun _ => True) w v

/-- What lies between two worlds is not about callbacks, and the program has done nothing
itself. -/
structure Quiet (w v : World E H) : Prop where
  host : v.host = w.host
  registry : v.registry = w.registry
  connections : v.connections = w.connections
  armed : v.armed = w.armed
  transcript : ∃ entries, v.transcript = entries ++ w.transcript ∧
    ∀ entry ∈ entries, ∀ key, entry.effect key = none

variable {w w₁ v : World E H} {slots slots' : FunctionKey → Prop}

namespace RecountsOn

/-- Nothing happens to the registry, and nothing is said of it. -/
theorem of_eq (registry : v.registry = w.registry) (transcript : v.transcript = w.transcript) :
    w.RecountsOn slots v := by
  refine ⟨[], transcript, ?_⟩
  intro key _
  rw [registry]
  exact .of_idle (by simp)

/-- Where nothing has happened there is nothing to account for. -/
theorem refl (w : World E H) : w.RecountsOn slots w := of_eq rfl rfl

/-- An account may follow an account. -/
theorem trans (h : w.RecountsOn slots w₁) (h' : w₁.RecountsOn slots v) :
    w.RecountsOn slots v := by
  obtain ⟨earlier, grown, explained⟩ := h
  obtain ⟨later, grown', explained'⟩ := h'
  refine ⟨later ++ earlier, ?_, ?_⟩
  · rw [grown', grown, List.append_assoc]
  · intro key hkey
    exact (explained key hkey).trans (explained' key hkey)

/-- Fewer slots have to be accounted for. -/
theorem mono (h : w.RecountsOn slots v) (fewer : ∀ key, slots' key → slots key) :
    w.RecountsOn slots' v := by
  obtain ⟨entries, grown, explained⟩ := h
  refine ⟨entries, grown, ?_⟩
  intro key hkey
  exact explained key (fewer key hkey)

/-- Quiet times account for the registry, which they leave alone. -/
theorem of_quiet (h : w.Quiet v) : w.RecountsOn slots v := by
  obtain ⟨entries, grown, idle⟩ := h.transcript
  refine ⟨entries, grown, ?_⟩
  intro key _
  rw [h.registry]
  apply Explains.of_idle
  intro entry he
  exact idle entry he key

/-- An entry with no effect on some slots adds nothing to the account of them. -/
theorem record (h : w.RecountsOn slots v) {entry : Entry}
    (idle : ∀ key, slots key → entry.effect key = none) :
    w.RecountsOn slots (v.record entry) := by
  apply h.trans
  refine ⟨[entry], rfl, ?_⟩
  intro key hkey
  apply Explains.of_idle
  simpa using idle key hkey

/-- An entry whose effect is what is in the other slots makes the account complete. -/
theorem complete (h : w.RecountsOn slots v) {entry : Entry}
    (effect : ∀ key, ¬ slots key → entry.effect key = some (v.occupant key))
    (idle : ∀ key, slots key → entry.effect key = none) : w.Recounts (v.record entry) := by
  obtain ⟨entries, grown, explained⟩ := h
  refine ⟨entry :: entries, congrArg (entry :: ·) grown, ?_⟩
  intro key _
  by_cases hkey : slots key
  · have alone : Explains key [entry] (v.registry.find? key) (v.registry.find? key) := by
      apply Explains.of_idle
      simpa using idle key hkey
    exact (explained key hkey).trans alone
  · exact .of_effect (effect key hkey)

end RecountsOn

namespace Quiet

/-- Nothing changes where nothing happens. -/
theorem refl (w : World E H) : w.Quiet w := ⟨rfl, rfl, rfl, rfl, [], rfl, by simp⟩

/-- What is quiet twice is quiet. -/
theorem trans (h : w.Quiet w₁) (h' : w₁.Quiet v) : w.Quiet v := by
  obtain ⟨earlier, grown, idle⟩ := h.transcript
  obtain ⟨later, grown', idle'⟩ := h'.transcript
  refine ⟨h'.host.trans h.host, h'.registry.trans h.registry, h'.connections.trans h.connections,
    h'.armed.trans h.armed, later ++ earlier, ?_, ?_⟩
  · rw [grown', grown, List.append_assoc]
  · intro entry he
    rcases List.mem_append.mp he with he | he
    · exact idle' entry he
    · exact idle entry he

/-- Taking a note is quiet, unless the note is about callbacks. -/
theorem record (w : World E H) {entry : Entry} (idle : ∀ key, entry.effect key = none) :
    w.Quiet (w.record entry) :=
  ⟨rfl, rfl, rfl, rfl, [entry], rfl, by simpa using idle⟩

/-- Making a call is quiet. -/
theorem asked (w : World E H) (c : Call) : w.Quiet (w.asked c) :=
  ⟨rfl, rfl, rfl, rfl, [.called c (w.answer c)], rfl, by simp [Entry.effect]⟩

end Quiet

end World

/-- Asking is quiet. -/
theorem AskedBy.quiet {P : Call → Prop} {w v : World E H} (h : AskedBy P w v) : w.Quiet v := by
  induction h with
  | refl => exact .refl w
  | tail _ step ih =>
    obtain ⟨entry, aside, rfl⟩ | ⟨c, -, rfl⟩ := step
    · exact ih.trans (.record _ aside.effect_eq_none)
    · exact ih.trans (.asked _ c)

/-! ## Computations whose transcript tells the registry -/

variable {α β ε : Type}

/-- What happens during a computation accounts for what becomes of the registry. -/
def Bridge.Recounts (m : Bridge E H α) : Prop := ∀ w : World E H, w.Recounts (m w).2

namespace Bridge.Recounts

/-- A value that is just given is accounted for. -/
theorem pure (a : α) : Bridge.Recounts (Pure.pure a : Bridge E H α) := fun w => .refl w

/-- A sequence is accounted for if its parts are. -/
theorem bind {m : Bridge E H α} {f : α → Bridge E H β} (h : Bridge.Recounts m)
    (next : ∀ a, Bridge.Recounts (f a)) : Bridge.Recounts (m >>= f) :=
  fun w => (h w).trans (next _ _)

/-- The world is looked at. -/
theorem get_bind {f : World E H → Bridge E H β} (next : ∀ w, Bridge.Recounts (f w)) :
    Bridge.Recounts (get >>= f) :=
  fun w => next w w

/-- Nothing is said, and the registry is left alone. -/
theorem modifyGet {f : World E H → α × World E H}
    (registry : ∀ w, (f w).2.registry = w.registry)
    (transcript : ∀ w, (f w).2.transcript = w.transcript) :
    Bridge.Recounts (modifyGet f : Bridge E H α) :=
  fun w => .of_eq (registry w) (transcript w)

/-- Something is noted that is not about callbacks. -/
theorem record {entry : Entry} (idle : ∀ key, entry.effect key = none) :
    Bridge.Recounts (Bridge.record entry : Bridge E H Unit) :=
  fun w => .of_quiet (.record w idle)

/-- Something is asked. -/
theorem of_asks {P : Call → Prop} {m : Bridge E H α} (h : Asks P m) : Bridge.Recounts m :=
  fun w => .of_quiet (h w).quiet

/-- Something is done with each element of a list. -/
theorem forM {f : α → Bridge E H Unit} (h : ∀ a, Bridge.Recounts (f a)) (as : List α) :
    Bridge.Recounts (as.forM f) := by
  induction as with
  | nil => exact pure ()
  | cons a as ih =>
    rw [List.forM_eq_forM, List.forM_cons]
    exact (h a).bind fun _ => ih

/-- A success that is just given is accounted for. -/
theorem run_pure (a : α) : Bridge.Recounts (Pure.pure a : ExceptT ε (Bridge E H) α).run := pure _

/-- A failure that is just raised is accounted for. -/
theorem run_throw (e : ε) : Bridge.Recounts (throw e : ExceptT ε (Bridge E H) α).run := pure _

/-- A sequence that can fail is accounted for if its parts are. -/
theorem run_bind {m : ExceptT ε (Bridge E H) α} {f : α → ExceptT ε (Bridge E H) β}
    (h : Bridge.Recounts m.run) (next : ∀ a, Bridge.Recounts (f a).run) :
    Bridge.Recounts (m >>= f).run := by
  rw [ExceptT.run_bind]
  apply bind h
  rintro (e | a)
  · exact pure _
  · exact next a

/-- A computation that cannot fail, as one that can. -/
theorem run_lift {m : Bridge E H α} (h : Bridge.Recounts m) :
    Bridge.Recounts (ExceptT.lift m : ExceptT ε (Bridge E H) α).run :=
  bind h fun _ => pure _

end Bridge.Recounts

end EngineBridge
