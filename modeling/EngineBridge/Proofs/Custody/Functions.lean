import EngineBridge.Proofs.Custody.Objects
import EngineBridge.Text.Utf8.Lemmas

/-!
# Functions in the registry

The engine keeps a table of the functions of each of its objects, and the registry keeps
their closures.  The two agree at every stage: a closure is in the slot of a function
exactly if the engine has agreed to define the function and not to remove it since, and it
is the closure that was given along with that definition.
-/

set_option autoImplicit false

namespace EngineBridge

open Native

variable {E : Engine} {H : Host}

/-- What was made into a string for the engine is read from it. -/
theorem CString.decode_ofText {text : String} {s : CString} (h : CString.ofText text = .ok s) :
    CString.decode (some s) = .ok (some text) := by
  simp only [CString.decode, CString.content_ofText h, Utf8.decode_encode]

/-- The engine has agreed to define a function under a name. -/
theorem Entry.defines_create {d : Database} {name : String} {text : CString} {arity rep : Int32}
    {context : Option FunctionKey} {scalar step final destroy : Bool} {code : Int32}
    (named : CString.ofText name = .ok text) (done : code = 0) :
    (Entry.called (.createFunctionV2 d text arity rep context scalar step final destroy)
      code).defines = some (d, .ofFunction name arity, scalar) := by
  simp only [Entry.defines, if_pos done, CString.decode_ofText named]

namespace Native

variable {d : Database} {slot : Slot} {entry : Entry} {log : List Entry}

/-- An object that has just been handed out has no functions. -/
theorem latestDefinition_allots (h : entry.allots = some d) :
    latestDefinition d slot (entry :: log) = none := by
  simp only [latestDefinition, if_pos h]

/-- A definition is the latest one until there is another one. -/
theorem latestDefinition_cons (allots : entry.allots ≠ some d)
    (defines : ∀ scalar, entry.defines ≠ some (d, slot, scalar)) :
    latestDefinition d slot (entry :: log) = latestDefinition d slot log := by
  simp only [latestDefinition, if_neg allots]
  split
  · next other place scalar h =>
    refine if_neg ?_
    rintro ⟨rfl, rfl⟩
    exact defines scalar h
  · rfl

/-- What has been defined just now is the latest definition. -/
theorem latestDefinition_defines {scalar : Bool} (allots : entry.allots = none)
    (defines : entry.defines = some (d, slot, scalar)) :
    latestDefinition d slot (entry :: log) = some (scalar, log) := by
  simp [latestDefinition, allots, defines]

end Native

/-- A slot of a connection holds what the latest definition says: the closure of the request
that led to the definition, or nothing. -/
def Reflects (id : ConnectionId) (slot : Slot) (found : Option (Registration H)) :
    Option (Bool × List Entry) → Prop
  | some (true, earlier) =>
    ∃ (function : Closure H.Function) (name : String) (arity : Int32) (before : List Entry),
      found = some (.function function) ∧ slot = .ofFunction name arity ∧
        earlier = .reported (.nativeCall .createFunctionV2) ::
          .requested id (.registerFunction name arity function.token) :: before
  | _ => found = none

/-- The slots of functions hold what the latest definitions say. -/
structure Stage.Defined (s : Stage E H) : Prop where
  functions : ∀ id d name arity, s.world.target id = some d →
    Reflects id (.function name arity) (s.world.registry.find? ⟨id, .function name arity⟩)
      (latestDefinition d (.function name arity) s.world.transcript)
  opening : ∀ d slot, s.custody.opening = some d →
    latestDefinition d slot s.world.transcript = none

namespace Stage.Defined

variable {s s' : Stage E H}

/-- Slots are right as long as nothing is defined or handed out. -/
theorem append (h : s.Defined) {entry : Entry} (allots : entry.allots = none)
    (defines : entry.defines = none) (opening : s'.custody.opening = s.custody.opening)
    (target : s'.world.target = s.world.target) (registry : s'.world.registry = s.world.registry)
    (transcript : s'.world.transcript = entry :: s.world.transcript) : s'.Defined := by
  have latest (d : Database) (slot : Slot) : latestDefinition d slot s'.world.transcript =
      latestDefinition d slot s.world.transcript := by
    rw [transcript]
    exact latestDefinition_cons (by simp [allots]) (by simp [defines])
  constructor
  · intro id d name arity hd
    rw [target] at hd
    rw [registry, latest]
    exact h.functions id d name arity hd
  · intro d slot hd
    rw [opening] at hd
    rw [latest]
    exact h.opening d slot hd

/-- Neutral entries keep slots right. -/
theorem neutral (h : s.Defined) {entry : Entry} (hn : entry.Neutral)
    (opening : s'.custody.opening = s.custody.opening)
    (target : s'.world.target = s.world.target) (registry : s'.world.registry = s.world.registry)
    (transcript : s'.world.transcript = entry :: s.world.transcript) : s'.Defined :=
  h.append hn.allots hn.defines opening target registry transcript

/-- Slots of functions are right whatever happens to other slots. -/
theorem elsewhere (h : s.Defined) (opening : s'.custody.opening = s.custody.opening)
    (target : s'.world.target = s.world.target)
    (transcript : s'.world.transcript = s.world.transcript)
    (registry : ∀ id name arity, s'.world.registry.find? ⟨id, .function name arity⟩ =
      s.world.registry.find? ⟨id, .function name arity⟩) : s'.Defined := by
  constructor
  · intro id d name arity hd
    rw [target] at hd
    rw [registry, transcript]
    exact h.functions id d name arity hd
  · intro d slot hd
    rw [opening] at hd
    rw [transcript]
    exact h.opening d slot hd

/-- A slot whose definition changes is right if it reflects that definition. -/
theorem redefine (h : s.Defined) (apart : s.Apart) {entry : Entry} {id : ConnectionId}
    {d : Database} {slot : Slot} {scalar : Bool} (allots : entry.allots = none)
    (defines : entry.defines = some (d, slot, scalar)) (live : s.world.target id = some d)
    (opening : s'.custody.opening = s.custody.opening)
    (target : s'.world.target = s.world.target)
    (transcript : s'.world.transcript = entry :: s.world.transcript)
    (registry : ∀ key, key ≠ ⟨id, slot⟩ →
      s'.world.registry.find? key = s.world.registry.find? key)
    (reflects : Reflects id slot (s'.world.registry.find? ⟨id, slot⟩)
      (some (scalar, s.world.transcript))) : s'.Defined := by
  have latest (other : Database) (place : Slot) (hne : other ≠ d ∨ place ≠ slot) :
      latestDefinition other place s'.world.transcript =
        latestDefinition other place s.world.transcript := by
    rw [transcript]
    refine latestDefinition_cons (by simp [allots]) fun _ hd => ?_
    have heq := Option.some.inj (defines.symm.trans hd)
    rcases hne with hne | hne
    · exact hne (congrArg Prod.fst heq).symm
    · exact hne (congrArg (·.2.1) heq).symm
  constructor
  · intro other d' name arity hd
    rw [target] at hd
    by_cases hkey : (⟨other, .function name arity⟩ : FunctionKey) = ⟨id, slot⟩
    · obtain ⟨rfl, rfl⟩ := FunctionKey.mk.inj hkey
      obtain rfl : d = d' := Option.some.inj (live.symm.trans hd)
      rw [transcript, latestDefinition_defines allots defines]
      exact reflects
    · rw [registry _ hkey, latest]
      · exact h.functions other d' name arity hd
      · by_cases hslot : Slot.function name arity = slot
        · refine .inl fun heq => hkey ?_
          rw [apart.distinct other id d (heq ▸ hd) live, hslot]
        · exact .inr hslot
  · intro other place hopening
    rw [opening] at hopening
    rw [latest other place (.inl fun heq => apart.fresh id d (heq ▸ hopening) live)]
    exact h.opening other place hopening

end Stage.Defined

/-- Moves keep the slots of functions right. -/
theorem Move.defined {s s' : Stage E H} (move : Move s s') (coherent : s.Coherent)
    (owned : s.Owned) (allotting : Throughout Allotting s'.world.transcript) (apart : s.Apart)
    (h : s.Defined) : s'.Defined := by
  cases move with
  | note hn => exact h.neutral hn.neutral rfl rfl rfl rfl
  | call plain => exact h.neutral plain.neutral rfl rfl rfl rfl
  | began => exact h.neutral (Entry.neutral_began _) rfl rfl rfl rfl
  | @allocate κ w path flags vfs idle =>
    -- an object in use is not handed out again, so what was defined on it stays defined
    have unused : ∀ d, (w.answer (.openV2 path flags vfs)).database = some d →
        ¬ InUse d w.transcript := allotting.now
    constructor
    · intro id d name arity hd
      have hlatest : latestDefinition d (.function name arity)
          (w.asked (.openV2 path flags vfs)).transcript =
            latestDefinition d (.function name arity) w.transcript :=
        latestDefinition_cons (fun hd' => unused d hd' (apart.armed id d hd)) nofun
      rw [hlatest]
      exact h.functions id d name arity hd
    · exact fun d slot hd => latestDefinition_allots hd
  | @abandon κ w d opening =>
    constructor
    · intro id other name arity hother
      have hlatest : latestDefinition other (.function name arity)
          (w.asked (.closeV2 d)).transcript =
            latestDefinition other (.function name arity) w.transcript :=
        latestDefinition_cons nofun nofun
      rw [hlatest]
      exact h.functions id other name arity hother
    · exact nofun
  | @adopt κ w x rest d path opening hand unopened =>
    have hand' : x ∈ Stage.held (⟨κ, w⟩ : Stage E H) :=
      Stage.mem_held_of_exclusive (s := ⟨κ, w⟩) (hand ▸ Multiset.mem_cons_self x rest)
    constructor
    · intro id other name arity hother
      have hlatest : latestDefinition other (.function name arity)
          (((Bridge.arm x.id d w).2).record (.reported (.opened x.id path))).transcript =
            latestDefinition other (.function name arity) w.transcript :=
        latestDefinition_cons nofun nofun
      rw [hlatest]
      -- nothing was defined on an object that has just been made, nor registered for its connection
      rcases w.of_target_arm x.id d hother with ⟨rfl, rfl⟩ | ⟨-, hother⟩
      · rw [h.opening other (.function name arity) opening]
        exact owned.vacant coherent hand' unopened _
      · exact h.functions id other name arity hother
    · exact nofun
  | @close κ w x rest d hand database done =>
    constructor
    · intro id other name arity hother
      have hlatest : latestDefinition other (.function name arity)
          (w.asked (.closeV2 d)).transcript =
            latestDefinition other (.function name arity) w.transcript :=
        latestDefinition_cons nofun nofun
      obtain ⟨hid, live⟩ := (w.asked (.closeV2 d)).of_target_disarm x.id hother
      have kept : (w.registry.eraseOwner x.id).find? ⟨id, .function name arity⟩ =
          w.registry.find? ⟨id, .function name arity⟩ :=
        Registry.find?_eraseOwner_of_ne w.registry hid
      have reflects := h.functions id other name arity live
      rw [← hlatest, ← kept] at reflects
      exact reflects
    · intro other slot hother
      have hlatest : latestDefinition other slot (w.asked (.closeV2 d)).transcript =
          latestDefinition other slot w.transcript :=
        latestDefinition_cons nofun nofun
      exact hlatest.trans (h.opening other slot hother)
  | refuseClose => exact h.append rfl rfl rfl rfl rfl rfl
  | prepare => exact h.append rfl rfl rfl rfl rfl rfl
  | reset => exact h.append rfl rfl rfl rfl rfl rfl
  | step => exact h.neutral (Entry.neutral_ended _ _) rfl rfl rfl rfl
  | finalize => exact h.append rfl rfl rfl rfl rfl rfl
  | @installFunction κ w x d text name arity rep function rest earlier hand database named owned
      asked done =>
    have live : w.target x.id = some d := coherent.target_of_shared hand database
    refine h.redefine apart rfl (Entry.defines_create named done) live rfl rfl rfl
      (fun key hkey => Registry.find?_insert_of_ne _ hkey _) ?_
    exact ⟨function, name, arity, earlier, Registry.find?_insert_self _ _ _, rfl, asked⟩
  | @removeFunction κ w x d text name arity rep hand database named done =>
    have live : w.target x.id = some d := coherent.target_of_shared hand database
    exact h.redefine apart rfl (Entry.defines_create named done) live rfl rfl rfl
      (fun key hkey => Registry.find?_erase_of_ne _ hkey) (Registry.find?_erase_self _ _)
  | installBusy =>
    exact h.elsewhere rfl rfl rfl fun _ _ _ => Registry.find?_insert_of_ne _ (by simp) _
  | removeBusy =>
    exact h.elsewhere rfl rfl rfl fun _ _ _ => Registry.find?_erase_of_ne _ (by simp)
  | settle => exact h.neutral (Entry.neutral_settled _ _ _) rfl rfl rfl rfl
  | refuseBusy => exact h.neutral (Entry.neutral_settled _ _ _) rfl rfl rfl rfl
  | _ => exact ⟨h.functions, h.opening⟩

end EngineBridge
