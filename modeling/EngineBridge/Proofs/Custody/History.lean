import EngineBridge.Transcript

/-!
# What a transcript says

A transcript, the latest entry first, is all that is known of the engine.  From it one can
tell which objects the engine has handed out and taken back, which functions it has
accepted, and how changes of callbacks have ended.
-/

set_option autoImplicit false

namespace EngineBridge

open Native

namespace Entry

/-- The arguments of the native call that was made or begun. -/
def operands : Entry → List Operand
  | .called c _ => c.operands
  | .began x => x.operands
  | _ => []

/-- The object behind a connection that the engine has handed out. -/
def allots : Entry → Option Database
  | .called (.openV2 ..) answer => answer.database
  | _ => none

/-- A connection has been opened. -/
def IsOpening : Entry → Prop
  | .reported (.opened ..) => True
  | _ => False

/-- The object behind a connection that was asked to be closed, and the answer. -/
def closes : Entry → Option (Database × Int32)
  | .called (.closeV2 d) code => some (d, code)
  | _ => none

/-- The object behind a statement that the engine has handed out, and that behind its
connection. -/
def prepares : Entry → Option (Program × Database)
  | .called (.prepareV2 d _ _) answer => answer.program.map (·, d)
  | _ => none

/-- The engine hands out an object behind a statement only if it reports success. -/
def isSound : Entry → Bool
  | .called (.prepareV2 _ _ _) answer => answer.program.isNone || answer.code == 0
  | _ => true

/-- The object behind a statement that the engine was told to let go. -/
def finalizes : Entry → Option Program
  | .called (.finalize p) _ => some p
  | _ => none

/-- A function that the engine has agreed to define on an object: its slot, and whether it
has an entry point or is to be no more. -/
def defines : Entry → Option (Database × Slot × Bool)
  | .called (.createFunctionV2 d name arity _ _ scalar _ _ _) code =>
    if code = (0 : Int32) then
      match CString.decode (some name) with
      | .ok (some text) => some (d, .ofFunction text arity, scalar)
      | _ => none
    else none
  | _ => none

end Entry

/-- Every entry fits what happened before it. -/
inductive Throughout (fits : Entry → List Entry → Prop) : List Entry → Prop
  | nil : Throughout fits []
  | cons {entry : Entry} {earlier : List Entry} (now : fits entry earlier)
      (before : Throughout fits earlier) : Throughout fits (entry :: earlier)

namespace Throughout

variable {fits : Entry → List Entry → Prop} {entry : Entry} {earlier log : List Entry}

/-- The latest entry fits what happened before it. -/
theorem now (h : Throughout fits (entry :: earlier)) : fits entry earlier := by
  cases h with
  | cons now _ => exact now

/-- What holds throughout a transcript held throughout it before. -/
theorem before (h : Throughout fits (entry :: earlier)) : Throughout fits earlier := by
  cases h with
  | cons _ before => exact before

/-- What holds throughout a transcript holds of each entry in it and what was before. -/
theorem of_mem (h : Throughout fits log) (hmem : entry ∈ log) :
    ∃ earlier, earlier ⊆ log ∧ fits entry earlier := by
  induction h with
  | nil => cases hmem
  | @cons latest earlier now before ih =>
    rcases List.mem_cons.mp hmem with rfl | hmem
    · exact ⟨earlier, List.subset_cons_self _ _, now⟩
    · obtain ⟨first, hsub, hfits⟩ := ih hmem
      exact ⟨first, List.subset_cons_of_subset _ hsub, hfits⟩

/-- What follows from a condition that holds throughout holds throughout as well. -/
theorem imp {fits' : Entry → List Entry → Prop} (h : Throughout fits log)
    (weaken : ∀ entry earlier, fits entry earlier → fits' entry earlier) :
    Throughout fits' log := by
  induction h with
  | nil => exact .nil
  | cons now _ ih => exact .cons (weaken _ _ now) ih

/-- What holds throughout a transcript held throughout it at any time. -/
theorem of_append {more : List Entry} (h : Throughout fits (more ++ log)) : Throughout fits log := by
  induction more with
  | nil => exact h
  | cons entry more ih => exact ih h.before

end Throughout

/-! ## Objects of the engine -/

/-- The engine has handed out an object, and has not agreed to close it since. -/
def InUse (d : Database) : List Entry → Prop
  | [] => False
  | entry :: earlier => entry.allots = some d ∨ entry.closes ≠ some (d, 0) ∧ InUse d earlier

/-- The engine has handed out an object, and no connection has been opened since. -/
def Pending (d : Database) : List Entry → Prop
  | [] => False
  | entry :: earlier => ¬ entry.IsOpening ∧ (entry.allots = some d ∨ Pending d earlier)

/-- An object is gone: the engine has agreed to close it, or was told to close it on the way
to a failure to open a connection. -/
def Gone (d : Database) : List Entry → Prop
  | [] => False
  | entry :: earlier =>
    (∃ code, entry.closes = some (d, code) ∧ (code = 0 ∨ Pending d earlier)) ∨ Gone d earlier

/-- The engine hands out no object for a connection that is still in use. -/
def Allotting (entry : Entry) (earlier : List Entry) : Prop :=
  ∀ d, entry.allots = some d → ¬ InUse d earlier

/-- The engine hands out objects that it has never handed out before, and one for a
statement only if it reports success. -/
structure Fresh (entry : Entry) (earlier : List Entry) : Prop where
  allots : ∀ d, entry.allots = some d → ∀ other ∈ earlier, other.allots ≠ some d
  prepares : ∀ p d, entry.prepares = some (p, d) →
    ∀ other ∈ earlier, ∀ d', other.prepares ≠ some (p, d')
  sound : entry.isSound

/-- The engine never hands out an object twice, and one for a statement only if it reports
success. -/
structure Faithful (log : List Entry) : Prop where
  databases : (log.filterMap Entry.allots).Nodup
  programs : ((log.filterMap Entry.prepares).map Prod.fst).Nodup
  sound : log.all Entry.isSound

/-- No call names an object that the engine has not handed out or that is gone, and a
connection is not closed before its statements are finalized. -/
structure Lawful (entry : Entry) (earlier : List Entry) : Prop where
  allotted : ∀ d, .database d ∈ entry.operands → ∃ other ∈ earlier, other.allots = some d
  kept : ∀ d, .database d ∈ entry.operands → ¬ Gone d earlier
  prepared : ∀ p, .program p ∈ entry.operands →
    ∃ other ∈ earlier, ∃ d, other.prepares = some (p, d)
  unfinalized : ∀ p, .program p ∈ entry.operands → ∀ other ∈ earlier, other.finalizes ≠ some p
  ordered : ∀ d, entry.closes = some (d, 0) →
    ∀ other ∈ earlier, ∀ p, other.prepares = some (p, d) →
      ∃ last ∈ earlier, last.finalizes = some p

/-- An object that is in use has been handed out. -/
theorem InUse.allotted {d : Database} {log : List Entry} (h : InUse d log) :
    ∃ entry ∈ log, entry.allots = some d := by
  induction log with
  | nil => exact h.elim
  | cons entry earlier ih =>
    rcases h with h | ⟨-, h⟩
    · exact ⟨entry, List.mem_cons_self, h⟩
    · obtain ⟨other, hmem, hother⟩ := ih h
      exact ⟨other, List.mem_cons_of_mem _ hmem, hother⟩

/-- An object that is new is not in use. -/
theorem Fresh.allotting {entry : Entry} {earlier : List Entry} (h : Fresh entry earlier) :
    Allotting entry earlier := by
  intro d hd used
  obtain ⟨other, hmem, hother⟩ := used.allotted
  exact h.allots d hd other hmem hother

/-- An engine that never hands out an object twice hands out new ones only. -/
theorem Faithful.fresh {log : List Entry} (h : Faithful log) : Throughout Fresh log := by
  induction log with
  | nil => exact .nil
  | cons entry earlier ih =>
    obtain ⟨databases, programs, sound⟩ := h
    rw [List.all_cons, Bool.and_eq_true] at sound
    have allots : (entry.allots.toList ++ earlier.filterMap Entry.allots).Nodup := by
      cases heq : entry.allots with
      | none => simpa [List.filterMap_cons, heq] using databases
      | some d => simpa [List.filterMap_cons, heq] using databases
    have prepares : ((entry.prepares.toList ++ earlier.filterMap Entry.prepares).map
        Prod.fst).Nodup := by
      cases heq : entry.prepares with
      | none => simpa [List.filterMap_cons, heq] using programs
      | some pair => simpa [List.filterMap_cons, heq] using programs
    rw [List.map_append] at prepares
    refine .cons ⟨?_, ?_, sound.1⟩ (ih ⟨(List.nodup_append.mp allots).2.1,
      (List.nodup_append.mp prepares).2.1, sound.2⟩)
    · intro d hd other ho hother
      refine (List.nodup_append.mp allots).2.2 d ?_ d ?_ rfl
      · rw [hd]
        exact List.mem_singleton_self d
      · exact List.mem_filterMap.mpr ⟨other, ho, hother⟩
    · intro p d hp other ho d' hother
      refine (List.nodup_append.mp prepares).2.2 p ?_ p ?_ rfl
      · rw [hp]
        exact List.mem_singleton_self p
      · exact List.mem_map.mpr ⟨(p, d'), List.mem_filterMap.mpr ⟨other, ho, hother⟩, rfl⟩

/-! ## Callbacks -/

/-- The latest function that the engine has agreed to define in a slot of an object, since
the object was handed out: whether it has an entry point, and what happened before. -/
def latestDefinition (d : Database) (slot : Slot) : List Entry → Option (Bool × List Entry)
  | [] => none
  | entry :: earlier =>
    if entry.allots = some d then none
    else
      match entry.defines with
      | some (other, place, scalar) =>
        if other = d ∧ place = slot then some (scalar, earlier)
        else latestDefinition d slot earlier
      | none => latestDefinition d slot earlier

/-- The busy handler after a change, as it should be: a change that fails changes nothing. -/
def Change.intended : Change → Except BindError Unit → Option Nat → Option Nat
  | .registerBusyHandler token, .ok _, _ => some token
  | .clearBusyHandler, .ok _, _ | .busyTimeout, .ok _, _ => none
  | _, _, before => before

/-- The busy handler after a change, as it is: a handler that cannot be installed leaves no
handler behind. -/
def Change.actual : Change → Except BindError Unit → Option Nat → Option Nat
  | .registerBusyHandler _, .error _, _ => none
  | change, result, before => change.intended result before

/-- The busy handler of a connection after all that happened, by a rule for single
changes. -/
def handlerBy (rule : Change → Except BindError Unit → Option Nat → Option Nat)
    (id : ConnectionId) : List Entry → Option Nat
  | [] => none
  | .settled other change result :: earlier =>
    if other = id then rule change result (handlerBy rule id earlier)
    else handlerBy rule id earlier
  | _ :: earlier => handlerBy rule id earlier

/-- A busy handler of a connection could not be installed, and no change of its busy handler
has succeeded since. -/
def Disturbed (id : ConnectionId) : List Entry → Prop
  | [] => False
  | .settled other (.registerBusyHandler _) (.error _) :: earlier =>
    other = id ∨ Disturbed id earlier
  | .settled other (.registerBusyHandler _) (.ok _) :: earlier
  | .settled other .clearBusyHandler (.ok _) :: earlier
  | .settled other .busyTimeout (.ok _) :: earlier => other ≠ id ∧ Disturbed id earlier
  | _ :: earlier => Disturbed id earlier

end EngineBridge
