import EngineBridge.Connection.Basic
import EngineBridge.Value

/-!
# The callback registry

Closures cannot be handed to the engine, which knows nothing but an entry point and
a word of context.  They are kept in a registry under the connection they belong to
and their slot in it, and the entry points find them there.

The program that registers closures is described by a `Host`: what its callbacks can
do, and its own state, which they may change.
-/

set_option autoImplicit false

namespace EngineBridge

/-- A program that uses the library. -/
structure Host where
  /-- The state of the program. -/
  State : Type
  /-- The code of a busy handler. -/
  Handler : Type
  /-- The code of a user function. -/
  Function : Type

/-- Code together with what it has captured.  Two closures are never the same, even if
their code is. -/
structure Closure (Code : Type) where
  /-- The number of the closure. -/
  token : Nat
  code : Code
  /-- The connection that the closure owns, if it owns one. -/
  owned : Option Connection := none

/-- A closure in the registry. -/
inductive Registration (H : Host) where
  | busy (handler : Closure H.Handler)
  | function (function : Closure H.Function)

/-- The connection that a registered closure owns, if it owns one. -/
def Registration.owned {H : Host} : Registration H → Option Connection
  | .busy c => c.owned
  | .function c => c.owned

/-- Closures by connection and slot, those registered first in front. -/
structure Registry (H : Host) where
  entries : List (FunctionKey × Registration H) := []
  /-- No slot has two entries. -/
  distinct : entries.Pairwise (·.1 ≠ ·.1) := by exact List.Pairwise.nil

namespace Registry

variable {H : Host}

/-- The closure in a slot. -/
def find? (r : Registry H) (key : FunctionKey) : Option (Registration H) :=
  (r.entries.find? (·.1 == key)).map (·.2)

/-- The registry with a slot emptied. -/
def erase (r : Registry H) (key : FunctionKey) : Registry H :=
  ⟨r.entries.filter (·.1 != key), r.distinct.filter _⟩

/-- An emptied slot has no entry. -/
theorem ne_of_mem_erase {r : Registry H} {key : FunctionKey} {entry : FunctionKey × Registration H}
    (h : entry ∈ (r.erase key).entries) : entry.1 ≠ key := by
  simpa using (List.mem_filter.mp h).2

/-- The registry with a closure in a slot, in place of any other there. -/
def insert (r : Registry H) (key : FunctionKey) (registration : Registration H) : Registry H where
  entries := (r.erase key).entries ++ [(key, registration)]
  distinct := by
    refine List.pairwise_append.mpr ⟨(r.erase key).distinct, List.pairwise_singleton _ _, ?_⟩
    rintro entry he _ hlast
    rw [List.mem_singleton.mp hlast]
    exact ne_of_mem_erase he

/-- The closures of a connection. -/
def ownedBy (r : Registry H) (owner : ConnectionId) : List (Registration H) :=
  (r.entries.filter (·.1.owner == owner)).map (·.2)

/-- The registry without the closures of a connection. -/
def eraseOwner (r : Registry H) (owner : ConnectionId) : Registry H :=
  ⟨r.entries.filter (·.1.owner != owner), r.distinct.filter _⟩

/-- How many closures a connection has. -/
def count (r : Registry H) (owner : ConnectionId) : Nat :=
  (r.ownedBy owner).length

/-- How many closures there are. -/
def size (r : Registry H) : Nat := r.entries.length

/-- A slot holds what was put there last. -/
theorem find?_insert_self (r : Registry H) (key : FunctionKey) (registration : Registration H) :
    (r.insert key registration).find? key = some registration := by
  have h : (r.erase key).entries.find? (·.1 == key) = none := by
    simp [erase, List.find?_eq_none]
  simp [find?, insert, List.find?_append, h]

/-- An emptied slot holds nothing. -/
theorem find?_erase_self (r : Registry H) (key : FunctionKey) :
    (r.erase key).find? key = none := by
  simp [find?, erase, List.find?_eq_none]

/-- Emptying one slot leaves the others alone. -/
theorem find?_erase_of_ne (r : Registry H) {key other : FunctionKey} (h : other ≠ key) :
    (r.erase key).find? other = r.find? other := by
  obtain ⟨entries, distinct⟩ := r
  simp only [find?, erase]
  clear distinct
  induction entries with
  | nil => rfl
  | cons entry rest ih =>
    by_cases hk : entry.1 = key
    · simpa [hk, h.symm] using ih
    · by_cases ho : entry.1 = other
      · simp [ho, h]
      · simpa [hk, ho] using ih

/-- Putting a closure into one slot leaves the others alone. -/
theorem find?_insert_of_ne (r : Registry H) {key other : FunctionKey} (h : other ≠ key)
    (registration : Registration H) :
    (r.insert key registration).find? other = r.find? other := by
  rw [← find?_erase_of_ne r h]
  simp [find?, insert, List.find?_append, h.symm]

/-- Taking the closures of one connection away leaves the others alone. -/
theorem find?_eraseOwner_of_ne (r : Registry H) {owner : ConnectionId} {key : FunctionKey}
    (h : key.owner ≠ owner) : (r.eraseOwner owner).find? key = r.find? key := by
  obtain ⟨entries, distinct⟩ := r
  simp only [find?, eraseOwner]
  clear distinct
  induction entries with
  | nil => rfl
  | cons entry rest ih =>
    by_cases hk : entry.1 = key
    · simp [hk, h]
    · by_cases ho : entry.1.owner = owner
      · simpa [ho, hk] using ih
      · simpa [ho, hk] using ih

/-- A connection whose closures are gone has nothing in its slots. -/
theorem find?_eraseOwner_self (r : Registry H) (key : FunctionKey) :
    (r.eraseOwner key.owner).find? key = none := by
  simp only [find?, eraseOwner, Option.map_eq_none_iff, List.find?_eq_none, List.mem_filter]
  rintro entry ⟨-, h⟩ he
  simp_all

end Registry

end EngineBridge
