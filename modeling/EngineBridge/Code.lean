/-!
# Result codes

The result codes of the engine and what they say.  A code may carry extended
information in its higher bits; its low eight bits are the primary code.
-/

set_option autoImplicit false

namespace EngineBridge

/-- The result codes that have names. -/
inductive NamedCode where
  | ok | error | internal | perm | abort | busy | locked | nomem | readonly | interrupt | ioerr
  | corrupt | notfound | full | cantopen | protocol | schema | toobig | constraint | mismatch
  | misuse | range | notadb | row | done
deriving DecidableEq

namespace NamedCode

/-- The named codes, in the order of their values. -/
def all : List NamedCode :=
  [.ok, .error, .internal, .perm, .abort, .busy, .locked, .nomem, .readonly, .interrupt, .ioerr,
   .corrupt, .notfound, .full, .cantopen, .protocol, .schema, .toobig, .constraint, .mismatch,
   .misuse, .range, .notadb, .row, .done]

/-- The value of a named code. -/
def value : NamedCode → Int32
  | .ok => 0 | .error => 1 | .internal => 2 | .perm => 3 | .abort => 4 | .busy => 5
  | .locked => 6 | .nomem => 7 | .readonly => 8 | .interrupt => 9 | .ioerr => 10
  | .corrupt => 11 | .notfound => 12 | .full => 13 | .cantopen => 14 | .protocol => 15
  | .schema => 17 | .toobig => 18 | .constraint => 19 | .mismatch => 20 | .misuse => 21
  | .range => 25 | .notadb => 26 | .row => 100 | .done => 101

/-- The name of a named code. -/
def name : NamedCode → String
  | .ok => "OK" | .error => "ERROR" | .internal => "INTERNAL" | .perm => "PERM"
  | .abort => "ABORT" | .busy => "BUSY" | .locked => "LOCKED" | .nomem => "NOMEM"
  | .readonly => "READONLY" | .interrupt => "INTERRUPT" | .ioerr => "IOERR"
  | .corrupt => "CORRUPT" | .notfound => "NOTFOUND" | .full => "FULL"
  | .cantopen => "CANTOPEN" | .protocol => "PROTOCOL" | .schema => "SCHEMA"
  | .toobig => "TOOBIG" | .constraint => "CONSTRAINT" | .mismatch => "MISMATCH"
  | .misuse => "MISUSE" | .range => "RANGE" | .notadb => "NOTADB" | .row => "ROW"
  | .done => "DONE"

/-- The code with a name. -/
def ofName? (name : String) : Option NamedCode :=
  all.find? (·.name == name)

end NamedCode

/-- The low eight bits of a result code. -/
def primaryCode (code : Int32) : Int32 := code &&& 0xff

/-- What a result code says. -/
inductive ResultClass where
  | ok
  | row
  | done
  | busy
  | error (code : Int32)
deriving DecidableEq

/-- What a result code says: success, a row and the end of a run are single codes, and
every extended form of the busy code counts as busy. -/
def ResultClass.ofCode (code : Int32) : ResultClass :=
  if code = NamedCode.ok.value then .ok
  else if code = NamedCode.row.value then .row
  else if code = NamedCode.done.value then .done
  else if primaryCode code = NamedCode.busy.value then .busy
  else .error code

/-- Success is one code. -/
theorem ResultClass.ofCode_eq_ok_iff (code : Int32) : ofCode code = .ok ↔ code = 0 := by
  constructor
  · intro h
    by_cases h0 : code = NamedCode.ok.value
    · exact h0
    · simp only [ofCode, if_neg h0] at h
      repeat' split at h
      all_goals cases h
  · rintro rfl
    rfl

/-- A row is one code. -/
theorem ResultClass.ofCode_eq_row_iff (code : Int32) :
    ofCode code = .row ↔ code = NamedCode.row.value := by
  constructor
  · intro h
    by_cases row : code = NamedCode.row.value
    · exact row
    · simp only [ofCode, if_neg row] at h
      repeat' split at h
      all_goals cases h
  · rintro rfl
    rfl

/-- The outcome of a step that succeeded. -/
inductive StepOutcome where
  | row
  | done
deriving DecidableEq

end EngineBridge
