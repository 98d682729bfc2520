import EngineBridge.Text.Quoted

/-!
# Flags

The words of flags that go with opening a connection and with registering a
function, and the run-time limits.
-/

set_option autoImplicit false

namespace EngineBridge

/-- How a connection is opened. -/
structure OpenFlags where
  bits : Int32
deriving DecidableEq

namespace OpenFlags

/-- The open flags that have names. -/
def named : List (String × OpenFlags) :=
  [("READ_ONLY", ⟨0x1⟩), ("READ_WRITE", ⟨0x2⟩), ("CREATE", ⟨0x4⟩), ("URI", ⟨0x40⟩),
   ("MEMORY", ⟨0x80⟩), ("NO_MUTEX", ⟨0x8000⟩), ("FULL_MUTEX", ⟨0x10000⟩),
   ("SHARED_CACHE", ⟨0x20000⟩), ("PRIVATE_CACHE", ⟨0x40000⟩)]

/-- Both sets of flags. -/
def union (a b : OpenFlags) : OpenFlags := ⟨a.bits ||| b.bits⟩

/-- Whether every flag of `b` is in `a`. -/
def contains (a b : OpenFlags) : Bool := a.bits &&& b.bits == b.bits

/-- Reading and writing, creating the file if it is missing. -/
def standard : OpenFlags := ⟨0x6⟩

/-- The union of the flags with these names; names that are not known add nothing. -/
def ofNames (names : List String) : OpenFlags :=
  names.foldl (fun flags name => flags.union ((named.lookup name).getD ⟨0⟩)) ⟨0⟩

/-- How open flags are shown. -/
def describe (flags : OpenFlags) : String :=
  "OpenFlags(0x" ++ Text.hexDigits flags.bits.toUInt32.toNat ++ ")"

end OpenFlags

/-- Properties of a user function. -/
structure FunctionFlags where
  bits : Int32
deriving DecidableEq

namespace FunctionFlags

/-- The function flags that have names. -/
def named : List (String × FunctionFlags) :=
  [("DETERMINISTIC", ⟨0x800⟩), ("DIRECT_ONLY", ⟨0x80000⟩), ("INNOCUOUS", ⟨0x200000⟩)]

/-- No flag. -/
def empty : FunctionFlags := ⟨0⟩

/-- Both sets of flags. -/
def union (a b : FunctionFlags) : FunctionFlags := ⟨a.bits ||| b.bits⟩

/-- The union of the flags with these names; names that are not known add nothing. -/
def ofNames (names : List String) : FunctionFlags :=
  names.foldl (fun flags name => flags.union ((named.lookup name).getD empty)) empty

/-- The word that registers a function with these flags; texts are always UTF-8. -/
def textRepresentation (flags : FunctionFlags) : Int32 := 1 ||| flags.bits

/-- How function flags are shown. -/
def describe (flags : FunctionFlags) : String :=
  s!"FunctionFlags({flags.bits.toInt})"

end FunctionFlags

/-- The run-time limits of a connection. -/
inductive Limit where
  | length | sqlLength | column | exprDepth | compoundSelect | vdbeOp | functionArg | attached
  | likePatternLength | variableNumber | triggerDepth | workerThreads
deriving DecidableEq

namespace Limit

/-- The limits, in the order of their numbers. -/
def all : List Limit :=
  [.length, .sqlLength, .column, .exprDepth, .compoundSelect, .vdbeOp, .functionArg, .attached,
   .likePatternLength, .variableNumber, .triggerDepth, .workerThreads]

/-- The number of a limit. -/
def number : Limit → Int32
  | .length => 0 | .sqlLength => 1 | .column => 2 | .exprDepth => 3 | .compoundSelect => 4
  | .vdbeOp => 5 | .functionArg => 6 | .attached => 7 | .likePatternLength => 8
  | .variableNumber => 9 | .triggerDepth => 10 | .workerThreads => 11

/-- The name of a limit. -/
def name : Limit → String
  | .length => "Length" | .sqlLength => "SqlLength" | .column => "Column"
  | .exprDepth => "ExprDepth" | .compoundSelect => "CompoundSelect" | .vdbeOp => "VdbeOp"
  | .functionArg => "FunctionArg" | .attached => "Attached"
  | .likePatternLength => "LikePatternLength" | .variableNumber => "VariableNumber"
  | .triggerDepth => "TriggerDepth" | .workerThreads => "WorkerThreads"

/-- The limit with a name. -/
def ofName? (name : String) : Option Limit :=
  all.find? (·.name == name)

end Limit

end EngineBridge
