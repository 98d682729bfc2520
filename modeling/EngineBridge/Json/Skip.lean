import EngineBridge.Json.Lexical

/-!
# Passing over values

A value that is not wanted is passed over without being built.  The arrays and objects that
are open at a point of the input are kept on a stack, so that nesting costs nothing.
-/

set_option autoImplicit false

namespace EngineBridge.Json

/-- An array or an object that is open. -/
inductive Frame where
  | array
  | object
deriving DecidableEq

/-- The character that closes a frame. -/
def Frame.closer : Frame → Char
  | .array => ']'
  | .object => '}'

/-- How strictly a value is looked at. -/
structure Strictness where
  /-- Strings, after their opening quote. -/
  string : List Char → Except Failure (List Char)
  number : List Char → Except Failure (List Char)
  /-- How deeply arrays and objects may be nested, if that is limited. -/
  maxDepth : Option Nat

/-- The form counts, and nothing else. -/
def formOnly : Strictness where
  string := skipString
  number := skipNumber
  maxDepth := none

/-- Values are looked at as if they were wanted. -/
def inFull (maxDepth : Nat) : Strictness where
  string cs := (readString cs).map (·.2)
  number cs := (readNumber cs).map (·.2)
  maxDepth := some maxDepth

/-- What is to come next. -/
inductive Expected where
  | value
  /-- The first element or member of the innermost frame, or its end. -/
  | first
  /-- The key of a member of the innermost object. -/
  | key
  /-- What may follow a value in the innermost frame. -/
  | separator
deriving DecidableEq

/-- Whether one more array or object may be opened inside so many. -/
def Strictness.allows (strictness : Strictness) (depth : Nat) : Bool :=
  match strictness.maxDepth with
  | none => true
  | some limit => depth < limit

/-- The colon after a key. -/
def readColon (cs : List Char) : Except Failure (List Char) :=
  expect [':'] (skipSpace cs)

/-- One step on the way: what is to come next, the frames that are open then, and the rest
of the input. -/
def skipStep (strictness : Strictness) (expected : Expected) (stack : List Frame)
    (cs : List Char) : Except Failure (Expected × List Frame × List Char) :=
  match skipSpace cs with
  | [] => .error .truncated
  | c :: rest =>
    match expected, stack with
    | .first, frame :: frames =>
      if c = frame.closer then .ok (.separator, frames, rest)
      else .ok (if frame = .array then .value else .key, stack, c :: rest)
    | .key, _ =>
      if c = '"' then
        match strictness.string rest with
        | .error e => .error e
        | .ok rest => (readColon rest).map fun rest => (.value, stack, rest)
      else .error .malformed
    | .separator, frame :: frames =>
      if c = frame.closer then .ok (.separator, frames, rest)
      else if c = ',' then .ok (if frame = .array then .value else .key, stack, rest)
      else .error .malformed
    | _, _ =>
      if c = '[' ∨ c = '{' then
        if strictness.allows stack.length then
          .ok (.first, (if c = '[' then .array else .object) :: stack, rest)
        else .error .malformed
      else if c = '"' then (strictness.string rest).map fun rest => (.separator, stack, rest)
      else if beginsNumber c then
        (strictness.number (c :: rest)).map fun rest => (.separator, stack, rest)
      else match literal? c rest with
        | some r => r.map fun rest => (.separator, stack, rest)
        | none => .error .malformed

/-- Take steps until a value is complete, at most so many. -/
def skipFrom (strictness : Strictness) :
    Nat → Expected → List Frame → List Char → Except Failure (List Char)
  | 0, _, _, _ => .error .truncated
  | steps + 1, expected, stack, cs =>
    if expected = .separator ∧ stack = [] then .ok cs
    else match skipStep strictness expected stack cs with
      | .error e => .error e
      | .ok (expected, stack, rest) => skipFrom strictness steps expected stack rest

/-- Pass over a value.  Every other step takes a character at least, and the last one finds
that nothing is left to do. -/
def skipValue (strictness : Strictness) (cs : List Char) : Except Failure (List Char) :=
  skipFrom strictness (2 * cs.length + 2) .value [] cs

end EngineBridge.Json
