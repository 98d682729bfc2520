import EngineBridge.Config.Basic
import EngineBridge.Json.Skip

/-!
# Reading configurations

A configuration is a JSON object, or an array of the values of its members in order, and so
are the open options in it.  Members may be left out and come in any order; unknown ones
are passed over, and known ones may come only once.  The library source is told apart by
its member `kind`, or by the first element of an array.
-/

set_option autoImplicit false

namespace EngineBridge

open Json

namespace Config

/-! ## Values -/

/-- Why a value is not of the kind that is wanted: it is none that can be read, or it is of
another kind. -/
def mismatch {α : Type} (cs : List Char) : Reading α :=
  match cs with
  | [] => .error .malformed
  | c :: rest =>
    let after {β : Type} (r : Except Failure β) : Reading α :=
      match r with
      | .ok _ => .error .unsuitable
      | .error e => .error e
    if c = '[' ∨ c = '{' then .error .unsuitable
    else if c = '"' then after (readString rest)
    else if beginsNumber c then after (readNumber (c :: rest))
    else match literal? c rest with
      | some r => after r
      | none => .error .malformed

/-- An integer in a range. -/
def readInteger (low high : Int) (cs : List Char) : Reading Int :=
  match skipSpace cs with
  | [] => .error .truncated
  | c :: rest =>
    if beginsNumber c then
      match readNumber (c :: rest) with
      | .error e => .error e
      | .ok (.integer n, rest) =>
        if low ≤ n ∧ n ≤ high then .ok (n, rest) else .error .unsuitable
      | .ok (.other, _) => .error .unsuitable
    else mismatch (c :: rest)

/-- A string. -/
def readText (cs : List Char) : Reading String :=
  match skipSpace cs with
  | [] => .error .truncated
  | c :: rest => if c = '"' then readString rest else mismatch (c :: rest)

/-- A null, or else a value. -/
def readOptional {α : Type} (read : List Char → Reading α) (cs : List Char) :
    Reading (Option α) :=
  match skipSpace cs with
  | 'n' :: rest => (expect ['u', 'l', 'l'] rest).map fun rest => (none, rest)
  | cs => (read cs).map fun (a, rest) => (some a, rest)

/-! ## Objects and arrays -/

/-- Read the members of an object up to its end, at most so many.  `member` reads on after
a key, from the colon to the end of the value. -/
def readMembers {σ : Type} (member : σ → String → List Char → Reading σ) :
    Nat → Bool → σ → List Char → Reading σ
  | 0, _, _, _ => .error .truncated
  | limit + 1, isFirst, state, cs =>
    let key (cs : List Char) : Reading σ :=
      match readString cs with
      | .error e => .error e
      | .ok (name, rest) =>
        match member state name rest with
        | .error e => .error e
        | .ok (state, rest) => readMembers member limit false state rest
    match skipSpace cs with
    | [] => .error .truncated
    | '}' :: rest => .ok (state, rest)
    | '"' :: rest => if isFirst then key rest else .error .malformed
    | ',' :: rest =>
      if isFirst then .error .malformed
      else match skipSpace rest with
        | [] => .error .truncated
        | '"' :: rest => key rest
        | _ => .error .malformed
    | _ => .error .malformed

/-- Read an object after its opening brace.  A key takes a character at least, so there are
no more members than characters. -/
def readObject {σ : Type} (member : σ → String → List Char → Reading σ) (state : σ)
    (cs : List Char) : Reading σ :=
  readMembers member (cs.length + 1) true state cs

/-- The input at the next element of an array, or at its end. -/
def nextElement (isFirst : Bool) (cs : List Char) : Reading Bool :=
  match skipSpace cs with
  | [] => .error .truncated
  | ']' :: rest => .ok (false, ']' :: rest)
  | ',' :: rest =>
    if isFirst then .ok (true, ',' :: rest)
    else match skipSpace rest with
      | [] => .error .truncated
      | ']' :: _ => .error .malformed
      | rest => .ok (true, rest)
  | cs => if isFirst then .ok (true, cs) else .error .malformed

/-- An element of an array, if there is one more. -/
def readElement {α : Type} (read : List Char → Reading α) (isFirst : Bool) (cs : List Char) :
    Reading (Option α) :=
  match nextElement isFirst cs with
  | .error e => .error e
  | .ok (false, rest) => .ok (none, rest)
  | .ok (true, rest) => (read rest).map fun (a, rest) => (some a, rest)

/-- The end of an array. -/
def closeArray (cs : List Char) : Except Failure (List Char) :=
  expect [']'] (skipSpace cs)

/-- A value that is an array or an object. -/
def readCompound {α : Type} (array object : List Char → Reading α) (cs : List Char) :
    Reading α :=
  match skipSpace cs with
  | [] => .error .truncated
  | '[' :: rest => array rest
  | '{' :: rest => object rest
  | cs => mismatch cs

/-- The value of a member, after its key. -/
def readField {α : Type} (read : List Char → Reading α) (cs : List Char) :
    Except Failure (α × List Char) := do
  let rest ← readColon cs
  read rest

/-- The value of a member that must not have come before. -/
def readOnce {α : Type} (read : List Char → Reading α) (seen : Option α) (cs : List Char) :
    Reading (Option α) :=
  match seen with
  | some _ => .error .unsuitable
  | none => (readField read cs).map fun (a, rest) => (some a, rest)

/-- Pass over the value of an unknown member. -/
def skipField {σ : Type} (state : σ) (cs : List Char) : Except Failure (σ × List Char) := do
  let rest ← readColon cs
  let rest ← skipValue formOnly rest
  .ok (state, rest)

/-! ## The library source -/

/-- How deeply the members of a library source may be nested. -/
def maxNesting : Nat := 125

/-- The kinds of library sources. -/
inductive Kind where
  | bundled
  | system
  | path
deriving DecidableEq

/-- The kind of a library source. -/
def readKind (cs : List Char) : Reading Kind :=
  match readText cs with
  | .error e => .error e
  | .ok (name, rest) =>
    if name = "bundled" then .ok (.bundled, rest)
    else if name = "system" then .ok (.system, rest)
    else if name = "path" then .ok (.path, rest)
    else .error .unsuitable

/-- Any value: its text if it is one. -/
def readContent (cs : List Char) : Reading (Option String) :=
  match skipSpace cs with
  | [] => .error .truncated
  | '"' :: rest => (readString rest).map fun (s, rest) => (some s, rest)
  | cs => (skipValue (inFull maxNesting) cs).map fun rest => (none, rest)

/-- What has been read of a library source: its kind, and the values of the members `path`,
the latest first. -/
structure SourceParts where
  kind : Option Kind := none
  paths : List (Option String) := []

/-- Read a member of a library source. -/
def sourceMember (parts : SourceParts) (name : String) (cs : List Char) : Reading SourceParts :=
  if name = "kind" then
    (readOnce readKind parts.kind cs).map fun (kind, rest) => ({ parts with kind }, rest)
  else
    (readField readContent cs).map fun (content, rest) =>
      if name = "path" then ({ parts with paths := content :: parts.paths }, rest)
      else (parts, rest)

/-- The library source with a kind and these values for its path: there has to be exactly
one, and it has to be a text. -/
def sourceOf (kind : Kind) (paths : List (Option String)) : Except Failure LibrarySource :=
  match kind, paths with
  | .bundled, _ => .ok .bundled
  | .system, _ => .ok .system
  | .path, [some p] => .ok (.path p)
  | .path, _ => .error .unsuitable

/-- A library source as an object. -/
def sourceObject (cs : List Char) : Except Failure (LibrarySource × List Char) := do
  let (parts, rest) ← readObject sourceMember {} cs
  match parts.kind with
  | none => .error .unsuitable
  | some kind => do
    let source ← sourceOf kind parts.paths
    .ok (source, rest)

/-- The elements of an array up to its end, after the first one, at most so many. -/
def readContents : Nat → List Char → Except Failure (List (Option String) × List Char)
  | 0, _ => .error .truncated
  | limit + 1, cs => do
    let (content, rest) ← readElement readContent false cs
    match content with
    | none => .ok ([], rest)
    | some content => do
      let (contents, rest) ← readContents limit rest
      .ok (content :: contents, rest)

/-- A library source as an array: its kind and what goes with it. -/
def sourceArray (cs : List Char) : Except Failure (LibrarySource × List Char) := do
  let (kind, rest) ← readElement readKind true cs
  match kind with
  | none => .error .unsuitable
  | some kind => do
    let (contents, rest) ← readContents (rest.length + 1) rest
    let rest ← closeArray rest
    let source ← match kind, contents with
      | .path, contents => sourceOf .path contents
      | kind, [] => sourceOf kind []
      | _, _ => .error .unsuitable
    .ok (source, rest)

/-- A library source. -/
def readSource : List Char → Reading LibrarySource :=
  readCompound sourceArray sourceObject

/-! ## Open options -/

/-- Open flags. -/
def readFlags (cs : List Char) : Reading OpenFlags :=
  (readInteger (-2147483648) 2147483647 cs).map fun (n, rest) => (⟨Int32.ofInt n⟩, rest)

/-- A busy timeout. -/
def readTimeout (cs : List Char) : Reading UInt32 :=
  (readInteger 0 4294967295 cs).map fun (n, rest) => (UInt32.ofNat n.toNat, rest)

/-- What has been read of open options. -/
structure OptionParts where
  flags : Option OpenFlags := none
  vfs : Option (Option String) := none
  busyTimeout : Option (Option UInt32) := none

/-- Open options, with defaults for what was not read. -/
def OptionParts.options (parts : OptionParts) : OpenOptions where
  flags := parts.flags.getD .standard
  vfs := parts.vfs.getD none
  busyTimeout := parts.busyTimeout.getD none

/-- Read a member of open options. -/
def optionMember (parts : OptionParts) (name : String) (cs : List Char) : Reading OptionParts :=
  if name = "flags" then
    (readOnce readFlags parts.flags cs).map fun (flags, rest) => ({ parts with flags }, rest)
  else if name = "vfs" then
    (readOnce (readOptional readText) parts.vfs cs).map fun (vfs, rest) =>
      ({ parts with vfs }, rest)
  else if name = "busy_timeout_ms" then
    (readOnce (readOptional readTimeout) parts.busyTimeout cs).map fun (busyTimeout, rest) =>
      ({ parts with busyTimeout }, rest)
  else skipField parts cs

/-- Open options as an object. -/
def optionsObject (cs : List Char) : Reading OpenOptions :=
  (readObject optionMember {} cs).map fun (parts, rest) => (parts.options, rest)

/-- Open options as an array. -/
def optionsArray (cs : List Char) : Except Failure (OpenOptions × List Char) := do
  let (flags, rest) ← readElement readFlags true cs
  let (vfs, rest) ← readElement (readOptional readText) flags.isNone rest
  let (busyTimeout, rest) ← readElement (readOptional readTimeout) vfs.isNone rest
  let rest ← closeArray rest
  .ok (OptionParts.options { flags, vfs, busyTimeout }, rest)

/-- Open options. -/
def readOptions : List Char → Reading OpenOptions :=
  readCompound optionsArray optionsObject

/-! ## Configurations -/

/-- What has been read of a configuration. -/
structure Parts where
  library : Option LibrarySource := none
  openOptions : Option OpenOptions := none

/-- A configuration, with defaults for what was not read. -/
def Parts.config (parts : Parts) : Config where
  library := parts.library.getD .bundled
  openOptions := parts.openOptions.getD {}

/-- Read a member of a configuration. -/
def configMember (parts : Parts) (name : String) (cs : List Char) : Reading Parts :=
  if name = "library" then
    (readOnce readSource parts.library cs).map fun (library, rest) =>
      ({ parts with library }, rest)
  else if name = "open" then
    (readOnce readOptions parts.openOptions cs).map fun (openOptions, rest) =>
      ({ parts with openOptions }, rest)
  else skipField parts cs

/-- A configuration as an object. -/
def configObject (cs : List Char) : Reading Config :=
  (readObject configMember {} cs).map fun (parts, rest) => (parts.config, rest)

/-- A configuration as an array. -/
def configArray (cs : List Char) : Except Failure (Config × List Char) := do
  let (library, rest) ← readElement readSource true cs
  let (openOptions, rest) ← readElement readOptions library.isNone rest
  let rest ← closeArray rest
  .ok (Parts.config { library, openOptions }, rest)

/-- What a reader makes of a text, with nothing after it but white space. -/
def readWhole {α : Type} (read : List Char → Reading α) (text : String) : Except Failure α := do
  let (a, rest) ← read text.toList
  if skipSpace rest = [] then .ok a else .error .malformed

/-- The configuration that a text stands for. -/
def ofJson (text : String) : Except Failure Config :=
  readWhole (readCompound configArray configObject) text

end Config

/-- The library source that a text stands for. -/
def LibrarySource.ofJson (text : String) : Except Failure LibrarySource :=
  Config.readWhole Config.readSource text

end EngineBridge
