import EngineBridge.Config.Basic
import EngineBridge.Json.Lexical

/-!
# Writing configurations

The compact JSON form of a configuration: all members, in a fixed order, without white
space.
-/

set_option autoImplicit false

namespace EngineBridge

namespace Json

/-- The lower-case hexadecimal digit of a number below sixteen. -/
def hexDigit (n : Nat) : Char :=
  if n < 10 then Char.ofNat (n + '0'.toNat) else Char.ofNat (n - 10 + 'a'.toNat)

/-- The form of a character inside a string. -/
def writeChar (c : Char) : List Char :=
  if c = '"' then ['\\', '"']
  else if c = '\\' then ['\\', '\\']
  else if c = '\x08' then ['\\', 'b']
  else if c = '\x0c' then ['\\', 'f']
  else if c = '\n' then ['\\', 'n']
  else if c = '\r' then ['\\', 'r']
  else if c = '\t' then ['\\', 't']
  else if c.toNat < 0x20 then
    ['\\', 'u', '0', '0', hexDigit (c.toNat / 16), hexDigit (c.toNat % 16)]
  else [c]

/-- A string between its quotes. -/
def writeString (s : String) : List Char :=
  ['"'] ++ s.toList.flatMap writeChar ++ ['"']

/-- An integer in decimal. -/
def writeInt (n : Int) : List Char := (toString n).toList

/-- The null literal. -/
def writeNull : List Char := ['n', 'u', 'l', 'l']

/-- A member of an object: its key and the form of its value. -/
def writeMember (key : String) (value : List Char) : List Char :=
  writeString key ++ [':'] ++ value

/-- An object, given the forms of its members. -/
def writeObject (members : List (List Char)) : List Char :=
  [Char.ofNat 0x7b] ++ [','].intercalate members ++ [Char.ofNat 0x7d]

end Json

open Json

/-- The form of a library source. -/
def LibrarySource.write : LibrarySource → List Char
  | .bundled => writeObject [writeMember "kind" (writeString "bundled")]
  | .system => writeObject [writeMember "kind" (writeString "system")]
  | .path p =>
    writeObject [writeMember "kind" (writeString "path"), writeMember "path" (writeString p)]

/-- The form of open options. -/
def OpenOptions.write (options : OpenOptions) : List Char :=
  writeObject
    [writeMember "flags" (writeInt options.flags.bits.toInt),
     writeMember "vfs" ((options.vfs.map writeString).getD writeNull),
     writeMember "busy_timeout_ms"
       ((options.busyTimeout.map fun ms => writeInt ms.toNat).getD writeNull)]

/-- The form of a configuration. -/
def Config.write (config : Config) : List Char :=
  writeObject
    [writeMember "library" config.library.write, writeMember "open" config.openOptions.write]

/-- The text of a configuration. -/
def Config.toJson (config : Config) : String :=
  String.ofList config.write

end EngineBridge
