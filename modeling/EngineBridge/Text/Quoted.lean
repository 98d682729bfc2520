import EngineBridge.Text.Hex
import EngineBridge.Text.Invisible

/-!
# Quoted texts

A text between double quotes, as it is shown in descriptions.  Quotes, backslashes
and the usual control characters have short escapes; every other character without
a visible form is shown by its code point in lower-case hexadecimal.
-/

set_option autoImplicit false

namespace EngineBridge.Text

/-- The form of a character inside a quoted text. -/
def escape (c : Char) : String :=
  if c = '"' then "\\\""
  else if c = '\\' then "\\\\"
  else if c = '\n' then "\\n"
  else if c = '\r' then "\\r"
  else if c = '\t' then "\\t"
  else if c = Char.ofNat 0 then "\\0"
  else if isInvisible c then "\\u\x7b" ++ hexDigits c.toNat ++ "\x7d"
  else c.toString

/-- The text between double quotes, its characters escaped where needed. -/
def quote (s : String) : String :=
  "\"" ++ String.join (s.toList.map escape) ++ "\""

end EngineBridge.Text
