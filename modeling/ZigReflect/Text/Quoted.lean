import ZigReflect.Text.Concealed
import ZigReflect.Text.Find

/-!
# Quoted texts in messages

A text that a message shows stands between quotes, with the characters that
do not show written as escapes.
-/

namespace ZigReflect.Text

/-- The escape of a code point: a backslash, `u` and the number in braces. -/
def codeEscape (c : Char) : String :=
  "\\u\x7b" ++ String.ofList (Nat.toDigits 16 c.toNat) ++ "\x7d"

/-- One character of a quoted text. -/
def shownChar (c : Char) : String :=
  if c = '"' then "\\\""
  else if c = '\\' then "\\\\"
  else if c = '\n' then "\\n"
  else if c = '\r' then "\\r"
  else if c = '\t' then "\\t"
  else if c.toNat = 0 then "\\0"
  else if isConcealed c then codeEscape c
  else String.ofList [c]

/-- The text between quotes. -/
def quoted (s : String) : String :=
  "\"" ++ String.join (s.toList.map shownChar) ++ "\""

end ZigReflect.Text
