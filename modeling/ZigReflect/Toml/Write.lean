import ZigReflect.Text.Find

/-!
# Writing TOML

A string takes the first of its forms that needs no escapes but those of tabs:
quotes, single quotes, and both of them tripled. A string that needs escapes is
written in double quotes, tripled when it has several lines. In double quotes a
tab is written as an escape. Lists of more than one item have a line for each.
-/

namespace ZigReflect.Toml

open ZigReflect.Text

/-- The forms of a string. -/
inductive StringForm where
  | basic
  | literal
  | basicLines
  | literalLines
deriving DecidableEq, Repr, Inhabited

/-- Whether the character is a control character. -/
def isControl (c : Char) : Bool :=
  c.toNat < 0x20 || c.toNat == 0x7F

/-- Whether a character stands three times in a row. -/
def hasTriple (q : Char) : List Char → Bool
  | a :: b :: c :: rest => (a == q && b == q && c == q) || hasTriple q (b :: c :: rest)
  | _ => false

/-- Whether the only control characters of the string are tabs and line feeds. -/
def isLined (cs : List Char) : Bool :=
  !cs.any fun c => isControl c && c != '\t' && c != '\n'

/-- Whether the string is one line without control characters but tabs. -/
def isPlain (cs : List Char) : Bool :=
  isLined cs && !cs.contains '\n'

/-- The form in which a string is written. -/
def formOf (cs : List Char) : StringForm :=
  if isPlain cs && !cs.contains '\\' && !cs.contains '"' then .basic
  else if isPlain cs && !cs.contains '\'' then .literal
  else if isLined cs && !cs.contains '\\' && !hasTriple '"' cs then .basicLines
  else if isLined cs && !hasTriple '\'' cs then .literalLines
  else if cs.contains '\n' then .basicLines
  else .basic

/-- The upper-case hexadecimal digit of a number below sixteen. -/
def upperHex (n : Nat) : Char :=
  if n < 10 then Char.ofNat (48 + n) else Char.ofNat (55 + n)

/-- How a character other than the double quote is escaped, where it has to
be. -/
def escapeOf? (c : Char) : Option (List Char) :=
  if c = '\x08' then some ['\\', 'b']
  else if c = '\t' then some ['\\', 't']
  else if c = '\n' then some ['\\', 'n']
  else if c = '\x0c' then some ['\\', 'f']
  else if c = '\r' then some ['\\', 'r']
  else if c = '\\' then some ['\\', '\\']
  else if isControl c then
    some ['\\', 'u', '0', '0', upperHex (c.toNat / 16), upperHex (c.toNat % 16)]
  else none

/-- The body of a string in double quotes. With several lines, line feeds are
raw, and so are quotes while fewer than three stand in a row; the number counts
those before. -/
def escaped (severalLines : Bool) : Nat → List Char → List Char
  | _, [] => []
  | quotes, c :: rest =>
    if c = '"' then
      if severalLines && quotes < 2 then '"' :: escaped severalLines (quotes + 1) rest
      else '\\' :: '"' :: escaped severalLines 0 rest
    else if severalLines && c = '\n' then '\n' :: escaped severalLines 0 rest
    else
      match escapeOf? c with
      | some e => e ++ escaped severalLines 0 rest
      | none => c :: escaped severalLines 0 rest

/-- The line feed after the opening quotes of a string with line feeds. -/
def opening (cs : List Char) : List Char :=
  if cs.contains '\n' then ['\n'] else []

/-- A string as it is written. -/
def stringChars (cs : List Char) : List Char :=
  match formOf cs with
  | .basic => '"' :: escaped false 0 cs ++ ['"']
  | .literal => '\'' :: cs ++ ['\'']
  | .basicLines => ['"', '"', '"'] ++ opening cs ++ escaped true 0 cs ++ ['"', '"', '"']
  | .literalLines => ['\'', '\'', '\''] ++ opening cs ++ cs ++ ['\'', '\'', '\'']

/-- A string as it is written. -/
def stringText (s : String) : String :=
  String.ofList (stringChars s.toList)

/-- A truth value as it is written. -/
def boolText (b : Bool) : String :=
  if b then "true" else "false"

/-- A list of strings as it is written. -/
def listText : List String → String
  | [] => "[]"
  | [s] => "[" ++ stringText s ++ "]"
  | items =>
    "[\n" ++ String.join (items.map fun s => "    " ++ stringText s ++ ",\n") ++ "]"

/-- A line that sets a key. -/
def fieldText (key value : String) : String :=
  key ++ " = " ++ value ++ "\n"

/-- A section: its header and its lines. -/
def sectionText (name : String) (lines : List String) : String :=
  "[" ++ name ++ "]\n" ++ String.join lines

end ZigReflect.Toml
