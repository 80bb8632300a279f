import ZigReflect.Text.Find

/-!
# Names and strings in Zig

A name is written bare when it is a word of ASCII letters, digits and
underscores that does not start with a digit and is not reserved; any other
name is written in the quoted form. Strings and quoted names share one
encoding, `quoteBody`.
-/

namespace ZigReflect.Zig

open ZigReflect.Text

/-- Names that collide with words of the language. -/
def reserved : List String :=
  ["type", "async", "struct", "enum", "export", "import", "error"]

/-- The control characters: U+0000 to U+001F and U+007F to U+009F. -/
def isControl (c : Char) : Bool :=
  c.toNat < 0x20 || (0x7F ≤ c.toNat && c.toNat < 0xA0)

/-- One character inside quotes. Control characters are written by the two
hexadecimal digits of their code point. -/
def quoteChar (c : Char) : List Char :=
  if c = '"' then ['\\', '"']
  else if c = '\\' then ['\\', '\\']
  else if c = '\n' then ['\\', 'n']
  else if c = '\r' then ['\\', 'r']
  else if c = '\t' then ['\\', 't']
  else if isControl c then ['\\', 'x', hexChar (c.toNat / 16), hexChar (c.toNat % 16)]
  else [c]

/-- The characters of a text inside quotes. -/
def quoteBody (cs : List Char) : List Char :=
  cs.flatMap quoteChar

/-- The string literal that holds a text. -/
def stringLiteral (s : String) : String :=
  "\"" ++ String.ofList (quoteBody s.toList) ++ "\""

/-- Whether the characters form a bare word. -/
def isBareWord : List Char → Bool
  | [] => false
  | c :: cs => !isDigit c && (c :: cs).all isWordAscii

/-- Whether a name cannot be written bare. -/
def needsQuotes (name : String) : Bool :=
  reserved.contains name || !isBareWord name.toList

/-- A name as it is written in a declaration, field or case. -/
def identifier (name : String) : String :=
  if needsQuotes name then "@" ++ stringLiteral name else name

end ZigReflect.Zig
