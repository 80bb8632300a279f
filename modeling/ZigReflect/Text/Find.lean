/-!
# Pieces of a text

Containment and endings, decided on the characters, and the lower case of
the ASCII letters.
-/

namespace ZigReflect.Text

/-- Whether `needle` stands somewhere in `hay`. -/
def isInside (needle : List Char) : List Char → Bool
  | [] => needle.isEmpty
  | hay@(_ :: rest) => needle.isPrefixOf hay || isInside needle rest

/-- Whether the text contains the piece. -/
def contains (s piece : String) : Bool :=
  isInside piece.toList s.toList

/-- Whether the text ends with the piece. -/
def endsWith (s piece : String) : Bool :=
  piece.toList.isSuffixOf s.toList

/-- The lower-case letter of an ASCII capital; any other character itself. -/
def lowerAscii (c : Char) : Char :=
  if 'A' ≤ c && c ≤ 'Z' then Char.ofNat (c.toNat + 32) else c

/-- The text with its ASCII capitals in lower case. -/
def lower (s : String) : String :=
  String.ofList (s.toList.map lowerAscii)

/-- Whether the character is an ASCII letter. -/
def isLetter (c : Char) : Bool :=
  ('a' ≤ c && c ≤ 'z') || ('A' ≤ c && c ≤ 'Z')

/-- Whether the character is an ASCII digit. -/
def isDigit (c : Char) : Bool :=
  '0' ≤ c && c ≤ '9'

/-- Whether the character is an ASCII letter, an ASCII digit or an underscore. -/
def isWordAscii (c : Char) : Bool :=
  isLetter c || isDigit c || c == '_'

/-- The number that a list of ASCII digits spells. -/
def digitsValue (cs : List Char) : Nat :=
  cs.foldl (fun n c => 10 * n + (c.toNat - '0'.toNat)) 0

/-- The value of one hexadecimal digit. -/
def hexDigit? (c : Char) : Option Nat :=
  if isDigit c then some (c.toNat - '0'.toNat)
  else if 'a' ≤ c && c ≤ 'f' then some (c.toNat - 'a'.toNat + 10)
  else if 'A' ≤ c && c ≤ 'F' then some (c.toNat - 'A'.toNat + 10)
  else none

/-- The number that a list of hexadecimal digits spells. -/
def hexValue? (cs : List Char) : Option Nat :=
  cs.foldlM (fun n c => (hexDigit? c).map (16 * n + ·)) 0

/-- The lower-case hexadecimal digit of a number below sixteen. -/
def hexChar (n : Nat) : Char :=
  if n < 10 then Char.ofNat ('0'.toNat + n) else Char.ofNat ('a'.toNat + n - 10)

/-- The pieces between the occurrences of a character. -/
def splitAt (sep : Char) : List Char → List (List Char)
  | [] => [[]]
  | c :: rest =>
    if c = sep then [] :: splitAt sep rest
    else
      match splitAt sep rest with
      | [] => [[c]]
      | piece :: pieces => (c :: piece) :: pieces

end ZigReflect.Text
