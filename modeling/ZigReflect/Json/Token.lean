import ZigReflect.Json.Value
import ZigReflect.Text.Find

/-!
# JSON tokens

A text is cut into punctuation, words, numbers and strings. Every token is
well formed; a number outside the range of a double and a string with half of
a surrogate pair are tokens that stand for no value.
-/

namespace ZigReflect.Json

open ZigReflect.Text

/-- A token of a JSON text. -/
inductive Token where
  | openArray
  | closeArray
  | openObject
  | closeObject
  | comma
  | colon
  | null
  | bool (b : Bool)
  /-- A number, or `none` when it is too large for a double. -/
  | number (n : Option Number)
  /-- A string, or `none` when an escape in it is half of a surrogate pair. -/
  | string (s : Option String)
deriving Repr

/-- A character of a string: written as itself, or as a UTF-16 unit. -/
inductive Piece where
  | char (c : Char)
  | unit (n : Nat)

/-- The character of an escape other than a UTF-16 unit. -/
def escapeChar? : Char → Option Char
  | '"' => some '"'
  | '\\' => some '\\'
  | '/' => some '/'
  | 'b' => some '\x08'
  | 'f' => some '\x0c'
  | 'n' => some '\n'
  | 'r' => some '\r'
  | 't' => some '\t'
  | _ => none

/-- The pieces of a string up to its closing quote, and what follows it. -/
def scanString : List Char → List Piece → Option (List Piece × List Char)
  | [], _ => none
  | '"' :: rest, seen => some (seen.reverse, rest)
  | '\\' :: 'u' :: a :: b :: c :: d :: rest, seen =>
    match hexValue? [a, b, c, d] with
    | some n => scanString rest (.unit n :: seen)
    | none => none
  | '\\' :: e :: rest, seen =>
    match escapeChar? e with
    | some c => scanString rest (.char c :: seen)
    | none => none
  | c :: rest, seen =>
    if c.toNat < 0x20 || c == '\\' then none else scanString rest (.char c :: seen)

/-- Whether the unit is the first half of a surrogate pair. -/
def isHigh (n : Nat) : Bool := 0xD800 ≤ n && n ≤ 0xDBFF

/-- Whether the unit is the second half of a surrogate pair. -/
def isLow (n : Nat) : Bool := 0xDC00 ≤ n && n ≤ 0xDFFF

/-- Joins the surrogate pairs; `none` when a half stands alone. -/
def joinPieces : List Piece → List Char → Option (List Char)
  | [], seen => some seen.reverse
  | .char c :: rest, seen => joinPieces rest (c :: seen)
  | .unit hi :: .unit lo :: rest, seen =>
    if isHigh hi then
      if isLow lo then
        joinPieces rest (Char.ofNat (0x10000 + (hi - 0xD800) * 0x400 + (lo - 0xDC00)) :: seen)
      else none
    else if isLow hi then none
    else joinPieces (.unit lo :: rest) (Char.ofNat hi :: seen)
  | .unit n :: rest, seen =>
    if isHigh n || isLow n then none else joinPieces rest (Char.ofNat n :: seen)

/-- The parts of a number: sign, integer digits, fraction, exponent. -/
structure Spelling where
  negative : Bool
  whole : List Char
  /-- The digits after the point, when there is one. -/
  fraction : Option (List Char)
  /-- The exponent, when there is one. -/
  exponent : Option Int

/-- The exponent that follows the letter `e`. -/
def exponentOf? (cs : List Char) : Option Int :=
  let (negative, ds) := match cs with
    | '-' :: ds => (true, ds)
    | '+' :: ds => (false, ds)
    | ds => (false, ds)
  if ds.isEmpty || !ds.all isDigit then none
  else some (if negative then -(digitsValue ds : Int) else digitsValue ds)

/-- The parts of a number that is spelled by the JSON grammar. -/
def spelling? (cs : List Char) : Option Spelling :=
  let (negative, cs) := match cs with
    | '-' :: cs => (true, cs)
    | cs => (false, cs)
  let whole := cs.takeWhile isDigit
  let cs := cs.dropWhile isDigit
  if whole.isEmpty || (whole.head? == some '0' && 1 < whole.length) then none
  else
    let (fraction, cs) := match cs with
      | '.' :: cs => (some (cs.takeWhile isDigit), cs.dropWhile isDigit)
      | cs => (none, cs)
    if fraction == some [] then none
    else match cs with
      | [] => some ⟨negative, whole, fraction, none⟩
      | e :: cs =>
        if e == 'e' || e == 'E' then
          (exponentOf? cs).map fun x => ⟨negative, whole, fraction, some x⟩
        else none

/-- Takes digits up into a number of 64 bits, and hands on those from the first
one that does not fit. -/
def takeDigits : Nat → List Char → Nat × List Char
  | n, [] => (n, [])
  | n, c :: cs =>
    let next := 10 * n + (c.toNat - '0'.toNat)
    if next < Nat.pow 2 64 then takeDigits next cs else (n, c :: cs)

/-- The number that a spelling stands for. Minus zero, and an integer outside
64 bits, are doubles; a number too large for a double stands for none. The
digits of a double count as far as they fit into 64 bits, and it is rounded in
steps. -/
def Spelling.number? (s : Spelling) : Option Number :=
  let (n, unread) := takeDigits 0 s.whole
  let isInteger := unread.isEmpty && s.fraction.isNone && s.exponent.isNone
  if isInteger && !s.negative then some (.unsigned n)
  else if isInteger && 0 < n && n ≤ Nat.pow 2 63 then some (.negative (-(n : Int)))
  else
    let fraction := s.fraction.getD []
    let (n, unreadFraction) := takeDigits n fraction
    let shift : Int := unread.length - (fraction.length - unreadFraction.length : Nat)
    (Double.ofParts? s.negative n (shift + s.exponent.getD 0)).map .double

/-- Whether the character can stand in a number. -/
def isNumberChar (c : Char) : Bool :=
  isDigit c || c == '-' || c == '+' || c == '.' || c == 'e' || c == 'E'

/-- The first token of a text without blanks in front, and what follows it. -/
def scanToken? : List Char → Option (Token × List Char)
  | '[' :: rest => some (.openArray, rest)
  | ']' :: rest => some (.closeArray, rest)
  | '\x7b' :: rest => some (.openObject, rest)
  | '\x7d' :: rest => some (.closeObject, rest)
  | ',' :: rest => some (.comma, rest)
  | ':' :: rest => some (.colon, rest)
  | 'n' :: 'u' :: 'l' :: 'l' :: rest => some (.null, rest)
  | 't' :: 'r' :: 'u' :: 'e' :: rest => some (.bool true, rest)
  | 'f' :: 'a' :: 'l' :: 's' :: 'e' :: rest => some (.bool false, rest)
  | '"' :: rest =>
    (scanString rest []).map fun (pieces, rest) =>
      (.string ((joinPieces pieces []).map String.ofList), rest)
  | cs =>
    (spelling? (cs.takeWhile isNumberChar)).map fun s =>
      (.number s.number?, cs.dropWhile isNumberChar)

/-- Whether the character may stand between tokens. -/
def isGap (c : Char) : Bool :=
  c == ' ' || c == '\n' || c == '\t' || c == '\r'

/-- The tokens of a text; the fuel is spent by one for each token. -/
def scanTokens : Nat → List Char → List Token → Option (List Token)
  | 0, _, _ => none
  | fuel + 1, cs, seen =>
    match cs.dropWhile isGap with
    | [] => some seen.reverse
    | cs =>
      match scanToken? cs with
      | some (token, rest) => scanTokens fuel rest (token :: seen)
      | none => none

/-- The tokens of a text, or `none` when it is not made of tokens. -/
def tokens? (text : String) : Option (List Token) :=
  let cs := text.toList
  scanTokens (cs.length + 1) cs []

end ZigReflect.Json
