import ZigReflect.Text.Find
import ZigReflect.Toml.Value

/-!
# Scalars in TOML

Strings in their four forms, numbers, booleans, and dates and times.
-/

namespace ZigReflect.Toml

open ZigReflect.Text

/-- Whether the character can stand raw in a string or comment: no control
character other than the tab. -/
def isRaw (c : Char) : Bool :=
  c == '\t' || (0x20 ≤ c.toNat && c.toNat ≠ 0x7F)

/-- Whether the character is blank inside a line. -/
def isSpace (c : Char) : Bool := c == ' ' || c == '\t'

/-- Drops the blanks of a line. -/
def dropSpace (cs : List Char) : List Char := cs.dropWhile isSpace

/-- Drops a line end at the start. -/
def dropNewline? : List Char → Option (List Char)
  | '\n' :: rest => some rest
  | '\r' :: '\n' :: rest => some rest
  | _ => none

/-- The character of a code point with a fixed number of digits. -/
def codePoint? (width : Nat) (cs : List Char) : Option (Char × List Char) :=
  if cs.length < width then none
  else (hexValue? (cs.take width)).bind fun n =>
    if n.isValidChar then some (Char.ofNat n, cs.drop width) else none

/-- The character of an escape, and what follows it. -/
def escape? : List Char → Option (Char × List Char)
  | 'b' :: rest => some ('\x08', rest)
  | 't' :: rest => some ('\t', rest)
  | 'n' :: rest => some ('\n', rest)
  | 'f' :: rest => some ('\x0c', rest)
  | 'r' :: rest => some ('\r', rest)
  | '"' :: rest => some ('"', rest)
  | '\\' :: rest => some ('\\', rest)
  | 'u' :: rest => codePoint? 4 rest
  | 'U' :: rest => codePoint? 8 rest
  | _ => none

/-- A string of one line after its opening quote. -/
def basic : Nat → List Char → List Char → Option (List Char × List Char)
  | 0, _, _ => none
  | _, _, [] => none
  | _, seen, '"' :: rest => some (seen.reverse, rest)
  | fuel + 1, seen, '\\' :: rest =>
    match escape? rest with
    | some (c, rest) => basic fuel (c :: seen) rest
    | none => none
  | fuel + 1, seen, c :: rest => if isRaw c then basic fuel (c :: seen) rest else none

/-- A literal string of one line after its opening quote. -/
def literal (cs : List Char) : Option (List Char × List Char) :=
  let body := cs.takeWhile fun c => isRaw c && c != '\''
  match cs.dropWhile fun c => isRaw c && c != '\'' with
  | '\'' :: rest => some (body, rest)
  | _ => none

/-- Whether a backslash here continues a line: only blanks up to the line end. -/
def continues (cs : List Char) : Bool :=
  (dropNewline? (dropSpace cs)).isSome

/-- Drops blanks and line ends. -/
def dropBlankLines : Nat → List Char → List Char
  | 0, cs => cs
  | fuel + 1, cs =>
    match dropNewline? (dropSpace cs) with
    | some rest => dropBlankLines fuel rest
    | none => dropSpace cs

/-- The quotes that close a string of several lines: three, and up to two
before them that belong to the string. -/
def closing (q : Char) (cs : List Char) : Option (List Char × List Char) :=
  let run := (cs.takeWhile (· == q)).length
  if run < 3 then none
  else
    let extra := Nat.min (run - 3) 2
    some (List.replicate extra q, cs.drop (3 + extra))

/-- A string of several lines after its opening quotes. -/
def multiBasic : Nat → List Char → List Char → Option (List Char × List Char)
  | 0, _, _ => none
  | _, _, [] => none
  | fuel + 1, seen, '"' :: rest =>
    match closing '"' ('"' :: rest) with
    | some (extra, rest) => some (seen.reverse ++ extra, rest)
    | none => multiBasic fuel ('"' :: seen) rest
  | fuel + 1, seen, '\\' :: rest =>
    if continues rest then multiBasic fuel seen (dropBlankLines fuel rest)
    else match escape? rest with
      | some (c, rest) => multiBasic fuel (c :: seen) rest
      | none => none
  | fuel + 1, seen, c :: rest =>
    match dropNewline? (c :: rest) with
    | some rest => multiBasic fuel ('\n' :: seen) rest
    | none => if isRaw c then multiBasic fuel (c :: seen) rest else none

/-- A literal string of several lines after its opening quotes. -/
def multiLiteral : Nat → List Char → List Char → Option (List Char × List Char)
  | 0, _, _ => none
  | _, _, [] => none
  | fuel + 1, seen, '\'' :: rest =>
    match closing '\'' ('\'' :: rest) with
    | some (extra, rest) => some (seen.reverse ++ extra, rest)
    | none => multiLiteral fuel ('\'' :: seen) rest
  | fuel + 1, seen, c :: rest =>
    match dropNewline? (c :: rest) with
    | some rest => multiLiteral fuel ('\n' :: seen) rest
    | none => if isRaw c then multiLiteral fuel (c :: seen) rest else none

/-- Drops the line end right after the opening quotes. -/
def dropFirstNewline (cs : List Char) : List Char :=
  (dropNewline? cs).getD cs

/-- A string in any of its forms. -/
def string? (cs : List Char) : Option (String × List Char) :=
  let fuel := cs.length + 1
  let found := match cs with
    | '"' :: '"' :: '"' :: rest => multiBasic fuel [] (dropFirstNewline rest)
    | '\'' :: '\'' :: '\'' :: rest => multiLiteral fuel [] (dropFirstNewline rest)
    | '"' :: rest => basic fuel [] rest
    | '\'' :: rest => literal rest
    | _ => none
  found.map fun (cs, rest) => (String.ofList cs, rest)

/-- Digits with single underscores between them, without the underscores. -/
def digitRun (isOk : Char → Bool) : List Char → Option (List Char)
  | [] => none
  | [c] => if isOk c then some [c] else none
  | c :: '_' :: rest => if isOk c then (digitRun isOk rest).map (c :: ·) else none
  | c :: rest => if isOk c then (digitRun isOk rest).map (c :: ·) else none

/-- The digits of a decimal integer: no zero in front of others. -/
def wholeDigits (cs : List Char) : Option (List Char) :=
  (digitRun isDigit cs).bind fun ds =>
    if 1 < ds.length && ds.head? == some '0' then none else some ds

/-- The sign in front of a number, and the rest. -/
def splitSign : List Char → Bool × List Char
  | '-' :: rest => (true, rest)
  | '+' :: rest => (false, rest)
  | rest => (false, rest)

/-- An integer, when it fits into 64 bits. -/
def fitInteger (i : Int) : Option Toml :=
  if -9223372036854775808 ≤ i && i ≤ 9223372036854775807 then some (.integer i) else none

/-- A number in another base. -/
def based (base : Nat) (cs : List Char) : Option Toml :=
  let isOk := fun c => (hexDigit? c).any (· < base)
  (digitRun isOk cs).bind fun ds =>
    fitInteger (ds.foldl (fun n c => base * n + (hexDigit? c).getD 0) 0 : Nat)

/-- A decimal integer. -/
def integer? (cs : List Char) : Option Toml :=
  match cs with
  | '0' :: 'x' :: rest => based 16 rest
  | '0' :: 'o' :: rest => based 8 rest
  | '0' :: 'b' :: rest => based 2 rest
  | cs =>
    let (negative, cs) := splitSign cs
    (wholeDigits cs).bind fun ds =>
      let n : Int := digitsValue ds
      fitInteger (if negative then -n else n)

/-- A float with a fraction, an exponent, or both; one that is too large with
a positive sign is none. -/
def decimalFloat? (cs : List Char) : Option Toml := do
  let (negative, cs) := splitSign cs
  let wholeChars := cs.takeWhile fun c => isDigit c || c == '_'
  let rest := cs.dropWhile fun c => isDigit c || c == '_'
  let whole ← wholeDigits wholeChars
  let (fraction, rest) ← match rest with
    | '.' :: rest =>
      (digitRun isDigit (rest.takeWhile fun c => isDigit c || c == '_')).map
        (·, rest.dropWhile fun c => isDigit c || c == '_')
    | rest => some ([], rest)
  let exponent ← match rest with
    | [] => some (0 : Int)
    | e :: rest =>
      if e == 'e' || e == 'E' then
        let (down, rest) := splitSign rest
        (digitRun isDigit rest).map fun ds =>
          if down then -(digitsValue ds : Int) else digitsValue ds
      else none
  if wholeChars.length + 1 > cs.length then none
  else
    let d :=
      Double.ofDecimal negative (digitsValue (whole ++ fraction)) (exponent - fraction.length)
    if d = .infinite false then none else some (.float d)

/-- The floats that are words. -/
def wordFloat? (cs : List Char) : Option Toml :=
  let (negative, cs) := splitSign cs
  match cs with
  | ['i', 'n', 'f'] => some (.float (.infinite negative))
  | ['n', 'a', 'n'] => some (.float .nan)
  | _ => none

/-- Two digits below a bound. -/
def twoDigits? (low high : Nat) : List Char → Option (Nat × List Char)
  | a :: b :: rest =>
    let n := digitsValue [a, b]
    if isDigit a && isDigit b && low ≤ n && n ≤ high then some (n, rest) else none
  | _ => none

/-- The number of days of a month. -/
def daysIn (year month : Nat) : Nat :=
  if month = 2 then
    if year % 4 = 0 && (year % 100 ≠ 0 || year % 400 = 0) then 29 else 28
  else if [4, 6, 9, 11].contains month then 30
  else 31

/-- A date, in its standard spelling. -/
def date? (cs : List Char) : Option (String × List Char) := do
  let year := cs.take 4
  if year.length < 4 || !year.all isDigit then none
  else
    match cs.drop 4 with
    | '-' :: rest =>
      let (month, after) ← twoDigits? 1 12 rest
      match after with
      | '-' :: last =>
        let (_, after) ← twoDigits? 1 (daysIn (digitsValue year) month) last
        some (String.ofList (cs.take 10), after)
      | _ => none
    | _ => none

/-- Removes zeros at the end. -/
def dropZeros (ds : List Char) : List Char :=
  (ds.reverse.dropWhile (· == '0')).reverse

/-- A time of day, in its standard spelling: nine digits of a second at most. -/
def time? (cs : List Char) : Option (String × List Char) := do
  let (_, rest) ← twoDigits? 0 23 cs
  match rest with
  | ':' :: rest =>
    let (_, rest) ← twoDigits? 0 59 rest
    match rest with
    | ':' :: rest =>
      let (_, rest) ← twoDigits? 0 60 rest
      let clock := String.ofList (cs.take 8)
      match rest with
      | '.' :: rest =>
        let ds := rest.takeWhile isDigit
        if ds.isEmpty then none
        else
          let shown := dropZeros (ds.take 9)
          some (if shown.isEmpty then clock else clock ++ "." ++ String.ofList shown,
            rest.dropWhile isDigit)
      | rest => some (clock, rest)
    | _ => none
  | _ => none

/-- The offset of a time, in its standard spelling; it may be absent. No offset
is written as a negative one. -/
def offset? : List Char → Option String
  | [] => some ""
  | ['Z'] => some "Z"
  | ['z'] => some "Z"
  | sign :: rest =>
    if sign == '+' || sign == '-' then
      match twoDigits? 0 23 rest with
      | some (_, ':' :: minutes) =>
        match twoDigits? 0 59 minutes with
        | some (_, []) =>
          let text := String.ofList rest
          some ((if text == "00:00" then "+" else String.ofList [sign]) ++ text)
        | _ => none
      | _ => none
    else none

/-- A date, a time, or both with an offset. -/
def moment? (cs : List Char) : Option Toml :=
  match date? cs with
  | some (date, []) => some (.moment date)
  | some (date, sep :: rest) =>
    if sep == 'T' || sep == 't' || sep == ' ' then
      match time? rest with
      | some (time, rest) => (offset? rest).map fun z => .moment (date ++ "T" ++ time ++ z)
      | none => none
    else none
  | none =>
    match time? cs with
    | some (time, []) => some (.moment time)
    | _ => none

/-- Whether the character can stand in a word or number. -/
def isWordChar (c : Char) : Bool :=
  isLetter c || isDigit c || c == '_' || c == '-' || c == '+' || c == '.' || c == ':'

/-- The characters of a word or number. A date may be followed by a blank and a
time. -/
def wordChars (cs : List Char) : List Char × List Char :=
  let word := cs.takeWhile isWordChar
  match cs.dropWhile isWordChar with
  | ' ' :: d :: rest =>
    match date? word with
    | some (_, []) =>
      if isDigit d then
        (word ++ ' ' :: (d :: rest).takeWhile isWordChar, (d :: rest).dropWhile isWordChar)
      else (word, ' ' :: d :: rest)
    | _ => (word, ' ' :: d :: rest)
  | rest => (word, rest)

/-- A scalar that is not a string. -/
def wordScalar? (word : List Char) : Option Toml :=
  match word with
  | ['t', 'r', 'u', 'e'] => some (.bool true)
  | ['f', 'a', 'l', 's', 'e'] => some (.bool false)
  | word =>
    (integer? word).or ((decimalFloat? word).or ((wordFloat? word).or (moment? word)))

end ZigReflect.Toml
