import ZigReflect.Tool.LinePattern

/-!
# Print formats

Texts with escapes, and formats whose marks take arguments. A format is used again
until no argument is left.
-/

namespace ZigReflect.Tool

/-! ## Escapes -/

/-- The byte that stands after a backslash: a letter, a backslash, or up to three
octal digits; and what follows it. -/
def escapeAt? : List UInt8 → Option (UInt8 × List UInt8)
  | [] => none
  | c :: rest =>
    if c == 92 then some (92, rest)
    else if c == 98 then some (8, rest)
    else
      match escapedByte? c with
      | some b => some (b, rest)
      | none => numberedByte? 8 3 (c :: rest)

/-- A text with its escapes, and whether one of them ends all output. A number may
have a zero before its digits, and a backslash that escapes nothing stands for
itself. The fuel is spent by one for each byte. -/
def escapedText : Nat → List UInt8 → List UInt8 × Bool
  | 0, _ => ([], false)
  | _, [] => ([], false)
  | _ + 1, 92 :: 99 :: _ => ([], true)
  | fuel + 1, 92 :: rest =>
    let digits := match rest with
      | 48 :: d :: more => if 48 ≤ d && d ≤ 55 then d :: more else rest
      | rest => rest
    let (b, rest) := (escapeAt? digits).getD (92, rest)
    let (more, ends) := escapedText fuel rest
    (b :: more, ends)
  | fuel + 1, b :: rest =>
    let (more, ends) := escapedText fuel rest
    (b :: more, ends)

/-- A text with its escapes, and whether one of them ends all output. -/
def unescape (text : String) : List UInt8 × Bool :=
  let bytes := bytesOf text
  escapedText (bytes.length + 1) bytes

/-! ## Marks -/

/-- How the argument of a mark is laid out. -/
structure Layout where
  flags : List UInt8 := []
  width : Nat := 0
  precision : Option Nat := none

namespace Layout

/-- Whether a flag is given. -/
def has (l : Layout) (flag : Char) : Bool := l.flags.contains (flag.toNat.toUInt8)

/-- Fills a text up to the width. -/
def pad (l : Layout) (text : List UInt8) : List UInt8 :=
  let gap := List.replicate (l.width - text.length) 32
  if l.has '-' then text ++ gap else gap ++ text

/-- Cuts a text to the precision and fills it up to the width. -/
def text (l : Layout) (bytes : List UInt8) : List UInt8 :=
  l.pad (match l.precision with
    | some n => bytes.take n
    | none => bytes)

/-- A number with its sign, digits filled up with zeros to the precision, or to
the width where a flag says so. -/
def number (l : Layout) (sign digits : List UInt8) : List UInt8 :=
  let size := match l.precision with
    | some n => n
    | none => if l.has '0' && !l.has '-' then l.width - sign.length else 0
  l.pad (sign ++ List.replicate (size - digits.length) 48 ++ digits)

/-- The sign of a number. -/
def sign (l : Layout) (n : Int) : List UInt8 :=
  if n < 0 then [45] else if l.has '+' then [43] else if l.has ' ' then [32] else []

end Layout

/-- Reads the flags, the width and the precision of a mark. -/
def readLayout (bytes : List UInt8) : Layout × List UInt8 :=
  let isFlag (b : UInt8) : Bool := (bytesOf "#-+ 0").contains b
  let value (ds : List UInt8) : Nat := ds.foldl (fun n d => 10 * n + (d.toNat - 48)) 0
  let flags := bytes.takeWhile isFlag
  let rest := bytes.dropWhile isFlag
  let width := rest.takeWhile isDigitByte
  match rest.dropWhile isDigitByte with
  | 46 :: rest =>
    (⟨flags, value width, some (value (rest.takeWhile isDigitByte))⟩,
      rest.dropWhile isDigitByte)
  | rest => (⟨flags, value width, none⟩, rest)

/-- The number at the start of a text, in the base that its digits are written in,
and how many characters it takes. -/
def leadingNumber (cs : List Char) : Nat × Nat :=
  let value (base : Nat) (ds : List Char) : Nat :=
    ds.foldl (fun n d => base * n + ((hexByte? d.toNat.toUInt8).getD 0)) 0
  let digits (base : Nat) (cs : List Char) : List Char :=
    cs.takeWhile fun c => c.toNat < 128 && (hexByte? c.toNat.toUInt8).any (· < base)
  match cs with
  | '0' :: x :: rest =>
    let hex := digits 16 rest
    if (x == 'x' || x == 'X') && !hex.isEmpty then (value 16 hex, hex.length + 2)
    else (value 8 (digits 8 cs), (digits 8 cs).length)
  | cs => (value 10 (digits 10 cs), (digits 10 cs).length)

/-- The number that an argument spells, and what is wrong with it. An argument
that starts with a quote stands for the character behind it. -/
def argumentNumber (arg : String) : Int × Option String :=
  match arg.toList with
  | [] => (0, none)
  | '\'' :: c :: _ => (c.toNat, none)
  | '"' :: c :: _ => (c.toNat, none)
  | cs =>
    let cs := cs.dropWhile (· == ' ')
    let (isNegative, digits) := match cs with
      | '-' :: rest => (true, rest)
      | '+' :: rest => (false, rest)
      | cs => (false, cs)
    let (n, size) := leadingNumber digits
    let value : Int := if isNegative then -n else n
    if size = 0 then (0, some (arg ++ ": expected numeric value"))
    else if size < digits.length then (value, some (arg ++ ": not completely converted"))
    else (value, none)

/-- What a format prints: the bytes, the arguments that are left, what is wrong,
and whether all output ends here. -/
structure Formatted where
  printed : List UInt8 := []
  rest : List String := []
  faults : List String := []
  ends : Bool := false

/-- Puts bytes before what is printed. -/
def Formatted.before (bytes : List UInt8) (f : Formatted) : Formatted :=
  { f with printed := bytes ++ f.printed }

/-- The digits of a number in a base. -/
def digitBytes (base : Nat) (n : Nat) : List UInt8 := bytesOf (String.ofList (Nat.toDigits base n))

/-- A number as a mark shows it. A negative number without a sign stands for the
word that holds it. -/
def numberBytes (l : Layout) (letter : UInt8) (n : Int) : List UInt8 :=
  let word := (n % 0x10000000000000000).toNat
  if letter == 111 then l.number [] (digitBytes 8 word)
  else if letter == 120 then l.number [] (digitBytes 16 word)
  else if letter == 88 then l.number [] ((digitBytes 16 word).map upperByte)
  else if letter == 117 then l.number [] (digitBytes 10 word)
  else l.number (l.sign n) (digitBytes 10 n.natAbs)

/-- Prints under a format once. The fuel is spent by one for each byte. -/
def formatOnce : Nat → List UInt8 → List String → Formatted
  | 0, _, args => { rest := args }
  | _, [], args => { rest := args }
  | fuel + 1, 92 :: rest, args =>
    let (b, rest) := (escapeAt? rest).getD (92, rest)
    (formatOnce fuel rest args).before [b]
  | fuel + 1, 37 :: 37 :: rest, args => (formatOnce fuel rest args).before [37]
  | fuel + 1, 37 :: rest, args =>
    let (layout, after) := readLayout rest
    let arg := args.headD ""
    match after with
    | [] => { rest := args, faults := ["missing format character"], ends := true }
    | letter :: after =>
      if letter == 115 then (formatOnce fuel after args.tail).before (layout.text (bytesOf arg))
      else if letter == 99 then
        (formatOnce fuel after args.tail).before (layout.pad ((bytesOf arg).take 1))
      else if letter == 98 then
        let (bytes, ends) := unescape arg
        if ends then { printed := layout.text bytes, ends := true }
        else (formatOnce fuel after args.tail).before (layout.text bytes)
      else if (bytesOf "diouxX").contains letter then
        let (n, fault) := argumentNumber arg
        let f := (formatOnce fuel after args.tail).before (numberBytes layout letter n)
        { f with faults := fault.toList ++ f.faults }
      else
        let text := String.ofList ('%' :: (rest.take (rest.length - after.length)).map fun b =>
          Char.ofNat b.toNat)
        { rest := args, faults := [text ++ ": invalid directive"], ends := true }
  | fuel + 1, b :: rest, args => (formatOnce fuel rest args).before [b]

/-- Prints under a format until no argument is left, or none is taken. -/
def formatAgain (form : List UInt8) : Nat → List String → Formatted
  | 0, args => { rest := args }
  | fuel + 1, args =>
    let once := formatOnce (form.length + 1) form args
    if once.ends || once.rest.isEmpty || once.rest.length = args.length then once
    else
      let more := formatAgain form fuel once.rest
      { (more.before once.printed) with faults := once.faults ++ more.faults }

/-- Prints arguments under a format. -/
def formatAll (form : String) (args : List String) : Formatted :=
  formatAgain (bytesOf form) (args.length + 1) args

end ZigReflect.Tool
