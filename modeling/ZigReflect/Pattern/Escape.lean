import ZigReflect.Pattern.Property
import ZigReflect.Pattern.Regex
import ZigReflect.Pattern.Source
import ZigReflect.Text.Digit
import ZigReflect.Text.Find
import ZigReflect.Text.Word

/-!
# Escapes

What a backslash stands for in a pattern.
-/

namespace ZigReflect.Pattern

open ZigReflect.Text

namespace CharSet

/-- The digits that a pattern knows. -/
def digit (ascii : Bool) : CharSet :=
  .ofRanges ((0x30, 0x39) :: if ascii then [] else digitRanges.toList)

/-- The blanks that a pattern knows. -/
def blank (ascii : Bool) : CharSet :=
  .ofRanges ([(0x09, 0x0D), (0x20, 0x20)] ++ if ascii then [] else
    [(0x85, 0x85), (0xA0, 0xA0), (0x1680, 0x1680), (0x2000, 0x200A), (0x2028, 0x2029),
      (0x202F, 0x202F), (0x205F, 0x205F), (0x3000, 0x3000)])

/-- The word characters that a pattern knows. -/
def word (ascii : Bool) : CharSet :=
  .ofRanges ([(0x30, 0x39), (0x41, 0x5A), (0x5F, 0x5F), (0x61, 0x7A)] ++
    if ascii then [] else wordRanges.toList)

end CharSet

namespace Flags

/-- Widens a set under the flags. -/
def fold (f : Flags) (s : CharSet) : CharSet :=
  if !f.ignoreCase then s else if f.ascii then s.foldedAscii else s.folded

/-- The set or its complement. Where only ASCII counts, a set cannot hold
anything else. -/
def negate? (f : Flags) (negated : Bool) (s : CharSet) : Option CharSet :=
  let s := if negated then s.complement else s
  if f.ascii && !s.isAscii then none else some s

/-- Where only ASCII counts, a character cannot be written as a byte above it. -/
def allows (f : Flags) (c : Char) (asByte : Bool) : Bool :=
  !(f.ascii && asByte && 0x80 ≤ c.toNat)

end Flags

/-- What an escape stands for. -/
inductive Escape where
  /-- A character; `asByte` says whether two hexadecimal digits name it. -/
  | char (c : Char) (asByte : Bool)
  | set (s : CharSet)
  | anchor (a : Anchor)

/-- The escapes of one letter that stand for a set, and whether for its
complement. -/
def letterSet? (ascii : Bool) : Char → Option (CharSet × Bool)
  | 'd' => some (.digit ascii, false)
  | 'D' => some (.digit ascii, true)
  | 'w' => some (.word ascii, false)
  | 'W' => some (.word ascii, true)
  | 's' => some (.blank ascii, false)
  | 'S' => some (.blank ascii, true)
  | _ => none

/-- The escapes of one character that stand for a condition. -/
def letterAnchor? (ascii : Bool) : Char → Option Anchor
  | 'A' => some .textStart
  | 'z' => some .textEnd
  | 'b' => some (.word .boundary ascii)
  | 'B' => some (.word .notBoundary ascii)
  | '<' => some (.word .first ascii)
  | '>' => some (.word .last ascii)
  | _ => none

/-- The escapes of one letter that stand for a character. -/
def letterChar? : Char → Option Char
  | 'a' => some '\x07'
  | 'f' => some '\x0c'
  | 't' => some '\t'
  | 'n' => some '\n'
  | 'r' => some '\r'
  | 'v' => some '\x0b'
  | _ => none

/-- Whether a character stands for itself after a backslash. -/
def isEscapable (c : Char) : Bool :=
  c.toNat < 0x80 && !isLetter c && !isDigit c && c != '<' && c != '>'

/-- The character of a code point in hexadecimal. -/
def codePoint? (digits : List Char) : Option Char :=
  if digits.isEmpty then none
  else (hexValue? digits).bind fun n => if n.isValidChar then some (Char.ofNat n) else none

/-- A code point in braces or of a fixed number of digits. -/
def hexEscape? (f : Flags) (width : Nat) (cs : List Char) : Option (Escape × List Char) :=
  match f.gap cs with
  | '\x7b' :: rest =>
    match f.takeUntil (· == '\x7d') false rest with
    | some (digits, _ :: rest) => (codePoint? digits).map fun c => (.char c false, f.gap rest)
    | _ => none
  | cs =>
    (f.takeSome false width cs).bind fun (digits, rest) =>
      (codePoint? digits).map fun c => (.char c (width == 2), f.gap rest)

/-- The property after its letter: a letter of its own, or a name in braces. -/
def propertyEscape? (f : Flags) (negated : Bool) (cs : List Char) :
    Option (Escape × List Char) := do
  let (name, rest) ← match f.gap cs with
    | '\x7b' :: rest =>
      match f.takeUntil (· == '\x7d') false rest with
      | some (name, _ :: rest) => some (name, rest)
      | _ => none
    | c :: rest => if c == '\\' then none else some ([c], f.gap rest)
    | [] => none
  if f.ascii then none
  let s ← propertySet? name
  let s ← f.negate? negated (f.fold s)
  return (.set s, rest)

/-- Whether the character can stand in the name of a word anchor. -/
def isAnchorName (c : Char) : Bool := isLetter c || c == '-'

/-- The name of a word anchor in braces. Braces that start otherwise are a
repetition and are left. -/
def wordAnchor? (f : Flags) (cs : List Char) : Option (WordAnchor × List Char) :=
  match cs with
  | '\x7b' :: rest =>
    match f.gap rest with
    | [] => none
    | c :: inner =>
      if !isAnchorName c then some (.boundary, cs)
      else
        match f.takeUntil (fun c => !isAnchorName c) false (c :: inner) with
        | some (name, '\x7d' :: rest) =>
          match String.ofList name with
          | "start" => some (.first, rest)
          | "end" => some (.last, rest)
          | "start-half" => some (.firstHalf, rest)
          | "end-half" => some (.lastHalf, rest)
          | _ => none
        | _ => none
  | cs => some (.boundary, cs)

/-- The escape after a backslash, and what follows it. -/
def escape? (f : Flags) : List Char → Option (Escape × List Char)
  | [] => none
  | 'x' :: rest => hexEscape? f 2 rest
  | 'u' :: rest => hexEscape? f 4 rest
  | 'U' :: rest => hexEscape? f 8 rest
  | 'p' :: rest => propertyEscape? f false rest
  | 'P' :: rest => propertyEscape? f true rest
  | 'b' :: rest => (wordAnchor? f rest).map fun (w, rest) => (.anchor (.word w f.ascii), rest)
  | c :: rest =>
    match letterSet? f.ascii c, letterAnchor? f.ascii c, letterChar? c with
    | some (s, negated), _, _ => (f.negate? negated s).map fun s => (.set s, rest)
    | none, some a, _ => some (.anchor a, rest)
    | none, none, some c => some (.char c false, rest)
    | none, none, none => if isEscapable c then some (.char c false, rest) else none

end ZigReflect.Pattern
