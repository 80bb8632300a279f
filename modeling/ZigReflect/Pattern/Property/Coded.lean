import ZigReflect.Pattern.CharSet

/-!
# Sets in writing

A large set of characters is written as numbers: how many characters are left out,
how many are taken, how many are left out again, and so on from the first character
on. The numbers have digits and letters as digits, and blanks between them.
-/

namespace ZigReflect.Pattern

/-- The value of a digit in base 36. -/
def codedDigit (c : Char) : Nat :=
  if c.isDigit then c.toNat - 48 else c.toNat - 87

/-- The numbers of some characters; `n` is what has been read of the first. -/
def codedNumbers (n : Nat) : List Char → List Nat
  | [] => [n]
  | c :: rest =>
    if c == ' ' then n :: codedNumbers 0 rest else codedNumbers (36 * n + codedDigit c) rest

/-- The ranges from a code point on that numbers spell. -/
def codedRanges (next : Nat) : List Nat → List (Nat × Nat)
  | gap :: size :: rest =>
    (next + gap, next + gap + size - 1) :: codedRanges (next + gap + size) rest
  | _ => []

/-- The set that lines of numbers spell. -/
def CharSet.coded (lines : List String) : CharSet :=
  if lines.isEmpty then .none
  else ⟨codedRanges 0 (codedNumbers 0 (" ".intercalate lines).toList)⟩

end ZigReflect.Pattern
