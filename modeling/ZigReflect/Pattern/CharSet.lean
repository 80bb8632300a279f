import ZigReflect.Text.CaseFold

/-!
# Sets of characters in patterns

A set is kept as closed ranges of code points in ascending order, with a gap
between any two of them, so that equal sets have equal ranges. All operations
keep that form.
-/

namespace ZigReflect.Pattern

/-- A set of characters as ranges of code points. -/
structure CharSet where
  ranges : List (Nat × Nat)
deriving DecidableEq, Repr, Inhabited

namespace CharSet

/-- Whether a code point is in the set. -/
def hasCode (s : CharSet) (n : Nat) : Bool :=
  s.ranges.any fun (lo, hi) => lo ≤ n && n ≤ hi

/-- Whether a character is in the set. -/
def has (s : CharSet) (c : Char) : Bool := s.hasCode c.toNat

/-- Joins ranges that overlap or touch; they ascend by their starts. -/
def joinFrom (r : Nat × Nat) : List (Nat × Nat) → List (Nat × Nat)
  | [] => [r]
  | x :: rest =>
    if x.1 ≤ r.2 + 1 then joinFrom (r.1, Nat.max r.2 x.2) rest else r :: joinFrom x rest

/-- The union of ranges. -/
def ofRanges (rs : List (Nat × Nat)) : CharSet :=
  match rs.mergeSort fun a b => a.1 ≤ b.1 with
  | [] => ⟨[]⟩
  | r :: rest => ⟨joinFrom r rest⟩

/-- The set of no character. -/
def none : CharSet := ⟨[]⟩

/-- The characters from one to another. -/
def range (first last : Char) : CharSet := ⟨[(first.toNat, last.toNat)]⟩

/-- The set of one character. -/
def single (c : Char) : CharSet := range c c

/-- The last code point. -/
def lastCode : Nat := 0x10FFFF

/-- The code points from a number on that lie in none of some ranges. -/
def gapsFrom (next : Nat) : List (Nat × Nat) → List (Nat × Nat)
  | [] => if next ≤ lastCode then [(next, lastCode)] else []
  | (lo, hi) :: rest =>
    if next < lo then (next, lo - 1) :: gapsFrom (hi + 1) rest else gapsFrom (hi + 1) rest

/-- The characters that are not in the set. -/
def complement (s : CharSet) : CharSet := ⟨gapsFrom 0 s.ranges⟩

/-- The characters that are in one of two sets. -/
def union (a b : CharSet) : CharSet := ofRanges (a.ranges ++ b.ranges)

/-- The characters that are in both of two sets. -/
def intersection (a b : CharSet) : CharSet := (a.complement.union b.complement).complement

/-- The characters of the first set that are not in the second. -/
def difference (a b : CharSet) : CharSet := a.intersection b.complement

/-- The characters that are in one of two sets and not in both. -/
def symmetric (a b : CharSet) : CharSet := (a.union b).difference (a.intersection b)

/-- Adds, for some pairs of code points that differ only in case, what the set
lacks of a pair or of those that share its second code point. -/
def foldedBy (pairs : List (Nat × Nat)) (s : CharSet) : CharSet :=
  let targets := ofRanges (pairs.filterMap fun (n, t) =>
    if s.hasCode n || s.hasCode t then some (t, t) else Option.none)
  let mates := pairs.filterMap fun (n, t) => if targets.hasCode t then some (n, n) else Option.none
  ofRanges (s.ranges ++ targets.ranges ++ mates)

/-- The characters that differ at most in case from one of the set. -/
def folded (s : CharSet) : CharSet := s.foldedBy Text.foldPairs

/-- The ASCII letters, upper case with lower case. -/
def letterPairs : List (Nat × Nat) :=
  (List.range 26).map fun i => (0x41 + i, 0x61 + i)

/-- The set with both cases of its ASCII letters. -/
def foldedAscii (s : CharSet) : CharSet := s.foldedBy letterPairs

/-- Whether all characters of the set are ASCII. -/
def isAscii (s : CharSet) : Bool := s.ranges.all fun r => r.2 < 0x80

/-- Every character. -/
def all : CharSet := none.complement

/-- The only character of the set. -/
def only? (s : CharSet) : Option Char :=
  match s.ranges with
  | [(lo, hi)] => if lo = hi then some (Char.ofNat lo) else Option.none
  | _ => Option.none

/-- The union of ranges of characters. -/
def ofChars (rs : List (Char × Char)) : CharSet :=
  ofRanges (rs.map fun (first, last) => (first.toNat, last.toNat))

/-- The named sets of ASCII characters. -/
def ascii? (name : String) : Option CharSet :=
  match name with
  | "alnum" => some (ofChars [('0', '9'), ('A', 'Z'), ('a', 'z')])
  | "alpha" => some (ofChars [('A', 'Z'), ('a', 'z')])
  | "ascii" => some (ofChars [('\x00', '\x7f')])
  | "blank" => some (ofChars [('\t', '\t'), (' ', ' ')])
  | "cntrl" => some (ofChars [('\x00', '\x1f'), ('\x7f', '\x7f')])
  | "digit" => some (ofChars [('0', '9')])
  | "graph" => some (ofChars [('!', '~')])
  | "lower" => some (ofChars [('a', 'z')])
  | "print" => some (ofChars [(' ', '~')])
  | "punct" => some (ofChars [('!', '/'), (':', '@'), ('[', '\x60'), ('\x7b', '~')])
  | "space" => some (ofChars [('\t', '\r'), (' ', ' ')])
  | "upper" => some (ofChars [('A', 'Z')])
  | "word" => some (ofChars [('0', '9'), ('A', 'Z'), ('_', '_'), ('a', 'z')])
  | "xdigit" => some (ofChars [('0', '9'), ('A', 'F'), ('a', 'f')])
  | _ => Option.none

end CharSet

end ZigReflect.Pattern
