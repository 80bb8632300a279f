import ZigReflect.Pattern.CharSet

/-!
# Characters as bytes

A range of characters is a union of byte sequences: each is a list of ranges of
bytes, and stands for all sequences with one byte from each range. The sequences
of a set come in ascending order and do not overlap.
-/

namespace ZigReflect.Pattern

/-- A range of bytes. -/
abbrev ByteRange := Nat × Nat

/-- The numbers from `lo` to `hi` as sequences of a head and `k` digits of six
bits, with something added to the head. Every digit is marked as a byte that
continues a character. -/
def digitSequences : Nat → Nat → Nat → Nat → List (List ByteRange)
  | 0, lead, lo, hi => [[(lead + lo, lead + hi)]]
  | k + 1, lead, lo, hi =>
    let unit := 64 ^ (k + 1)
    let headed (h : Nat) (lo hi : Nat) : List (List ByteRange) :=
      (digitSequences k 0x80 lo hi).map ((lead + h, lead + h) :: ·)
    if lo / unit = hi / unit then headed (lo / unit) (lo % unit) (hi % unit)
    else
      let first := if lo % unit = 0 then lo / unit else lo / unit + 1
      let last := if hi % unit = unit - 1 then hi / unit + 1 else hi / unit
      (if lo % unit = 0 then [] else headed (lo / unit) (lo % unit) (unit - 1)) ++
        (if first < last then
          [(lead + first, lead + last - 1) :: List.replicate (k + 1) (0x80, 0xBF)] else []) ++
        (if hi % unit = unit - 1 then [] else headed (hi / unit) 0 (hi % unit))

/-- The characters that are written with one number of bytes: how many digits
follow the head, what is added to the head, and the first and the last. -/
def byteForms : List (Nat × Nat × Nat × Nat) :=
  [(0, 0, 0, 0x7F), (1, 0xC0, 0x80, 0x7FF), (2, 0xE0, 0x800, 0xD7FF), (2, 0xE0, 0xE000, 0xFFFF),
    (3, 0xF0, 0x10000, 0x10FFFF)]

/-- The byte sequences of a range of characters. -/
def rangeSequences (r : Nat × Nat) : List (List ByteRange) :=
  byteForms.flatMap fun (k, lead, lo, hi) =>
    let first := Nat.max r.1 lo
    let last := Nat.min r.2 hi
    if first ≤ last then digitSequences k lead first last else []

/-- The byte sequences of a set. -/
def CharSet.sequences (s : CharSet) : List (List ByteRange) :=
  s.ranges.flatMap rangeSequences

end ZigReflect.Pattern
