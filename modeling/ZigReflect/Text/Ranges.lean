/-!
# Sets of characters as ranges

A Unicode property is kept as the list of its code point ranges, in order.
-/

namespace ZigReflect.Text

/-- Closed ranges of code points, in ascending order. -/
abbrev Ranges := Array (Nat × Nat)

/-- Whether the character lies in one of the ranges. -/
def Ranges.has (r : Ranges) (c : Char) : Bool :=
  r.any fun (lo, hi) => lo ≤ c.toNat && c.toNat ≤ hi

end ZigReflect.Text
