import ZigReflect.Decimal.Double

/-!
# The shortest decimal of a double

`Shortest.digits` finds the decimal with the fewest digits that rounds back to
a double, and of those the one nearest to it. For one, two, … digits it tests
the two neighbours of the number on that decimal grid, in exact arithmetic.
The layouts then say where such a decimal is written with an exponent.
-/

namespace ZigReflect

/-- The decimal `digits * 10 ^ exponent`. -/
structure Decimal where
  digits : Nat
  exponent : Int
deriving DecidableEq, Repr, Inhabited

namespace Shortest

/-- The numbers that round to one double: a quotient and its distance to the
two ends, all over one denominator. -/
structure Interval where
  value : Nat
  below : Nat
  above : Nat
  den : Nat
  /-- Whether the ends round to the double too. -/
  closed : Bool

/-- The numbers that round to `mantissa * 2 ^ exponent`. The gap below a power
of two is half the gap above it. -/
def interval (mantissa : Nat) (exponent : Int) : Interval :=
  let unit := if 0 ≤ exponent then Nat.pow 2 exponent.toNat else 1
  let den := if 0 ≤ exponent then 1 else Nat.pow 2 (-exponent).toNat
  let halved := mantissa = Nat.pow 2 52 ∧ Double.minExponent < exponent
  { value := 4 * mantissa * unit
    below := if halved then unit else 2 * unit
    above := 2 * unit
    den := 4 * den
    closed := mantissa % 2 = 0 }

/-- Whether `num / den` rounds to the double. -/
def Interval.covers (i : Interval) (num den : Nat) : Bool :=
  let x := num * i.den
  let low := (i.value - i.below) * den
  let high := (i.value + i.above) * den
  if i.closed then low ≤ x && x ≤ high else low < x && x < high

/-- The decimal exponent `k` with `10 ^ (k - 1) ≤ value < 10 ^ k`. -/
def magnitude (i : Interval) : Int :=
  let whole := i.value / i.den
  if 0 < whole then (Nat.toDigits 10 whole).length
  else
    let flipped := i.den / i.value
    let guess : Int := 1 - ((Nat.toDigits 10 flipped).length : Int)
    if i.den ≤ i.value * Nat.pow 10 (-guess).toNat then guess + 1 else guess

/-- A multiple of a power of ten as a quotient. -/
def gridPoint (n : Nat) (unit : Int) : Nat × Nat :=
  if 0 ≤ unit then (n * Nat.pow 10 unit.toNat, 1) else (n, Nat.pow 10 (-unit).toNat)

/-- Which of two neighbours on a decimal grid is taken when the double lies
exactly between them. -/
inductive Tie where
  | upward
  | toEven
deriving DecidableEq, Repr, Inhabited

/-- The neighbour that is taken; the arguments are the lower one and its
distance, and the distance of the upper one. -/
def Tie.pick (tie : Tie) (low lowGap highGap : Nat) : Nat :=
  if lowGap < highGap then low
  else if lowGap = highGap && tie = .toEven && low % 2 = 0 then low
  else low + 1

/-- The nearest multiple of `10 ^ unit` that rounds to the double. -/
def onGrid (tie : Tie) (i : Interval) (unit : Int) : Option Nat :=
  let (un, ud) := gridPoint 1 unit
  let low := i.value * ud / (i.den * un)
  let high := low + 1
  let hits (n : Nat) : Bool := let (a, b) := gridPoint n unit; i.covers a b
  let lowGap := i.value * ud - low * i.den * un
  let highGap := high * i.den * un - i.value * ud
  match hits low && 0 < low, hits high with
  | true, true => some (tie.pick low lowGap highGap)
  | true, false => some low
  | false, true => some high
  | false, false => none

/-- Tries grids of more and more digits. -/
def search (tie : Tie) (i : Interval) (k : Int) : Nat → Nat → Decimal
  | 0, used => ⟨i.value / i.den, k - used⟩
  | more + 1, used =>
    match onGrid tie i (k - used) with
    | some n => ⟨n, k - used⟩
    | none => search tie i k more (used + 1)

/-- Moves the zeros at the end of the digits into the exponent. -/
def strip : Nat → Decimal → Decimal
  | 0, d => d
  | fuel + 1, d =>
    if d.digits ≠ 0 ∧ d.digits % 10 = 0 then strip fuel ⟨d.digits / 10, d.exponent + 1⟩ else d

/-- The shortest decimal that rounds to `mantissa * 2 ^ exponent`. -/
def digits (tie : Tie) (mantissa : Nat) (exponent : Int) : Decimal :=
  if mantissa = 0 then ⟨0, 0⟩
  else
    let i := interval mantissa exponent
    strip 20 (search tie i (magnitude i) 20 1)

end Shortest

/-- How decimals are laid out as text. -/
structure Layout where
  /-- Whether a decimal whose point stands after `k` digits is written without
  an exponent; `k` is not positive when the number is below one tenth. -/
  positional : Int → Bool
  /-- What follows an integer that is written without an exponent. -/
  whole : String
  /-- What stands before an exponent that is not negative. -/
  plus : String := ""
  tie : Shortest.Tie := .upward

namespace Layout

/-- Never an exponent, and nothing after an integer. -/
def plain : Layout := { positional := fun _ => true, whole := "" }

/-- An exponent from `10 ^ 16` upward and below `10 ^ -4`; integers keep `.0`. -/
def literal : Layout := { positional := fun k => -4 < k && k ≤ 16, whole := ".0" }

/-- As `literal`, with the exponent beginning below `10 ^ -5` and keeping its
sign, and ties going to the even digit. -/
def message : Layout :=
  { positional := fun k => -5 < k && k ≤ 16, whole := ".0", plus := "+", tie := .toEven }

/-- The digits of a positive decimal, laid out. -/
def renderDecimal (l : Layout) (d : Decimal) : String :=
  let ds := Nat.toDigits 10 d.digits
  let k : Int := ds.length + d.exponent
  if l.positional k then
    if 0 ≤ d.exponent then
      String.ofList (ds ++ List.replicate d.exponent.toNat '0') ++ l.whole
    else if 0 < k then
      String.ofList (ds.take k.toNat) ++ "." ++ String.ofList (ds.drop k.toNat)
    else "0." ++ String.ofList (List.replicate (-k).toNat '0' ++ ds)
  else
    let power := (if 0 < k then l.plus else "") ++ toString (k - 1)
    match ds with
    | [d] => String.ofList [d] ++ "e" ++ power
    | d :: more => String.ofList [d] ++ "." ++ String.ofList more ++ "e" ++ power
    | [] => ""

/-- The text of a double. Zero keeps its sign. -/
def render (l : Layout) : Double → String
  | .nan => "NaN"
  | .infinite negative => if negative then "-inf" else "inf"
  | .finite negative m e =>
    let body :=
      if m = 0 then "0" ++ l.whole else l.renderDecimal (Shortest.digits l.tie m e)
    if negative then "-" ++ body else body

end Layout

end ZigReflect
