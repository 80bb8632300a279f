/-!
# Double precision numbers

A finite double is a mantissa times a power of two, kept as exact integers.
`Double.ofDecimal` rounds a decimal to the nearest double, a half to the even
mantissa, in exact arithmetic. `Double.ofParts?` rounds in steps: the digits,
the power of ten, and their product or quotient.
-/

namespace ZigReflect

/-- A number of the binary64 format. In a finite number the mantissa is below
`2 ^ 53`, and it is at least `2 ^ 52` unless the exponent is the least one. -/
inductive Double where
  /-- `mantissa * 2 ^ exponent`, negated when `negative`. -/
  | finite (negative : Bool) (mantissa : Nat) (exponent : Int)
  | infinite (negative : Bool)
  | nan
deriving DecidableEq, Repr, Inhabited

namespace Double

/-- The least exponent of a finite double. -/
def minExponent : Int := -1074

/-- The greatest exponent of a finite double. -/
def maxExponent : Int := 971

/-- Zero with a sign. -/
def zero (negative : Bool) : Double := .finite negative 0 minExponent

/-- Whether the number is zero, of either sign. -/
def isZero : Double → Bool
  | .finite _ m _ => m == 0
  | _ => false

/-- Whether the number is neither infinite nor undefined. -/
def isFinite : Double → Bool
  | .finite .. => true
  | _ => false

/-- `num / den` rounded to the nearest integer, a half to the even one. -/
def roundDiv (num den : Nat) : Nat :=
  let q := num / den
  let r := num % den
  if 2 * r < den then q
  else if den < 2 * r then q + 1
  else if q % 2 = 0 then q else q + 1

/-- The numerator and denominator of `num / den / 2 ^ e`. -/
def scale (num den : Nat) (e : Int) : Nat × Nat :=
  if 0 ≤ e then (num, den * Nat.pow 2 e.toNat) else (num * Nat.pow 2 (-e).toNat, den)

/-- The exponent at which the quotient has a mantissa of 53 bits. -/
def exponentOf (num den : Nat) : Int :=
  let guess : Int := (Nat.log2 num : Int) - (Nat.log2 den : Int) - 52
  let (n, d) := scale num den guess
  let q := n / d
  let e := if Nat.pow 2 53 ≤ q then guess + 1 else if q < Nat.pow 2 52 then guess - 1 else guess
  max e minExponent

/-- The double nearest to a positive quotient. -/
def ofRatio (negative : Bool) (num den : Nat) : Double :=
  let e := exponentOf num den
  let (n, d) := scale num den e
  let m := roundDiv n d
  let (m, e) := if m = Nat.pow 2 53 then (Nat.pow 2 52, e + 1) else (m, e)
  if maxExponent < e then .infinite negative else .finite negative m e

/-- The double nearest to `digits * 10 ^ exponent`. Exponents far outside the
range of the format are decided without the power being computed. -/
def ofDecimal (negative : Bool) (digits : Nat) (exponent : Int) : Double :=
  let magnitude : Int := (Nat.toDigits 10 digits).length + exponent
  if digits = 0 then zero negative
  else if 310 < magnitude then .infinite negative
  else if magnitude < -330 then zero negative
  else if 0 ≤ exponent then ofRatio negative (digits * Nat.pow 10 exponent.toNat) 1
  else ofRatio negative digits (Nat.pow 10 (-exponent).toNat)

/-- The double nearest to an integer. -/
def ofInt (i : Int) : Double := ofDecimal (i < 0) i.natAbs 0

/-- The double nearest to `num / den * 2 ^ exponent`. -/
def ofScaled (negative : Bool) (num den : Nat) (exponent : Int) : Double :=
  if num = 0 then zero negative
  else if 0 ≤ exponent then ofRatio negative (num * Nat.pow 2 exponent.toNat) den
  else ofRatio negative num (den * Nat.pow 2 (-exponent).toNat)

/-- The product of two doubles. -/
def mul : Double → Double → Double
  | .finite s m e, .finite s' m' e' => ofScaled (s != s') (m * m') 1 (e + e')
  | .nan, _ | _, .nan => .nan
  | .infinite s, .infinite s' => .infinite (s != s')
  | .infinite s, .finite s' m _ | .finite s m _, .infinite s' =>
    if m = 0 then .nan else .infinite (s != s')

/-- The quotient of two doubles. -/
def div : Double → Double → Double
  | .finite s m e, .finite s' m' e' =>
    if m' = 0 then if m = 0 then .nan else .infinite (s != s')
    else ofScaled (s != s') m m' (e - e')
  | .nan, _ | _, .nan | .infinite _, .infinite _ => .nan
  | .infinite s, .finite s' _ _ => .infinite (s != s')
  | .finite s _ _, .infinite s' => zero (s != s')

/-- The greatest power of ten that a double is multiplied with or divided by. -/
def maxPower : Nat := 308

/-- The double nearest to a power of ten. -/
def powerOfTen (n : Nat) : Double := ofDecimal false 1 n

/-- The double divided by the greatest power of ten, a number of times or until
nothing is left of it. -/
def divideDown : Nat → Double → Double
  | 0, d => d
  | n + 1, d => if d.isZero then d else divideDown n (d.div (powerOfTen maxPower))

/-- `significand * 10 ^ exponent`, rounded in steps: the significand, the power
of ten, and each product and quotient. What is too large is no double. -/
def ofParts? (negative : Bool) (significand : Nat) (exponent : Int) : Option Double :=
  let d := ofDecimal negative significand 0
  if exponent < 0 then
    let downs := (exponent.natAbs - 1) / maxPower
    some ((divideDown downs d).div (powerOfTen (exponent.natAbs - downs * maxPower)))
  else if maxPower < exponent.natAbs then if d.isZero then some d else none
  else
    let product := d.mul (powerOfTen exponent.natAbs)
    if product.isFinite then some product else none

end Double

end ZigReflect
