/-!
# Double precision numbers

**Input.** A decimal, as a natural number times a power of ten.

**Algorithm.** The quotient of two natural numbers is scaled by a power of two until its integer
part has 53 bits, or until the power is the least one, and is then rounded to the nearest integer,
a half going to the even neighbour. A decimal is read by three such roundings, of its digits, of its
power of ten and of what they make together, so the last bit need not be that of the nearest double.

**Results.**
* `Binary64`: a finite double, as a sign, a natural number below `2 ^ 53` and a power of two.
* `Binary64.ofQuotient?`: the double nearest to a quotient, if it is finite.
* `Binary64.mul?`, `Binary64.div?`: the rounded product and quotient of two doubles.
* `Binary64.ofDecimal?`: the double that a decimal is read as, if it is finite.
-/

namespace GrammarAssay

/-- A power of two. -/
def twoTo (k : Nat) : Nat :=
  Nat.pow 2 k

/-- A power of ten. -/
def tenTo (k : Nat) : Nat :=
  Nat.pow 10 k

/-- The finite double `± mantissa * 2 ^ exponent`. -/
structure Binary64 where
  negative : Bool
  mantissa : Nat
  exponent : Int
deriving DecidableEq

namespace Binary64

/-- The least power of two of a double. -/
def minExponent : Int := -1074

/-- The greatest power of two of a double. -/
def maxExponent : Int := 971

/-- Zero, which keeps its sign. -/
def zero (negative : Bool) : Binary64 :=
  ⟨negative, 0, minExponent⟩

/-- The quotient `num / den` divided by `2 ^ e`, as a numerator and a denominator. -/
def scaled (num den : Nat) (e : Int) : Nat × Nat :=
  if 0 ≤ e then (num, den * twoTo e.toNat) else (num * twoTo (-e).toNat, den)

/-- The integer nearest to a quotient, a half going to the even neighbour. -/
def roundHalfEven (q : Nat × Nat) : Nat :=
  let floor := q.1 / q.2
  let rest := 2 * (q.1 % q.2)
  if rest < q.2 || (rest == q.2 && floor % 2 == 0) then floor else floor + 1

/-- The power of two at which a positive quotient has an integer part of 53 bits, or the least
power if that is greater. -/
def fitExponent (num den : Nat) : Int :=
  let e := max ((num.log2 : Int) - den.log2 - 53) minExponent
  let q := scaled num den e
  if twoTo 53 ≤ q.1 / q.2 then e + 1 else e

/-- The double nearest to a positive quotient, if it is finite. -/
def ofQuotient? (negative : Bool) (num den : Nat) : Option Binary64 :=
  let e := fitExponent num den
  let m := roundHalfEven (scaled num den e)
  let r : Binary64 := if m = twoTo 53 then ⟨negative, twoTo 52, e + 1⟩ else ⟨negative, m, e⟩
  if maxExponent < r.exponent then none else some r

/-- The distance from zero, as a numerator and a denominator. -/
def magnitude (x : Binary64) : Nat × Nat :=
  (x.mantissa * twoTo x.exponent.toNat, twoTo (-x.exponent).toNat)

/-- The double nearest to a product, if it is finite. -/
def mul? (x y : Binary64) : Option Binary64 :=
  let negative := x.negative != y.negative
  if x.mantissa = 0 || y.mantissa = 0 then some (zero negative)
  else ofQuotient? negative (x.magnitude.1 * y.magnitude.1) (x.magnitude.2 * y.magnitude.2)

/-- The double nearest to a quotient, if it is finite; the divisor is not zero. -/
def div? (x y : Binary64) : Option Binary64 :=
  let negative := x.negative != y.negative
  if x.mantissa = 0 then some (zero negative)
  else ofQuotient? negative (x.magnitude.1 * y.magnitude.2) (x.magnitude.2 * y.magnitude.1)

/-- The double nearest to `± n`, if it is finite. -/
def ofNat? (negative : Bool) (n : Nat) : Option Binary64 :=
  if n = 0 then some (zero negative) else ofQuotient? negative n 1

/-- The double nearest to `10 ^ k`, if it is finite. -/
def powerOfTen? (k : Nat) : Option Binary64 :=
  ofNat? false (tenTo k)

/-- The greatest power of ten that is finite. -/
def maxPowerOfTen : Nat := 308

/-- A double for `± digits * 10 ^ power`, if it is finite: the digits and the power of ten are rounded
first, and their product or quotient once more. A power below the range is divided out in two
steps, the greatest power of ten first. -/
def ofDecimal? (negative : Bool) (digits : Nat) (power : Int) : Option Binary64 := do
  let x ← ofNat? negative digits
  let top ← powerOfTen? maxPowerOfTen
  let k := power.natAbs
  if digits = 0 then return x
  else if 0 ≤ power then
    if k ≤ maxPowerOfTen then x.mul? (← powerOfTen? k) else none
  else if k ≤ maxPowerOfTen then x.div? (← powerOfTen? k)
  else if k ≤ 2 * maxPowerOfTen then
    (← x.div? top).div? (← powerOfTen? (k - maxPowerOfTen))
  else return zero negative

end Binary64
end GrammarAssay
