/-!
# Binary fractions

**Input.** A fraction is a number of digits with a power of two, one of two infinities, or no number at all.

**Algorithm.** Sums and products are exact. Quotients and roots get more digits than any format keeps, and
a last digit that tells whether anything is left, so that they are rounded as the exact result would be.
What is no number goes on through all operations. An operation also tells what it met with.

**Results.**
* `Fraction.add`, `Fraction.multiply`, `Fraction.divide`, `Fraction.root`: arithmetic.
* `Fraction.compare?`: the order of two fractions, if they have one.
* `Fraction.toInt`: the integer that a fraction is rounded to.
-/

namespace GrammarAssay

/-- How a result is rounded that has too many digits. -/
inductive Rounding where
  | nearest
  | down
  | up
  | towardsZero
deriving DecidableEq

def Rounding.ofCode : Nat → Rounding
  | 0 => nearest
  | 1 => down
  | 2 => up
  | _ => towardsZero

/-- A binary fraction. -/
inductive Fraction where
  /-- No number. Its payload has 62 bits. -/
  | nan (isNegative isQuiet : Bool) (payload : Nat)
  | infinite (isNegative : Bool)
  /-- The digits, multiplied by a power of two. -/
  | finite (isNegative : Bool) (digits : Nat) (exponent : Int)
deriving DecidableEq

namespace Fraction

/-- What an operation can meet with, as bits of a number. -/
abbrev Notes := Nat

/-- The operation has no result. -/
def invalid : Notes := 1

/-- An operand is smaller than the least number with all digits. -/
def small : Notes := 2

/-- A number was divided by zero. -/
def zeroDivision : Notes := 4

/-- The result is too large. -/
def tooLarge : Notes := 8

/-- The result is too small to have all digits, and was rounded. -/
def tooSmall : Notes := 16

/-- The result was rounded. -/
def rounded : Notes := 32

/-- What stands for no number where none was given. -/
def undefined : Fraction :=
  nan true true 0

/-- What stands for bits that write no fraction at all. -/
def malformed : Fraction :=
  nan true false 0

/-- The number of binary digits. -/
def length (n : Nat) : Nat :=
  if n = 0 then 0 else n.log2 + 1

def zero : Fraction :=
  finite false 0 0

/-- One. -/
def one : Fraction :=
  finite false 1 0

/-- The fraction of an integer. -/
def ofInt (n : Int) : Fraction :=
  finite (n < 0) n.natAbs 0

/-- Is the sign of the fraction set? -/
def isNegative : Fraction → Bool
  | nan s _ _ => s
  | infinite s => s
  | finite s _ _ => s

/-- The fraction with another sign. -/
def withSign (s : Bool) : Fraction → Fraction
  | nan _ q p => nan s q p
  | infinite _ => infinite s
  | finite _ d e => finite s d e

/-- The fraction with the opposite sign. -/
def negate (x : Fraction) : Fraction :=
  x.withSign !x.isNegative

/-- Is the fraction no number? -/
def isNan : Fraction → Bool
  | nan _ _ _ => true
  | _ => false

/-- Does an operation on the fraction have to be reported, for it is no number? -/
def isSignal : Fraction → Bool
  | nan _ q _ => !q
  | _ => false

/-- Is the fraction zero? -/
def isZero : Fraction → Bool
  | finite _ d _ => d == 0
  | _ => false

/-- The fraction, not to be reported again. -/
def quiet : Fraction → Fraction
  | nan s _ p => nan s true p
  | x => x

/-- What an operation on operands gives of which one is no number: the first such one. -/
def ofNans (x y : Fraction) : Fraction × Notes :=
  let notes := if x.isSignal || y.isSignal then invalid else 0
  (if x.isNan then x.quiet else y.quiet, notes)

/-- The digits of a fraction with a sign, at a power of two that is not above its own. -/
def scaled (s : Bool) (d : Nat) (e least : Int) : Int :=
  let n : Int := ((d <<< (e - least).toNat : Nat) : Int)
  if s then -n else n

/-- The sum of two fractions. The sign of a sum of opposite numbers depends on the rounding. -/
def add (r : Rounding) (x y : Fraction) : Fraction × Notes :=
  match x, y with
  | finite s d e, finite t c f =>
    if d = 0 ∧ c = 0 then (finite (if s == t then s else r == .down) 0 0, 0)
    else if d = 0 then (y, 0)
    else if c = 0 then (x, 0)
    else
      let least := min e f
      let n := scaled s d e least + scaled t c f least
      (if n = 0 then finite (r == .down) 0 0 else finite (n < 0) n.natAbs least, 0)
  | infinite s, infinite t => if s == t then (x, 0) else (undefined, invalid)
  | infinite _, finite _ _ _ => (x, 0)
  | finite _ _ _, infinite _ => (y, 0)
  | _, _ => ofNans x y

/-- The difference of two fractions. -/
def subtract (r : Rounding) (x y : Fraction) : Fraction × Notes :=
  if x.isNan || y.isNan then ofNans x y else add r x y.negate

/-- The product of two fractions. -/
def multiply (x y : Fraction) : Fraction × Notes :=
  match x, y with
  | finite s d e, finite t c f => (finite (s != t) (d * c) (e + f), 0)
  | infinite s, infinite t => (infinite (s != t), 0)
  | infinite s, finite t c _ => if c = 0 then (undefined, invalid) else (infinite (s != t), 0)
  | finite s d _, infinite t => if d = 0 then (undefined, invalid) else (infinite (s != t), 0)
  | _, _ => ofNans x y

/-- How many digits a result has at least that is rounded later. -/
def enough : Nat := 80

/-- The quotient of two numbers that are not zero, with a last digit that tells of a remainder. -/
def quotient (s : Bool) (d c : Nat) (e : Int) : Fraction :=
  let shift := enough + length c - length d
  let n := d <<< shift
  finite s (2 * (n / c) + (if n % c = 0 then 0 else 1)) (e - shift - 1)

/-- The quotient of two fractions. -/
def divide (x y : Fraction) : Fraction × Notes :=
  match x, y with
  | finite s d e, finite t c f =>
    if c = 0 then if d = 0 then (undefined, invalid) else (infinite (s != t), zeroDivision)
    else if d = 0 then (finite (s != t) 0 0, 0)
    else (quotient (s != t) d c (e - f), 0)
  | infinite _, infinite _ => (undefined, invalid)
  | infinite s, finite t _ _ => (infinite (s != t), 0)
  | finite s _ _, infinite t => (finite (s != t) 0 0, 0)
  | _, _ => ofNans x y

/-- The largest number whose square is not above a number, found bit by bit from the highest. -/
def rootFrom (n : Nat) : Nat → Nat → Nat
  | 0, r => r
  | bit + 1, r =>
    let tried := r + (1 <<< bit)
    rootFrom n bit (if tried * tried ≤ n then tried else r)

/-- The largest number whose square is not above a number. -/
def integerRoot (n : Nat) : Nat :=
  rootFrom n (length n / 2 + 1) 0

/-- The square root of a number that is not zero, with a last digit that tells whether it is exact. -/
def exactRoot (d : Nat) (e : Int) : Fraction :=
  let shift := 2 * enough + (e % 2).toNat
  let n := d <<< shift
  let r := integerRoot n
  finite false (2 * r + (if r * r = n then 0 else 1)) ((e - shift) / 2 - 1)

/-- The square root of a fraction. -/
def root (x : Fraction) : Fraction × Notes :=
  match x with
  | nan _ _ _ => ofNans x x
  | infinite s => if s then (undefined, invalid) else (x, 0)
  | finite s d e =>
    if d = 0 then (x, 0)
    else if s then (undefined, invalid)
    else (exactRoot d e, 0)

/-- The order of two fractions; what is no number has none. -/
def compare? (x y : Fraction) : Option Ordering :=
  match x, y with
  | nan _ _ _, _ => none
  | _, nan _ _ _ => none
  | infinite s, infinite t => some (compare t.toNat s.toNat)
  | infinite s, finite _ _ _ => some (if s then .lt else .gt)
  | finite _ _ _, infinite t => some (if t then .gt else .lt)
  | finite s d e, finite t c f =>
    let least := min e f
    some (compare (scaled s d e least) (scaled t c f least))

/-- Is a number rounded away from zero, of which a part of a power of two is left? -/
def roundsUp (r : Rounding) (s : Bool) (kept rest shift : Nat) : Bool :=
  match r with
  | .nearest =>
    let half := (1 <<< shift) / 2
    half < rest || (rest == half && rest != 0 && kept % 2 == 1)
  | .down => s && rest != 0
  | .up => !s && rest != 0
  | .towardsZero => false

/-- A number without its lowest digits, rounded, and whether they were all zero. -/
def dropDigits (r : Rounding) (s : Bool) (d shift : Nat) : Nat × Bool :=
  let kept := d >>> shift
  let rest := d - (kept <<< shift)
  (kept + (roundsUp r s kept rest shift).toNat, rest == 0)

/-- How many digits are looked at when all are dropped. -/
def farthest : Nat := 0x10000

/-- The integer that a fraction is rounded to, and whether it is the same number. What is not finite
has none. -/
def toInt (r : Rounding) : Fraction → Option (Int × Bool)
  | finite s d e =>
    let (n, isExact) :=
      if 0 ≤ e then (d <<< min e.toNat farthest, true) else dropDigits r s d (min (-e).toNat farthest)
    some (if s then -(n : Int) else n, isExact)
  | _ => none

/-- The fraction rounded to an integer, with its sign. -/
def integral (r : Rounding) (x : Fraction) : Fraction × Notes :=
  match x with
  | nan _ _ _ => ofNans x x
  | infinite _ => (x, 0)
  | finite s _ e =>
    if 0 ≤ e then (x, 0)
    else
      match toInt r x with
      | some (n, isExact) => (finite s n.natAbs 0, if isExact then 0 else rounded)
      | none => (x, 0)

/-- The product of two fractions and the sum with a third, rounded at the end only. -/
def multiplyAdd (r : Rounding) (x y z : Fraction) : Fraction × Notes :=
  if x.isNan || y.isNan || z.isNan then
    let (n, notes) := ofNans x y
    let (n, more) := ofNans n z
    (n, notes ||| more)
  else
    let (n, notes) := multiply x y
    if n.isNan then (n, notes) else add r n z

end Fraction
end GrammarAssay
