import GrammarAssay.Decimal.Binary64

/-!
# Shortest decimals

**Input.** A finite double.

**Algorithm.** The reals that round to a double form an interval, whose ends belong to it when the
mantissa is even. For one digit, two digits and so on, the two multiples of the matching power of
ten next to the double are tried: the first grid with a hit wins, and of two hits the nearer one,
on a tie the even one. Seventeen digits always suffice.

**Results.**
* `shortest`: the fewest digits that read back, and their power of ten.
* `text`: the written form, positional from `1e-5` to below `1e16` and with an exponent elsewhere,
  always with a fraction or an exponent.
-/

namespace GrammarAssay
namespace Binary64

/-- A decimal `digits * 10 ^ power`. -/
structure Decimal where
  digits : Nat
  power : Int
deriving DecidableEq

/-- Compares `a * 2 ^ p` with `d * 10 ^ k`: is the first one below or equal? -/
def binaryLe (a : Nat) (p : Int) (d : Decimal) : Bool :=
  a * twoTo p.toNat * tenTo (-d.power).toNat ≤
    d.digits * tenTo d.power.toNat * twoTo (-p).toNat

/-- Is `d * 10 ^ k` below or equal to `a * 2 ^ p`? -/
def decimalLe (d : Decimal) (a : Nat) (p : Int) : Bool :=
  d.digits * tenTo d.power.toNat * twoTo (-p).toNat ≤
    a * twoTo p.toNat * tenTo (-d.power).toNat

/-- Does a decimal round to the positive double `x`? The ends of the interval are half way to the
neighbouring doubles; below a power of two the lower neighbour is half as far. -/
def readsBack (x : Binary64) (d : Decimal) : Bool :=
  let p := x.exponent - 2
  let low := if x.mantissa = twoTo 52 && minExponent < x.exponent then 4 * x.mantissa - 1
    else 4 * x.mantissa - 2
  let high := 4 * x.mantissa + 2
  if x.mantissa % 2 = 0 then binaryLe low p d && decimalLe d high p
  else !decimalLe d low p && !binaryLe high p d

/-- The quotient of the double by `10 ^ k`, as a numerator and a denominator. -/
def quotient (x : Binary64) (k : Int) : Nat × Nat :=
  (x.mantissa * twoTo x.exponent.toNat * tenTo (-k).toNat,
   twoTo (-x.exponent).toNat * tenTo k.toNat)

/-- The power of ten of the leading digit of a positive double, found by walking down from the
greatest one. -/
def leadingPower (x : Binary64) : Nat → Int
  | 0 => -324
  | fuel + 1 =>
    let k : Int := (fuel : Int) - 324
    let q := quotient x k
    if q.2 ≤ q.1 then k else leadingPower x fuel

/-- The better of the two multiples of `10 ^ k` next to the double that read back. -/
def onGrid (x : Binary64) (k : Int) : Option Decimal :=
  let q := quotient x k
  let floor := q.1 / q.2
  let rest := 2 * (q.1 % q.2)
  let below : Decimal := ⟨floor, k⟩
  let above : Decimal := ⟨floor + 1, k⟩
  let belowFits := 0 < floor && readsBack x below
  let aboveFits := readsBack x above
  if belowFits && (!aboveFits || rest < q.2 || (rest == q.2 && floor % 2 == 0)) then some below
  else if aboveFits then some above
  else none

/-- The fewest digits that read back as the positive double. -/
def shortest (x : Binary64) : Decimal :=
  let top := leadingPower x 634
  match (List.range 17).findSome? fun (n : Nat) => onGrid x (top - n) with
  | some d => d
  | none => ⟨0, 0⟩

/-- The digits without the zeros at their end, and how many there were. -/
def dropZeros (ds : List Char) : List Char :=
  (ds.reverse.dropWhile (· == '0')).reverse

/-- The digits `ds`, the first of them worth `10 ^ lead`, in positional notation. -/
def positional (ds : List Char) (lead : Int) : List Char :=
  if lead < 0 then '0' :: '.' :: List.replicate (-lead - 1).toNat '0' ++ ds
  else
    let whole := lead.toNat + 1
    let padded := ds ++ List.replicate (whole - ds.length) '0'
    let fraction := padded.drop whole
    padded.take whole ++ '.' :: (if fraction.isEmpty then ['0'] else fraction)

/-- The digits `ds`, the first of them worth `10 ^ lead`, with an exponent. -/
def scientific (ds : List Char) (lead : Int) : List Char :=
  let mantissa := match ds with
    | [] => []
    | [d] => [d]
    | d :: rest => d :: '.' :: rest
  mantissa ++ 'e' :: (if lead < 0 then '-' else '+') :: Nat.toDigits 10 lead.natAbs

/-- The written form of a double. -/
def text (x : Binary64) : List Char :=
  let sign := if x.negative then ['-'] else []
  if x.mantissa = 0 then sign ++ ['0', '.', '0']
  else
    let d := shortest x
    let ds := Nat.toDigits 10 d.digits
    let lead := d.power + ds.length - 1
    sign ++ (if -5 ≤ lead && lead < 16 then positional (dropZeros ds) lead
      else scientific (dropZeros ds) lead)

end Binary64
end GrammarAssay
