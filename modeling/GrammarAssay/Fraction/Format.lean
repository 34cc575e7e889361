import GrammarAssay.Fraction

/-!
# Formats of binary fractions

**Input.** A format has a number of digits and a number of bits for the exponent. The first digit is one
and left out, but for the widest format.

**Algorithm.** The exponent is written with a constant added. Its largest number stands for what is not
finite, and zero for numbers that are too small to have all digits.

**Results.**
* `Format.decode`: the fraction that bits stand for.
* `Format.round`: a fraction with as many digits as a format has.
* `Format.encode`: the bits of a fraction.
* `Format.finish`: the bits of a result that is to be rounded.
-/

namespace GrammarAssay

/-- A format of fractions. -/
structure Format where
  /-- How many digits a fraction has. -/
  precision : Nat
  exponentBits : Nat
  /-- Is the first digit written down? -/
  hasLead : Bool
deriving DecidableEq

namespace Format

/-- The format of 16 bits. -/
def half : Format := ⟨11, 5, false⟩

/-- The format of 32 bits. -/
def single : Format := ⟨24, 8, false⟩

/-- The format of 64 bits. -/
def double : Format := ⟨53, 11, false⟩

/-- The format of 80 bits. -/
def extended : Format := ⟨64, 15, true⟩

/-- What is added to exponents. -/
def bias (f : Format) : Int :=
  ((1 <<< (f.exponentBits - 1) : Nat) : Int) - 1

/-- The least exponent of a number with all digits. -/
def least (f : Format) : Int :=
  1 - f.bias

/-- The largest number that an exponent can be written as. -/
def full (f : Format) : Nat :=
  (1 <<< f.exponentBits) - 1

/-- How many bits stand behind the exponent. -/
def tailBits (f : Format) : Nat :=
  if f.hasLead then f.precision else f.precision - 1

/-- How many digits stand behind the first one. -/
def places (f : Format) : Nat :=
  f.precision - 1

/-- The digits of a payload that a format has no room for. -/
def payloadShift (f : Format) : Nat :=
  63 - f.places

/-- What a largest exponent stands for, with the digits behind the first one. -/
def special (f : Format) (s : Bool) (tail : Nat) : Fraction :=
  if tail = 0 then .infinite s
  else .nan s (tail.testBit (f.places - 1)) ((tail % (1 <<< (f.places - 1))) <<< f.payloadShift)

/-- The fraction that bits stand for. -/
def decode (f : Format) (n : Nat) : Fraction :=
  let tail := n % (1 <<< f.tailBits)
  let e := (n >>> f.tailBits) % (1 <<< f.exponentBits)
  let s := n.testBit (f.tailBits + f.exponentBits)
  let behind := tail % (1 <<< f.places)
  if e = 0 then .finite s tail (f.least - f.places)
  else if f.hasLead ∧ tail < 1 <<< f.places then .malformed
  else if e = f.full then f.special s behind
  else .finite s (behind + (1 <<< f.places)) ((e : Int) - f.bias - f.places)

/-- Do bits stand for a number that is too small to have all digits? -/
def isSmall (f : Format) (n : Nat) : Bool :=
  (n >>> f.tailBits) % (1 <<< f.exponentBits) == 0 && n % (1 <<< f.tailBits) != 0

/-- The bits of a sign, an exponent and what stands behind it. -/
def join (f : Format) (s : Bool) (e tail : Nat) : Nat :=
  ((s.toNat <<< f.exponentBits) + e) <<< f.tailBits ||| tail

/-- The first digit, if it is written down. -/
def lead (f : Format) : Nat :=
  if f.hasLead then 1 <<< f.places else 0

/-- The bits of a fraction that has no more digits than the format. -/
def encode (f : Format) : Fraction → Nat
  | .nan s isQuiet payload =>
    f.join s f.full
      (f.lead ||| (isQuiet.toNat <<< (f.places - 1)) ||| (payload >>> f.payloadShift))
  | .infinite s => f.join s f.full f.lead
  | .finite s d e =>
    if d = 0 then f.join s 0 0
    else
      let shift := Fraction.length d - f.precision
      let d := d >>> shift
      let e := e + shift
      let top := e + Fraction.length d - 1
      if top < f.least then
        f.join s 0 (d <<< (e - (f.least - f.places)).toNat)
      else
        let digits := d <<< (f.precision - Fraction.length d)
        f.join s (top + f.bias).toNat (digits % (1 <<< f.tailBits))

/-- The largest finite fraction. -/
def largest (f : Format) (s : Bool) : Fraction :=
  .finite s ((1 <<< f.precision) - 1) (f.bias - f.places)

/-- A finite fraction with its digits cut off below a power of two, and whether nothing was cut off. -/
def cut (r : Rounding) (s : Bool) (d : Nat) (e last : Int) : Nat × Int × Bool :=
  if last ≤ e then (d, e, true)
  else
    let (kept, isExact) := Fraction.dropDigits r s d (last - e).toNat
    (kept, last, isExact)

/-- What is too large for the format. -/
def overflow (f : Format) (r : Rounding) (s : Bool) : Fraction :=
  match r with
  | .nearest => .infinite s
  | .down => if s then .infinite s else f.largest s
  | .up => if s then f.largest s else .infinite s
  | .towardsZero => f.largest s

/-- A finite fraction with as many digits as the format has. -/
def roundFinite (f : Format) (r : Rounding) (s : Bool) (d : Nat) (e : Int) :
    Fraction × Fraction.Notes :=
  let top := e + Fraction.length d - 1
  let (m, q, isExact) := cut r s d e (max top f.least - f.places)
  let newTop := q + Fraction.length m - 1
  if f.bias < newTop ∧ m ≠ 0 then (f.overflow r s, Fraction.tooLarge ||| Fraction.rounded)
  else if isExact then (.finite s m q, 0)
  else
    let (free, p, _) := cut r s d e (top - f.places)
    let isTiny := p + Fraction.length free - 1 < f.least
    (.finite s m q, if isTiny then Fraction.tooSmall ||| Fraction.rounded else Fraction.rounded)

/-- A fraction with as many digits as the format has. -/
def round (f : Format) (r : Rounding) : Fraction → Fraction × Fraction.Notes
  | .finite s d e => if d = 0 then (.finite s 0 0, 0) else f.roundFinite r s d e
  | x => if x.isSignal then (x.quiet, Fraction.invalid) else (x, 0)

/-- The bits of a result that is to be rounded, and what the operation met with. -/
def finish (f : Format) (r : Rounding) (x : Fraction × Fraction.Notes) : Nat × Fraction.Notes :=
  let (y, notes) := f.round r x.1
  (f.encode y, x.2 ||| notes)

end Format
end GrammarAssay
