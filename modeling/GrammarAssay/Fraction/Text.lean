import GrammarAssay.Decimal.Binary64
import GrammarAssay.Fraction.Format
import GrammarAssay.Text.Utf8

/-!
# Texts of fractions

**Input.** A finite fraction is the product of its digits and a power of two.

**Algorithm.** The fraction is multiplied by a power of ten and rounded to the nearest integer, a half going
to the even neighbour. The digits of that integer get a point, and an exponent where one is wanted. To the
base sixteen, the bits of a format are written as they are. A text is read the other way round: its digits
are divided exactly enough to be rounded later as the number that it writes.

**Results.**
* `Fraction.fixedText`: a text with a number of places behind the point.
* `Fraction.scientificText`: a text with one digit before the point, and an exponent.
* `Fraction.generalText`: the shorter one of both, for a number of digits.
* `Format.hexText`: the bits of a fraction to the base sixteen, with an exponent of two.
* `Fraction.read?`: the fraction that a text begins with.
-/

namespace GrammarAssay
namespace Fraction

/-- The product of digits, a power of two and a power of ten, as a numerator and a denominator. -/
def shifted (d : Nat) (e k : Int) : Nat × Nat :=
  ((d <<< e.toNat) * tenTo k.toNat, (1 <<< (-e).toNat) * tenTo (-k).toNat)

/-- Is a fraction not below a power of ten? -/
def reaches (d : Nat) (e k : Int) : Bool :=
  let q := shifted d e (-k)
  q.2 ≤ q.1

/-- The power of ten of the first digit. -/
def firstPower (d : Nat) (e : Int) : Int :=
  if d = 0 then 0
  else
    let k := ((length d : Int) - 1 + e) * 30103 / 100000
    if !reaches d e k then k - 1 else if reaches d e (k + 1) then k + 1 else k

/-- The first digits of a fraction, as many as are wanted, and the power of ten of the first one. -/
def significant (d : Nat) (e : Int) (count : Nat) : Nat × Int :=
  let k := firstPower d e
  let m := Binary64.roundHalfEven (shifted d e (count - 1 - k))
  if m = tenTo count then (m / 10, k + 1) else (m, k)

/-- Characters with others in front, up to a length. -/
def padded (length : Nat) (c : Char) (cs : List Char) : List Char :=
  List.replicate (length - cs.length) c ++ cs

/-- Digits with a point behind some of them. No point stands at the end, if it is not wanted there. -/
def pointed (cs : List Char) (whole : Nat) (keepsPoint : Bool) : List Char :=
  let rest := cs.drop whole
  cs.take whole ++ if rest.isEmpty && !keepsPoint then [] else '.' :: rest

/-- An exponent behind its letter, with at least so many digits. -/
def exponentText (letter : Char) (k : Int) (length : Nat) : List Char :=
  letter :: (if k < 0 then '-' else '+') :: padded length '0' (Nat.toDigits 10 k.natAbs)

/-- A text with a number of places behind the point. -/
def fixedText (d : Nat) (e : Int) (places : Nat) (keepsPoint : Bool) : List Char :=
  let cs := padded (places + 1) '0' (Nat.toDigits 10 (Binary64.roundHalfEven (shifted d e places)))
  pointed cs (cs.length - places) keepsPoint

/-- A text with one digit before the point, and an exponent. -/
def scientificText (d : Nat) (e : Int) (places : Nat) (keepsPoint : Bool) : List Char :=
  let (m, k) := significant d e (places + 1)
  pointed (padded (places + 1) '0' (Nat.toDigits 10 m)) 1 keepsPoint ++ exponentText 'e' k 2

/-- A text without the zeros at its end, and without the point before them. -/
def withoutZeros (cs : List Char) : List Char :=
  let front := cs.takeWhile (· != 'e')
  let tail := cs.dropWhile (· != 'e')
  if front.contains '.' then
    let kept := (front.reverse.dropWhile (· == '0')).reverse
    (if kept.getLast? = some '.' then kept.dropLast else kept) ++ tail
  else cs

/-- The shorter text of a fraction with so many digits. Zeros at the end are left out, if they are not
wanted. -/
def generalText (d : Nat) (e : Int) (count : Nat) (keepsZeros : Bool) : List Char :=
  let count := max 1 count
  let k := (significant d e count).2
  let cs :=
    if -4 ≤ k ∧ k < count then fixedText d e ((count : Int) - 1 - k).toNat keepsZeros
    else scientificText d e (count - 1) keepsZeros
  if keepsZeros then cs else withoutZeros cs

end Fraction

namespace Format

/-- How many digits to the base sixteen stand behind the first one. -/
def hexPlaces (f : Format) : Nat :=
  if f.hasLead then f.tailBits / 4 - 1 else f.tailBits / 4

/-- The digits of a fraction to the base sixteen, and the power of two of the last bit of the first one. -/
def hexParts (f : Format) (n : Nat) : Nat × Int :=
  let tail := n % (1 <<< f.tailBits)
  let e := (n >>> f.tailBits) % (1 <<< f.exponentBits)
  let power := (max 1 (e : Int)) - f.bias - (if f.hasLead then 3 else 0)
  if tail = 0 ∧ e = 0 then (0, 0)
  else (if f.hasLead ∨ e = 0 then tail else tail + (1 <<< f.tailBits), power)

/-- Digits to the base sixteen, rounded to so many behind the first one. -/
def roundHex (f : Format) (parts : Nat × Int) (places : Nat) : Nat × Int :=
  let shift := 4 * (f.hexPlaces - places)
  let m := Binary64.roundHalfEven (parts.1, 1 <<< shift)
  if m >>> (4 * places) = 16 then (m / 16, parts.2 + 4) else (m, parts.2)

/-- The bits of a fraction to the base sixteen, with an exponent of two. Where no number of places is given,
the zeros at the end are left out. -/
def hexText (f : Format) (n : Nat) (places : Option Nat) (keepsPoint : Bool) : List Char :=
  let (m, power) :=
    match places with
    | some p => f.roundHex (f.hexParts n) (min p f.hexPlaces)
    | none => f.hexParts n
  let kept := min (places.getD f.hexPlaces) f.hexPlaces
  let cs := Fraction.padded (kept + 1) '0' (Nat.toDigits 16 m)
  let cs :=
    match places with
    | some p => cs ++ List.replicate (p - kept) '0'
    | none => cs.take 1 ++ ((cs.drop 1).reverse.dropWhile (· == '0')).reverse
  '0' :: 'x' :: Fraction.pointed cs 1 keepsPoint ++ Fraction.exponentText 'p' power 1

end Format

namespace Fraction

/-- The value of a digit. -/
def digit? (base : Nat) (b : UInt8) : Option Nat :=
  let n := b.toNat
  let v :=
    if 48 ≤ n ∧ n < 58 then n - 48
    else if 97 ≤ n ∧ n < 103 then n - 87
    else if 65 ≤ n ∧ n < 71 then n - 55
    else base
  if v < base then some v else none

/-- The number that digits write, and how many they are. -/
def readDigits (base : Nat) (bs : Bytes) : Nat × Nat :=
  let ds := (bs.takeWhile fun b => (digit? base b).isSome).filterMap (digit? base)
  (ds.foldl (fun n d => n * base + d) 0, ds.length)

/-- Digits with a point: their number, how many of them stand behind the point, and how long they are. -/
def readPointed (base : Nat) (bs : Bytes) : Option (Nat × Nat × Nat) :=
  let (m, whole) := readDigits base bs
  let (n, part) :=
    match bs.drop whole with
    | 46 :: rest => readDigits base rest
    | _ => (0, 0)
  let hasPoint := (bs.drop whole).head? == some 46
  if whole + part = 0 then none
  else some (m * Nat.pow base part + n, part, whole + part + hasPoint.toNat)

/-- How large an exponent is that is read. -/
def largestExponent : Nat := 100000

/-- An exponent behind its letter, and how long it is. -/
def readExponent (letter : UInt8) (bs : Bytes) : Int × Nat :=
  match bs with
  | [] => (0, 0)
  | b :: rest =>
    if b ||| 32 ≠ letter then (0, 0)
    else
      let isNegative := rest.head? = some 45
      let sign := if isNegative ∨ rest.head? = some 43 then 1 else 0
      let (n, length) := readDigits 10 (rest.drop sign)
      if length = 0 then (0, 0)
      else
        let n := min n largestExponent
        (if isNegative then -(n : Int) else n, 1 + sign + length)

/-- The product of a number and a power of ten, which is rounded later. -/
def ofDecimal (s : Bool) (n : Nat) (k : Int) : Fraction :=
  if n = 0 then finite s 0 0
  else
    let length := ((Nat.toDigits 10 n).length : Int)
    if 6000 < length + k then finite s 1 0x10000
    else if length + k < -6000 then finite s 1 (-0x10000)
    else if 0 ≤ k then finite s (n * tenTo k.toNat) 0
    else quotient s n (tenTo (-k).toNat) 0

/-- The fraction that digits to the base sixteen write, and how long they are. -/
def readHex (s : Bool) (bs : Bytes) : Option (Fraction × Nat) := do
  let (n, part, length) ← readPointed 16 bs
  let (e, more) := readExponent 112 (bs.drop length)
  return (finite s n (e - 4 * part), length + more)

/-- The fraction that decimal digits write, and how long they are. -/
def readDecimal (s : Bool) (bs : Bytes) : Option (Fraction × Nat) := do
  let (n, part, length) ← readPointed 10 bs
  let (k, more) := readExponent 101 (bs.drop length)
  return (ofDecimal s n (k - part), length + more)

/-- Does a text begin with a word, in any case? -/
def startsWith (word : List Char) (bs : Bytes) : Bool :=
  (bs.take word.length).map (fun b => if 65 ≤ b && b < 91 then b + 32 else b) ==
    word.map fun c => UInt8.ofNat c.toNat

/-- How long the brackets are that can stand behind what is no number. -/
def bracketLength (bs : Bytes) : Nat :=
  match bs with
  | 40 :: rest =>
    let isInner (b : UInt8) : Bool :=
      (48 ≤ b && b < 58) || (65 ≤ b && b < 91) || (97 ≤ b && b < 123) || b == 95
    let inner := rest.takeWhile isInner
    if (rest.drop inner.length).head? = some 41 then inner.length + 2 else 0
  | _ => 0

/-- The fraction that a text begins with, without blanks and a sign, and how long it is. -/
def readUnsigned (s : Bool) (bs : Bytes) : Option (Fraction × Nat) :=
  if startsWith "infinity".toList bs then some (infinite s, 8)
  else if startsWith "inf".toList bs then some (infinite s, 3)
  else if startsWith "nan".toList bs then some (nan s true 0, 3 + bracketLength (bs.drop 3))
  else
    match bs with
    | 48 :: x :: rest =>
      if x ||| 32 = 120 then ((readHex s rest).map fun r => (r.1, r.2 + 2)).orElse fun _ => readDecimal s bs
      else readDecimal s bs
    | _ => readDecimal s bs

/-- The fraction that a text begins with, which may have blanks and a sign in front, and how long it is. -/
def read? (bs : Bytes) : Option (Fraction × Nat) :=
  let rest := bs.dropWhile fun b => b == 32 || (9 ≤ b && b < 14)
  let isNegative := rest.head? = some 45
  let sign := if isNegative ∨ rest.head? = some 43 then 1 else 0
  (readUnsigned isNegative (rest.drop sign)).map fun r => (r.1, bs.length - rest.length + sign + r.2)

end Fraction
end GrammarAssay
