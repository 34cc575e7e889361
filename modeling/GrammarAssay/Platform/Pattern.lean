import GrammarAssay.Platform.Template

/-!
# Patterns of texts

**Input.** A pattern is a row of characters, in which directives stand for values that are to be read from a
text. Behind the percent sign of a directive can stand the number of the value, a star if the value is not
wanted, the largest number of characters, and the size of the value; a letter or a set of characters tells
what is read.

**Algorithm.** A number is read as far as its digits go, and a fraction as far as its text could go on. Both
may have a sign in front. A set of characters is given between brackets, with ranges.

**Results.**
* `Pattern.takeDirective`: the directive behind a percent sign.
* `Pattern.takeInteger`, `Pattern.takeFraction`: how far a number goes.
-/

namespace GrammarAssay
namespace Pattern

open Template (Characters Size)

/-- Characters that are wanted, or not wanted. -/
structure CharacterSet where
  isWanted : Bool
  /-- The first and the last character of each range. -/
  ranges : List (Nat × Nat)
deriving DecidableEq

namespace CharacterSet

/-- Does a character belong to the set? -/
def contains (s : CharacterSet) (c : Nat) : Bool :=
  s.ranges.any (fun r => r.1 ≤ c && c ≤ r.2) == s.isWanted

/-- The ranges up to the closing bracket, and what follows. -/
def takeRanges : Nat → Characters → List (Nat × Nat) × Characters
  | 0, cs => ([], cs)
  | bound + 1, cs =>
    match cs with
    | 93 :: rest => ([], rest)
    | [] => ([], [])
    | a :: 45 :: b :: rest =>
      if b = 93 then
        let (ranges, rest) := takeRanges bound (45 :: b :: rest)
        ((a, a) :: ranges, rest)
      else
        let (ranges, rest) := takeRanges bound rest
        ((a, b) :: ranges, rest)
    | a :: rest =>
      let (ranges, rest) := takeRanges bound rest
      ((a, a) :: ranges, rest)

/-- The set behind an opening bracket, and what follows. A closing bracket at the front belongs to it. -/
def take (cs : Characters) : CharacterSet × Characters :=
  let isWanted := cs.head? != some 94
  let cs := if isWanted then cs else cs.drop 1
  let (first, cs) := if cs.head? = some 93 then ([(93, 93)], cs.drop 1) else ([], cs)
  let (ranges, rest) := takeRanges cs.length cs
  (⟨isWanted, first ++ ranges⟩, rest)

end CharacterSet

/-- A directive. -/
structure Directive where
  /-- The number of the value, from zero on, if it is told. -/
  position : Option Nat
  /-- Is what is read not kept? -/
  isDropped : Bool
  /-- Is what is read put into a new stretch of memory? -/
  isFresh : Bool
  width : Option Nat
  size : Size
  letter : Char
  set : CharacterSet
deriving DecidableEq

/-- The signs of a directive at the front: is its value dropped, is it put into new memory, and what
follows. -/
def takeSigns : Nat → Characters → Bool × Bool × Characters
  | 0, cs => (false, false, cs)
  | bound + 1, cs =>
    match cs with
    | [] => (false, false, [])
    | c :: rest =>
      let (isDropped, isFresh, after) := takeSigns bound rest
      if c = 42 then (true, isFresh, after)
      else if c = 109 then (isDropped, true, after)
      else if c = 39 ∨ c = 73 then (isDropped, isFresh, after)
      else (false, false, cs)

/-- The directive behind a percent sign, and what follows. -/
def takeDirective (cs : Characters) : Directive × Characters :=
  let (position, cs) := Template.takePosition cs
  let (isDropped, _, cs) := takeSigns cs.length cs
  let (width, cs) := Template.takeNumber cs
  let (_, isFresh, cs) := takeSigns cs.length cs
  let (size, cs) := Template.takeSize cs
  let letter := Char.ofNat (cs.headD 0)
  let (set, rest) := if letter = '[' then CharacterSet.take cs.tail else (⟨false, []⟩, cs.tail)
  (⟨position, isDropped, isFresh, width.filter (· ≠ 0), size, letter, set⟩, rest)

/-- Is a character blank? -/
def isBlank (c : Nat) : Bool :=
  c == 32 || (9 ≤ c && c < 14)

/-- Is a character a digit of a base? -/
def isDigit (base c : Nat) : Bool :=
  c < 256 && (Fraction.digit? base (UInt8.ofNat c)).isSome

/-- A letter in lower case. -/
def lower (c : Nat) : Nat :=
  if 65 ≤ c ∧ c < 91 then c + 32 else c

/-- A sign at the front, or nothing. -/
def signOf (cs : Characters) : Characters :=
  cs.take (if cs.head? = some 45 ∨ cs.head? = some 43 then 1 else 0)

/-- The digits of a number with its sign, their base, and how many characters were read. -/
def takeInteger (base : Nat) (cs : Characters) : Characters × Nat × Nat :=
  let sign := signOf cs
  let rest := cs.drop sign.length
  let zero := rest.take (if rest.head? = some 48 then 1 else 0)
  let rest := rest.drop zero.length
  let isMarked := !zero.isEmpty && lower (rest.headD 0) == 120 && (base == 0 || base == 16)
  let base :=
    if base ≠ 0 then base else if isMarked then 16 else if zero.isEmpty then 10 else 8
  let rest := rest.drop isMarked.toNat
  let digits := rest.takeWhile (isDigit base)
  (sign ++ zero ++ digits, base, sign.length + zero.length + isMarked.toNat + digits.length)

/-- Does a text begin with a word, in any case? -/
def startsWith (word : String) (cs : Characters) : Bool :=
  (Template.ofChars word.toList).isPrefixOf (cs.map lower)

/-- What was read of a fraction so far. -/
structure Progress where
  isHex : Bool
  hasDigit : Bool
  hasPoint : Bool
  hasExponent : Bool
  /-- Was the letter of the exponent the last character? -/
  isAfterLetter : Bool
deriving DecidableEq

/-- What was read with one more character, if it belongs to the fraction. -/
def Progress.next? (p : Progress) (c : Nat) : Option Progress :=
  let p' := { p with isAfterLetter := false }
  if isDigit 10 c || (p.isHex && !p.hasExponent && isDigit 16 c) then some { p' with hasDigit := true }
  else if p.isAfterLetter && (c == 45 || c == 43) then some p'
  else if p.hasDigit && !p.hasExponent && lower c == (if p.isHex then 112 else 101) then
    some { p' with hasExponent := true, hasPoint := true, isAfterLetter := true }
  else if c == 46 && !p.hasPoint then some { p' with hasPoint := true }
  else none

/-- How many characters belong to a fraction. -/
def countFraction (p : Progress) : Characters → Nat
  | [] => 0
  | c :: rest =>
    match p.next? c with
    | some p => countFraction p rest + 1
    | none => 0

/-- How many characters of an infinity there are, if they are not cut off. -/
def countInfinity (cs : Characters) : Option Nat :=
  if !startsWith "inf" cs then none
  else if lower ((cs.drop 3).headD 0) ≠ 105 then some 3
  else if startsWith "infinity" cs then some 8
  else none

/-- How many characters belong to a fraction that has its sign in front, if there are any. -/
def takeFraction (cs : Characters) : Option Nat :=
  let sign := (signOf cs).length
  let rest := cs.drop sign
  let c := lower (rest.headD 0)
  let count :=
    if c = 110 then if startsWith "nan" rest then some 3 else none
    else if c = 105 then countInfinity rest
    else if startsWith "0x" rest then
      let n := countFraction ⟨true, false, false, false, false⟩ (rest.drop 2)
      if n = 0 then none else some (n + 2)
    else
      let n := countFraction ⟨false, false, false, false, false⟩ rest
      if n = 0 then none else some n
  count.map (· + sign)

end Pattern
end GrammarAssay
