import GrammarAssay.Json
import GrammarAssay.Decimal.Binary64

/-!
# Reading JSON

**Input.** A text.

**Algorithm.** Recursive descent over the characters. Every reader takes what it needs from the
front and hands back the rest. The depth of the recursion is bounded by the length of the text, since
every nested call comes after a character that was taken.

**Results.**
* `parse?`: the value of a text that holds one JSON value and blanks around it.
-/

namespace GrammarAssay
namespace Json

/-- A blank of JSON. -/
def isSpace (c : Char) : Bool :=
  c == ' ' || c == '\t' || c == '\n' || c == '\r'

/-- The rest after any blanks. -/
def skipSpace (cs : List Char) : List Char :=
  cs.dropWhile isSpace

/-- The value of a hexadecimal digit. -/
def hexDigit? (c : Char) : Option Nat :=
  if '0' ≤ c && c ≤ '9' then some (c.toNat - '0'.toNat)
  else if 'a' ≤ c && c ≤ 'f' then some (c.toNat - 'a'.toNat + 10)
  else if 'A' ≤ c && c ≤ 'F' then some (c.toNat - 'A'.toNat + 10)
  else none

/-- The number of four hexadecimal digits. -/
def hexUnit? (a b c d : Char) : Option Nat := do
  let w ← hexDigit? a
  let x ← hexDigit? b
  let y ← hexDigit? c
  let z ← hexDigit? d
  return ((w * 16 + x) * 16 + y) * 16 + z

/-- A unit of the first half of a pair. -/
def isHighUnit (n : Nat) : Bool :=
  0xD800 ≤ n && n < 0xDC00

/-- A unit of the second half of a pair. -/
def isLowUnit (n : Nat) : Bool :=
  0xDC00 ≤ n && n < 0xE000

/-- The character of a letter after a backslash. -/
def unescape? (c : Char) : Option Char :=
  match c with
  | '"' => some '"'
  | '\\' => some '\\'
  | '/' => some '/'
  | 'b' => some '\x08'
  | 'f' => some '\x0c'
  | 'n' => some '\n'
  | 'r' => some '\r'
  | 't' => some '\t'
  | _ => none

/-- The characters of a string up to its closing quote. Control characters have to be escaped, and
the two halves of a pair have to stand together. -/
def stringBody : List Char → Option (List Char × List Char)
  | [] => none
  | '"' :: rest => some ([], rest)
  | '\\' :: 'u' :: a :: b :: c :: d :: rest =>
    match hexUnit? a b c d with
    | none => none
    | some n =>
      if isHighUnit n then
        match rest with
        | '\\' :: 'u' :: e :: f :: g :: h :: more =>
          match hexUnit? e f g h with
          | none => none
          | some m =>
            if isLowUnit m then
              (stringBody more).map fun r =>
                (Char.ofNat (0x10000 + (n - 0xD800) * 0x400 + (m - 0xDC00)) :: r.1, r.2)
            else none
        | _ => none
      else if isLowUnit n then none
      else (stringBody rest).map fun r => (Char.ofNat n :: r.1, r.2)
  | '\\' :: c :: rest =>
    match unescape? c with
    | none => none
    | some x => (stringBody rest).map fun r => (x :: r.1, r.2)
  | c :: rest =>
    if c.toNat < 0x20 || c = '\\' then none
    else (stringBody rest).map fun r => (c :: r.1, r.2)

/-- The digits at the front, and the rest. -/
def takeDigits (cs : List Char) : List Char × List Char :=
  (cs.takeWhile Char.isDigit, cs.dropWhile Char.isDigit)

/-- The number that digits write. -/
def digitsValue (ds : List Char) : Nat :=
  Nat.ofDigitChars 10 ds 0

/-- A decimal whose digits make a natural number of 64 bits: that number, and the power of ten that
it is to be multiplied by. -/
structure Significand where
  digits : Nat
  power : Int
deriving DecidableEq

/-- The leading digits of a natural number, as many as fit into 64 bits; the others only raise the
power of ten. -/
def Significand.ofNat (n : Nat) : Significand :=
  if h : n < twoTo 64 then ⟨n, 0⟩
  else
    let s := Significand.ofNat (n / 10)
    ⟨s.digits, s.power + 1⟩
termination_by n
decreasing_by
  have : 0 < twoTo 64 := Nat.pow_pos (by decide)
  omega

/-- A significand with the digits after the point, up to the first one that does not fit. -/
def Significand.append (s : Significand) : List Char → Significand
  | [] => s
  | d :: ds =>
    let n := s.digits * 10 + digitsValue [d]
    if n < twoTo 64 then append ⟨n, s.power - 1⟩ ds else s

/-- The double that a significand is read as, its power of ten raised by an exponent. -/
def Significand.real? (s : Significand) (negative : Bool) (exponent : Int) : Option Json :=
  (Binary64.ofDecimal? negative s.digits (s.power + exponent)).map .real

/-- A number without fraction and exponent: an integer where it fits into 64 bits, else a double.
Minus zero is a double, since no integer has its sign. -/
def wholeNumber (negative : Bool) (n : Nat) : Option Json :=
  if negative then
    if 0 < n && n ≤ twoTo 63 then some (.int (-(n : Int)))
    else (Significand.ofNat n).real? true 0
  else if n < twoTo 64 then some (.int n)
  else (Significand.ofNat n).real? false 0

/-- The digits after the point, if there is a point. -/
def fractionPart (cs : List Char) : Option (Option (List Char) × List Char) :=
  match cs with
  | '.' :: rest =>
    match takeDigits rest with
    | ([], _) => none
    | (ds, rest) => some (some ds, rest)
  | cs => some (none, cs)

/-- The digits of an exponent behind its sign. -/
def exponentDigits (negative : Bool) (cs : List Char) : Option (Option Int × List Char) :=
  match takeDigits cs with
  | ([], _) => none
  | (ds, rest) =>
    some (some (if negative then -(digitsValue ds : Int) else digitsValue ds), rest)

/-- The exponent, if there is one. -/
def exponentPart (cs : List Char) : Option (Option Int × List Char) :=
  match cs with
  | [] => some (none, [])
  | c :: rest =>
    if c = 'e' || c = 'E' then
      match rest with
      | '-' :: rest => exponentDigits true rest
      | '+' :: rest => exponentDigits false rest
      | rest => exponentDigits false rest
    else some (none, c :: rest)

/-- A number behind its sign. -/
def unsignedNumber (negative : Bool) (cs : List Char) : Option (Json × List Char) := do
  let (whole, rest) := takeDigits cs
  if whole.isEmpty || (whole.head? = some '0' && whole.length != 1) then none
  else
    let (fraction, rest) ← fractionPart rest
    let (exponent, rest) ← exponentPart rest
    match fraction, exponent with
    | none, none => (wholeNumber negative (digitsValue whole)).map fun v => (v, rest)
    | _, _ =>
      let s := (Significand.ofNat (digitsValue whole)).append (fraction.getD [])
      (s.real? negative (exponent.getD 0)).map fun v => (v, rest)

def number (cs : List Char) : Option (Json × List Char) :=
  match cs with
  | '-' :: rest => unsignedNumber true rest
  | cs => unsignedNumber false cs

mutual

/-- A value, blanks before it included. -/
def value : Nat → List Char → Option (Json × List Char)
  | 0, _ => none
  | fuel + 1, cs =>
    match skipSpace cs with
    | 'n' :: 'u' :: 'l' :: 'l' :: rest => some (.null, rest)
    | 't' :: 'r' :: 'u' :: 'e' :: rest => some (.bool true, rest)
    | 'f' :: 'a' :: 'l' :: 's' :: 'e' :: rest => some (.bool false, rest)
    | '"' :: rest => (stringBody rest).map fun r => (.str (String.ofList r.1), r.2)
    | '[' :: rest =>
      match skipSpace rest with
      | ']' :: rest => some (.arr [], rest)
      | rest =>
        match value fuel rest with
        | none => none
        | some (v, rest) => (moreItems fuel rest).map fun r => (.arr (v :: r.1), r.2)
    | '\x7b' :: rest =>
      match skipSpace rest with
      | '\x7d' :: rest => some (.obj [], rest)
      | rest =>
        match member fuel rest with
        | none => none
        | some (m, rest) => (moreMembers fuel rest).map fun r => (.obj (m :: r.1), r.2)
    | rest => number rest

/-- The items after the first one, up to the closing bracket. -/
def moreItems : Nat → List Char → Option (List Json × List Char)
  | 0, _ => none
  | fuel + 1, cs =>
    match skipSpace cs with
    | ']' :: rest => some ([], rest)
    | ',' :: rest =>
      match value fuel rest with
      | none => none
      | some (v, rest) => (moreItems fuel rest).map fun r => (v :: r.1, r.2)
    | _ => none

/-- A key and its value. -/
def member : Nat → List Char → Option ((String × Json) × List Char)
  | 0, _ => none
  | fuel + 1, cs =>
    match skipSpace cs with
    | '"' :: rest =>
      match stringBody rest with
      | none => none
      | some (k, rest) =>
        match skipSpace rest with
        | ':' :: rest => (value fuel rest).map fun r => ((String.ofList k, r.1), r.2)
        | _ => none
    | _ => none

/-- The members after the first one, up to the closing brace. -/
def moreMembers : Nat → List Char → Option (List (String × Json) × List Char)
  | 0, _ => none
  | fuel + 1, cs =>
    match skipSpace cs with
    | '\x7d' :: rest => some ([], rest)
    | ',' :: rest =>
      match member fuel rest with
      | none => none
      | some (m, rest) => (moreMembers fuel rest).map fun r => (m :: r.1, r.2)
    | _ => none

end

/-- The value of a text that holds one JSON value. -/
def parse? (s : String) : Option Json :=
  match value (s.length + 1) s.toList with
  | some (v, rest) => if (skipSpace rest).isEmpty then some v else none
  | none => none

end Json
end GrammarAssay
