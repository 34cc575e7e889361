import GrammarAssay.Fraction.Text

/-!
# Templates of texts

**Input.** A template is a row of characters, in which directives stand for values. A directive begins with
a percent sign. Behind it can stand the number of the value, signs that change the form of the text, a width,
a number of places, and the size of the value; a letter tells the kind.

**Algorithm.** The widths, the places and the values are numbered as they come, but where a directive tells a
number. Numbers are written to a base, with at least so many digits as there are to be places; fractions are
written as their texts. In front or behind, a text is filled up to its width.

**Results.**
* `Template.pieces`: the directives of a template, and the characters between them.
* `Template.demands`: the kinds of the values that a template needs, in their order.
* `Template.numberText`, `Template.fractionText`: the texts of values.
-/

namespace GrammarAssay
namespace Template

/-- A row of characters, as numbers. -/
abbrev Characters := List Nat

/-- The characters of a text. -/
def ofChars (cs : List Char) : Characters :=
  cs.map Char.toNat

/-- The signs that change the form of a text. -/
structure Style where
  /-- Are blanks put behind the text? -/
  isLeft : Bool
  /-- Has a number without a sign a plus? -/
  hasPlus : Bool
  /-- Has a number without a sign a blank? -/
  hasBlank : Bool
  /-- Is the base of a number told, and the point of a fraction kept? -/
  isMarked : Bool
  /-- Are zeros put before a number? -/
  isZeroed : Bool
  /-- Are the digits of a number to be grouped? -/
  isGrouped : Bool
  /-- Are other digits to be used? -/
  isForeign : Bool
deriving DecidableEq

/-- A number that a directive tells, or takes from the values. -/
inductive Amount where
  | absent
  | given (n : Nat)
  | taken (position : Option Nat)
deriving DecidableEq

/-- How large a value is. -/
inductive Size where
  | byte
  | short
  | plain
  | long
  /-- A fraction of 80 bits, or a number of 64 bits. -/
  | widest
deriving DecidableEq

/-- A directive. -/
structure Directive where
  /-- The number of the value, from zero on, if it is told. -/
  position : Option Nat
  style : Style
  width : Amount
  places : Amount
  size : Size
  /-- The letter of the kind, or zero where the template ends. -/
  letter : Char
deriving DecidableEq

/-- A part of a template. -/
inductive Piece where
  | text (cs : Characters)
  | directive (d : Directive)
deriving DecidableEq

/-- The sign of a directive. -/
def percent : Nat := 37

/-- The largest width and number of places that is not refused. -/
def largestAmount : Nat := 0x7FFFFFDF

/-- The style with one more sign. -/
def Style.add? (s : Style) (c : Nat) : Option Style :=
  if c = 45 then some { s with isLeft := true, isZeroed := false }
  else if c = 43 then some { s with hasPlus := true }
  else if c = 32 then some { s with hasBlank := true }
  else if c = 35 then some { s with isMarked := true }
  else if c = 48 then some { s with isZeroed := !s.isLeft }
  else if c = 39 then some { s with isGrouped := true }
  else if c = 73 then some { s with isForeign := true }
  else none

/-- No sign. -/
def Style.plain : Style :=
  ⟨false, false, false, false, false, false, false⟩

/-- The signs at the front, and what follows. -/
def takeStyle (s : Style) : Characters → Style × Characters
  | [] => (s, [])
  | c :: rest =>
    match s.add? c with
    | some s => takeStyle s rest
    | none => (s, c :: rest)

/-- Is a character a digit? -/
def isDigit (c : Nat) : Bool :=
  48 ≤ c && c < 58

/-- The number at the front, if there is one, and what follows. -/
def takeNumber (cs : Characters) : Option Nat × Characters :=
  let ds := cs.takeWhile isDigit
  (if ds.isEmpty then none else some (ds.foldl (fun n d => n * 10 + (d - 48)) 0), cs.dropWhile isDigit)

/-- The number of a value at the front, and what follows. It counts from one on. -/
def takePosition (cs : Characters) : Option Nat × Characters :=
  match takeNumber cs with
  | (some n, 36 :: rest) => if n = 0 then (none, cs) else (some (n - 1), rest)
  | _ => (none, cs)

/-- A width at the front, and what follows. -/
def takeAmount (cs : Characters) : Amount × Characters :=
  match cs with
  | 42 :: rest =>
    let (position, rest) := takePosition rest
    (.taken position, rest)
  | _ =>
    let (n, rest) := takeNumber cs
    (n.elim .absent .given, rest)

/-- A number of places at the front, and what follows. A point alone tells none. -/
def takePlaces (cs : Characters) : Amount × Characters :=
  match cs with
  | 46 :: rest =>
    let (a, rest) := takeAmount rest
    (if a = .absent then .given 0 else a, rest)
  | _ => (.absent, cs)

/-- A size at the front, and what follows. -/
def takeSize (cs : Characters) : Size × Characters :=
  match cs with
  | 104 :: 104 :: rest => (.byte, rest)
  | 104 :: rest => (.short, rest)
  | 108 :: 108 :: rest => (.widest, rest)
  | 108 :: rest => (.long, rest)
  | 76 :: rest => (.widest, rest)
  | 113 :: rest => (.widest, rest)
  | c :: rest => if c = 122 ∨ c = 90 ∨ c = 116 ∨ c = 106 then (.long, rest) else (.plain, c :: rest)
  | [] => (.plain, [])

/-- The directive behind a percent sign, and what follows. -/
def takeDirective (cs : Characters) : Directive × Characters :=
  let (position, rest) := takePosition cs
  let (style, rest) := takeStyle .plain rest
  let (width, rest) := takeAmount rest
  let (places, rest) := takePlaces rest
  let (size, rest) := takeSize rest
  (⟨position, style, width, places, size, Char.ofNat (rest.headD 0)⟩, rest.tail)

/-- The parts of a template with a bound on their number. -/
def piecesUpTo : Nat → Characters → List Piece
  | 0, _ => []
  | _ + 1, [] => []
  | bound + 1, c :: cs =>
    if c = percent then
      let (d, rest) := takeDirective cs
      .directive d :: piecesUpTo bound rest
    else
      let text := c :: cs.takeWhile (· != percent)
      .text text :: piecesUpTo bound (cs.dropWhile (· != percent))

/-- The parts of a template. -/
def pieces (cs : Characters) : List Piece :=
  piecesUpTo cs.length cs

/-- What kind of value is needed. -/
inductive Demand where
  /-- A number of up to 64 bits. -/
  | word
  | double
  | extended
deriving DecidableEq

/-- What the directive needs for its own value. -/
def Directive.demand? (d : Directive) : Option Demand :=
  if "diouxXbBcCsSpn".toList.contains d.letter then some .word
  else if "aAeEfFgG".toList.contains d.letter then
    some (if d.size = .widest then .extended else .double)
  else none

/-- A directive, and the numbers of the values that it takes for its width, its places and itself. -/
structure Claim where
  directive : Directive
  width : Option Nat
  places : Option Nat
  value : Option Nat
deriving DecidableEq

/-- The number of a value that an amount takes, and the next number that is free. -/
def claimAmount (next : Nat) : Amount → Option Nat × Nat
  | .taken (some n) => (some n, next)
  | .taken none => (some next, next + 1)
  | _ => (none, next)

/-- The numbers of the values that a directive takes, and the next number that is free. -/
def claimDirective (next : Nat) (d : Directive) : Claim × Nat :=
  let (width, next) := claimAmount next d.width
  let (places, next) := claimAmount next d.places
  match d.demand?, d.position with
  | none, _ => (⟨d, width, places, none⟩, next)
  | some _, some n => (⟨d, width, places, some n⟩, next)
  | some _, none => (⟨d, width, places, some next⟩, next + 1)

/-- The numbers of the values that all directives take. -/
def claims : Nat → List Piece → List Claim
  | _, [] => []
  | next, .text _ :: rest => claims next rest
  | next, .directive d :: rest =>
    let (c, next) := claimDirective next d
    c :: claims next rest

/-- The values that a claim needs, by their numbers. -/
def Claim.demands (c : Claim) : List (Nat × Demand) :=
  (c.width.map (·, Demand.word)).toList ++ (c.places.map (·, Demand.word)).toList ++
    ((c.value.bind fun n => c.directive.demand?.map (n, ·))).toList

/-- How many values a template can need. -/
def mostValues : Nat := 4096

/-- The kinds of the values that a template needs, in their order. One that no directive takes is a number. -/
def demands (cs : List Claim) : List Demand :=
  let all := cs.flatMap Claim.demands
  let count := all.foldl (fun n e => max n (e.1 + 1)) 0
  (List.range (min count mostValues)).map fun n => ((all.reverse.lookup n)).getD .word

/-- A form: a style with the numbers that belong to it. -/
structure Form where
  style : Style
  width : Nat
  places : Option Nat
deriving DecidableEq

/-- Characters, filled up with blanks to the width. -/
def Form.fill (f : Form) (cs : Characters) : Characters :=
  let blanks := List.replicate (f.width - cs.length) 32
  if f.style.isLeft then cs ++ blanks else blanks ++ cs

/-- A sign or a mark with digits behind it, filled up with zeros between them or with blanks. -/
def Form.fillNumber (f : Form) (isZeroed : Bool) (mark digits : Characters) : Characters :=
  if isZeroed && !f.style.isLeft then
    mark ++ List.replicate (f.width - mark.length - digits.length) 48 ++ digits
  else f.fill (mark ++ digits)

/-- The sign of a number. -/
def Form.sign (f : Form) (isNegative : Bool) : Characters :=
  if isNegative then [45] else if f.style.hasPlus then [43] else if f.style.hasBlank then [32] else []

/-- The base of the numbers that a letter writes. -/
def baseOf (letter : Char) : Nat :=
  if letter = 'o' then 8
  else if letter = 'x' ∨ letter = 'X' then 16
  else if letter = 'b' ∨ letter = 'B' then 2
  else 10

/-- What tells the base of a number. -/
def markOf (letter : Char) (n : Nat) : Characters :=
  if n ≠ 0 ∧ (letter = 'x' ∨ letter = 'X' ∨ letter = 'b' ∨ letter = 'B') then ofChars ['0', letter]
  else []

/-- The digits of a number, as many as there are to be at least. -/
def digitsOf (f : Form) (letter : Char) (n : Nat) : Characters :=
  let base := baseOf letter
  let cs := if n = 0 ∧ f.places = some 0 then [] else Nat.toDigits base n
  let cs := if letter = 'X' then cs.map Char.toUpper else cs
  let cs := Fraction.padded (f.places.getD 1) '0' cs
  ofChars (if f.style.isMarked && base == 8 && cs.head? != some '0' then '0' :: cs else cs)

/-- The text of a number behind its sign. -/
def numberText (f : Form) (letter : Char) (sign : Characters) (n : Nat) : Characters :=
  let mark := if f.style.isMarked then markOf letter n else []
  f.fillNumber (f.style.isZeroed && f.places.isNone) (sign ++ mark) (digitsOf f letter n)

/-- The text of a finite fraction without its sign. -/
def finiteText (f : Form) (format : Format) (letter : Char) (d : Nat) (e : Int) : List Char :=
  let places := f.places.getD 6
  let keeps := f.style.isMarked
  if letter = 'e' then Fraction.scientificText d e places keeps
  else if letter = 'f' then Fraction.fixedText d e places keeps
  else if letter = 'g' then Fraction.generalText d e places keeps
  else format.hexText (format.encode (.finite false d e)) f.places keeps

def fractionText (f : Form) (format : Format) (letter : Char) (x : Fraction) : Characters :=
  let change (cs : List Char) := ofChars (if letter.isUpper then cs.map Char.toUpper else cs)
  let sign := f.sign x.isNegative
  match x with
  | .nan _ _ _ => f.fill (sign ++ change ['n', 'a', 'n'])
  | .infinite _ => f.fill (sign ++ change ['i', 'n', 'f'])
  | .finite _ d e =>
    let cs := finiteText f format letter.toLower d e
    let markLength := if letter.toLower = 'a' then 2 else 0
    f.fillNumber f.style.isZeroed (sign ++ change (cs.take markLength)) (change (cs.drop markLength))

/-- The text of a directive whose letter has no meaning. -/
def strangeText (f : Form) (letter : Char) : Characters :=
  let s := f.style
  let sign (b : Bool) (c : Char) := if b then [c] else []
  let cs :=
    sign s.isMarked '#' ++ sign s.isGrouped (Char.ofNat 39) ++
      (if s.hasPlus then ['+'] else sign s.hasBlank ' ') ++
      sign s.isLeft '-' ++ sign s.isZeroed '0' ++ sign s.isForeign 'I' ++
      (if f.width = 0 then [] else Nat.toDigits 10 f.width) ++
      (f.places.elim [] fun n => '.' :: Nat.toDigits 10 n)
  percent :: ofChars cs ++ (if letter.toNat = 0 then [] else [letter.toNat])

end Template
end GrammarAssay
