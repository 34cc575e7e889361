import GrammarAssay.Processor.Vector

/-!
# Rounds of two digests

**Input.** A digest is computed in rounds from words of 32 bits, of which vectors hold four each.

**Algorithm.** Words are turned, combined bit by bit and added. Some instructions carry out a few rounds,
and others compute the words of later rounds from those of earlier ones.

**Results.**
* `Digest.change?`: the instruction with a code, on its destination, its source and the first vector.
* `Digest.fourRounds`: four rounds of the older digest.
-/

namespace GrammarAssay
namespace Digest

/-- A sum of words. -/
def sum (words : List Nat) : Nat :=
  words.foldl (· + ·) 0 % Lanes.power 32

/-- A word turned to the left. -/
def turn (n count : Nat) : Nat :=
  (n <<< count ||| n >>> (32 - count)) % Lanes.power 32

/-- A word turned to the right by three counts, added bit by bit. -/
def turns (a b c n : Nat) : Nat :=
  turn n (32 - a) ^^^ turn n (32 - b) ^^^ turn n (32 - c)

/-- A word turned to the right by two counts, and moved by a third, added bit by bit. -/
def moves (a b c n : Nat) : Nat :=
  turn n (32 - a) ^^^ turn n (32 - b) ^^^ n >>> c

/-- The bits of the second word where the first has ones, and of the third elsewhere. -/
def choice (a b c : Nat) : Nat :=
  (a &&& b) ^^^ Lanes.without 32 a c

/-- The bits that most of three words have. -/
def majority (a b c : Nat) : Nat :=
  (a &&& b) ^^^ (a &&& c) ^^^ (b &&& c)

/-- The function and the constant of rounds of the older digest. -/
def phase (number : Nat) : (Nat → Nat → Nat → Nat) × Nat :=
  let parity (a b c : Nat) : Nat := a ^^^ b ^^^ c
  match number % 4 with
  | 0 => (choice, 0x5A827999)
  | 1 => (parity, 0x6ED9EBA1)
  | 2 => (majority, 0x8F1BBCDC)
  | _ => (parity, 0xCA62C1D6)

/-- Rounds of the older digest, on a state of five words, with a word each. -/
def rounds (f : Nat → Nat → Nat → Nat) (k : Nat) :
    List Nat → Nat × Nat × Nat × Nat × Nat → Nat × Nat × Nat × Nat × Nat
  | [], s => s
  | w :: rest, (a, b, c, d, e) =>
    rounds f k rest (sum [f b c d, turn a 5, w, e, k], a, turn b 30, c, d)

/-- Four rounds of the older digest. The fifth word of the state is in the first word added. -/
def fourRounds (number destination source : Nat) : Nat :=
  let state (i : Nat) : Nat := Lanes.lane 32 destination (3 - i)
  let (f, k) := phase number
  let (a, b, c, d, _) := rounds f k (Lanes.split 32 4 source).reverse
    (state 0, state 1, state 2, state 3, 0)
  Lanes.join 32 [d, c, b, a]

/-- The first word of the next four, for the older digest. -/
def nextWord (destination source : Nat) : Nat :=
  Lanes.setLane 32 source 3
    (sum [Lanes.lane 32 source 3, turn (Lanes.lane 32 destination 3) 30])

/-- The first step to later words of the older digest. -/
def firstWords (destination source : Nat) : Nat :=
  destination ^^^ (destination % Lanes.power 64 * Lanes.power 64 + source / Lanes.power 64)

/-- The last step to later words of the older digest. -/
def lastWords (destination source : Nat) : Nat :=
  let d (i : Nat) : Nat := Lanes.lane 32 destination i
  let s (i : Nat) : Nat := Lanes.lane 32 source i
  let first := turn (d 3 ^^^ s 2) 1
  Lanes.join 32 [turn (d 0 ^^^ first) 1, turn (d 1 ^^^ s 0) 1, turn (d 2 ^^^ s 1) 1, first]

/-- A round of the newer digest, on a state of eight words. -/
def newerRound (w : Nat) : List Nat → List Nat
  | [a, b, c, d, e, f, g, h] =>
    let first := sum [choice e f g, turns 6 11 25 e, w, h]
    [sum [first, majority a b c, turns 2 13 22 a], a, b, c, sum [first, d], e, f, g]
  | s => s

/-- Two rounds of the newer digest with two words. -/
def twoRounds (destination source words : Nat) : Nat :=
  let d (i : Nat) : Nat := Lanes.lane 32 destination i
  let s (i : Nat) : Nat := Lanes.lane 32 source i
  let state := newerRound (Lanes.lane 32 words 1)
    (newerRound (Lanes.lane 32 words 0) [s 3, s 2, d 3, d 2, s 1, s 0, d 1, d 0])
  match state with
  | a :: b :: _ :: _ :: e :: f :: _ => Lanes.join 32 [f, e, b, a]
  | _ => 0

/-- The first step to later words of the newer digest. -/
def firstNewer (destination source : Nat) : Nat :=
  Lanes.join 32 ((List.range 4).map fun i =>
    let next := if i = 3 then Lanes.lane 32 source 0 else Lanes.lane 32 destination (i + 1)
    sum [Lanes.lane 32 destination i, moves 7 18 3 next])

/-- The last step to later words of the newer digest. -/
def lastNewer (destination source : Nat) : Nat :=
  let later (i earlier : Nat) : Nat := sum [Lanes.lane 32 destination i, moves 17 19 10 earlier]
  let a := later 0 (Lanes.lane 32 source 2)
  let b := later 1 (Lanes.lane 32 source 3)
  Lanes.join 32 [a, b, later 2 a, later 3 b]

/-- What the instruction with a code makes of its destination, its source and the first vector. -/
def change? (code : Nat) : Option (Nat → Nat → Nat → Nat) :=
  match code with
  | 0xC8 => some fun d s _ => nextWord d s
  | 0xC9 => some fun d s _ => firstWords d s
  | 0xCA => some fun d s _ => lastWords d s
  | 0xCB => some twoRounds
  | 0xCC => some fun d s _ => firstNewer d s
  | 0xCD => some fun d s _ => lastNewer d s
  | _ => none

end Digest
end GrammarAssay
