import GrammarAssay.Processor.Vector

/-!
# Texts in vectors

**Input.** Two vectors of 128 bits hold texts of bytes or of words. The first text tells what is looked
for, and the second where. Only the characters below the length of a text belong to it.

**Algorithm.** Each place of the second text is compared with the first text: the character there may be one
of the first text, lie in one of its ranges, be the one at the same place, or begin a copy of it.

**Results.**
* `TextMatch.places`: the places that are found, as bits of a number.
* `TextMatch.index`, `TextMatch.mask`: the first or the last of them, and all of them as a vector.
-/

namespace GrammarAssay

/-- What a place of the second text is looked for. -/
inductive TextRelation where
  /-- Its character occurs in the first text. -/
  | anyOf
  /-- Its character lies in a range of the first text, which lists least and largest characters. -/
  | inRange
  /-- Its character stands at the same place of the first text. -/
  | samePlace
  /-- A copy of the first text begins there, as far as the vector reaches. -/
  | beginning
deriving DecidableEq

def TextRelation.ofCode : Nat → TextRelation
  | 0 => anyOf
  | 1 => inRange
  | 2 => samePlace
  | _ => beginning

/-- How two texts are compared. -/
structure TextMatch where
  /-- The bits of a character. -/
  bits : Nat
  isSigned : Bool
  relation : TextRelation
  /-- Are the places told that are not found? -/
  isNegated : Bool
  /-- Does this concern the places of the text only? -/
  isInside : Bool
  /-- Is the last place told, or are places marked by whole lanes? -/
  isOther : Bool
deriving DecidableEq

namespace TextMatch

/-- The comparison that a number tells. -/
def ofNumber (n : Nat) : TextMatch where
  bits := if n.testBit 0 then 16 else 8
  isSigned := n.testBit 1
  relation := .ofCode (n / 4 % 4)
  isNegated := n.testBit 4
  isInside := n.testBit 5
  isOther := n.testBit 6

/-- How many characters a vector holds. -/
def count (m : TextMatch) : Nat :=
  128 / m.bits

/-- A character as a number. -/
def character (m : TextMatch) (text place : Nat) : Int :=
  let c := Lanes.lane m.bits text place
  if m.isSigned then Lanes.signed m.bits c else c

/-- The length of a text that ends before its first zero. -/
def length (m : TextMatch) (text : Nat) : Nat :=
  (Lanes.split m.bits m.count text).idxOf 0

/-- The length of a text that a number tells; its sign does not matter. -/
def givenLength (m : TextMatch) (n : Int) : Nat :=
  min n.natAbs m.count

/-- Is a place of the second text found? The first text has the length `k`, the second one `l`. -/
def isFound (m : TextMatch) (a b k l place : Nat) : Bool :=
  let c := m.character b place
  match m.relation with
  | .anyOf => place < l && (List.range k).any fun i => m.character a i == c
  | .inRange =>
    place < l && (List.range (k / 2)).any fun i =>
      m.character a (2 * i) ≤ c && c ≤ m.character a (2 * i + 1)
  | .samePlace =>
    if place < k ∧ place < l then m.character a place == c else k ≤ place && l ≤ place
  | .beginning =>
    (List.range (m.count - place)).all fun i =>
      k ≤ i || (place + i < l && m.character a i == m.character b (place + i))

/-- The places that are told, as bits. -/
def places (m : TextMatch) (a b k l : Nat) : Nat :=
  Lanes.join 1 ((List.range m.count).map fun i =>
    (m.isFound a b k l i != (m.isNegated && (!m.isInside || i < l))).toNat)

/-- The number of the first or the last place that is told, or how many there are if there is none. -/
def index (m : TextMatch) (found : Nat) : Nat :=
  let isTold (i : Nat) : Bool := found.testBit i
  let told := (List.range m.count).filter isTold
  ((if m.isOther then told.getLast? else told.head?)).getD m.count

/-- The places that are told as a vector. -/
def mask (m : TextMatch) (found : Nat) : Nat :=
  if m.isOther then
    Lanes.join m.bits ((List.range m.count).map fun i => Lanes.mask m.bits (found.testBit i))
  else found

end TextMatch
end GrammarAssay
