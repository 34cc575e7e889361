import GrammarAssay.Decimal.Binary64
import GrammarAssay.Text.Utf8

/-!
# JSON values

**Input.** A JSON value keeps its members in written order, and tells integers from other numbers.

**Results.**
* `Json`: the values.
* `Json.member?`: the value of a key; a key that is written twice has its last value.
* `Json.canonical`: the same value with the members of every object in byte order of their keys,
  one for each key.
-/

namespace GrammarAssay

/-- A JSON value. An integer is a number in `-2 ^ 63 ..< 2 ^ 64` written without fraction or
exponent; every other number is a double. -/
inductive Json where
  | null
  | bool (value : Bool)
  | int (value : Int)
  | real (value : Binary64)
  | str (value : String)
  | arr (items : List Json)
  | obj (members : List (String × Json))

namespace Json

/-- The last value written for a key. -/
def lookup? (key : String) : List (String × Json) → Option Json
  | [] => none
  | (k, v) :: rest => (lookup? key rest).or (if k = key then some v else none)

/-- The value of a key; a value that is no object has no members. -/
def member? (key : String) : Json → Option Json
  | .obj members => lookup? key members
  | _ => none

/-- The member of a key where absence and `null` mean the same. -/
def given? (key : String) (j : Json) : Option Json :=
  match j.member? key with
  | some .null => none
  | other => other

/-- The text of a string value. -/
def text? : Json → Option String
  | .str s => some s
  | _ => none

/-- The items of an array. -/
def items? : Json → Option (List Json)
  | .arr items => some items
  | _ => none

/-- Byte order of texts. -/
def byteLe (a b : String) : Bool :=
  decide (Text.Utf8.encode a ≤ Text.Utf8.encode b)

/-- The first entry of every key, in list order. -/
def firstOfKey {α : Type} : List (String × α) → List (String × α)
  | [] => []
  | e :: rest => e :: (firstOfKey rest).filter (fun f => f.1 != e.1)

/-- One member for each key, the last one written, in byte order of the keys. -/
def sortMembers {α : Type} (members : List (String × α)) : List (String × α) :=
  (firstOfKey members.reverse).mergeSort fun a b => byteLe a.1 b.1

mutual

/-- The same value with sorted members throughout. -/
def canonical : Json → Json
  | .arr items => .arr (canonicalItems items)
  | .obj members => .obj (sortMembers (canonicalMembers members))
  | other => other

/-- The items of an array, each with sorted members. -/
def canonicalItems : List Json → List Json
  | [] => []
  | v :: rest => canonical v :: canonicalItems rest

/-- The members of an object, each value with sorted members. -/
def canonicalMembers : List (String × Json) → List (String × Json)
  | [] => []
  | (k, v) :: rest => (k, canonical v) :: canonicalMembers rest

end

end Json
end GrammarAssay
