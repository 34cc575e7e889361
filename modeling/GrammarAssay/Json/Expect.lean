import GrammarAssay.Json.Printer
import GrammarAssay.Text.Digits
import GrammarAssay.Text.Quoted

/-!
# Expected kinds of JSON values

**Input.** A JSON value and the kind of value that is expected in its place.

**Results.**
* `Mismatch`, `Mismatch.message`: how a value can fail an expectation.
* `expectText`, `expectFlag`, `expectCount?`, `expectText?`: the values of the expected kind.
-/

namespace GrammarAssay
namespace Json

/-- The kind of value that is expected. -/
inductive Expected where
  | text
  | flag
  | count
  | record (name : String)
deriving DecidableEq

/-- The name of an expected kind. -/
def Expected.label : Expected → String
  | .text => "a string"
  | .flag => "a boolean"
  | .count => "usize"
  | .record name => "struct " ++ name

/-- What a value is, as text. -/
def label : Json → String
  | .null => "null"
  | .bool b => "boolean `" ++ (if b then "true" else "false") ++ "`"
  | .int n => "integer `" ++ String.ofList (intChars n) ++ "`"
  | .real x => "floating point `" ++ String.ofList x.text ++ "`"
  | .str s => "string " ++ Text.Quoted.quote s
  | .arr _ => "sequence"
  | .obj _ => "map"

/-- How a value can fail an expectation. -/
inductive Mismatch where
  /-- The value is of another kind. -/
  | kind (found : Json) (expected : Expected)
  /-- The number is out of range. -/
  | range (found : Int) (expected : Expected)
  /-- A required member is absent. -/
  | absent (key : String)
  /-- An array has too few items for a record. -/
  | short (length : Nat) (record : String) (fields : Nat)
  /-- An array has more items than a record has fields. -/
  | long (length : Nat)

/-- The text of a mismatch. -/
def Mismatch.message : Mismatch → String
  | .kind found expected => "invalid type: " ++ found.label ++ ", expected " ++ expected.label
  | .range found expected =>
    "invalid value: integer `" ++ String.ofList (intChars found) ++ "`, expected " ++
      expected.label
  | .absent key => "missing field `" ++ key ++ "`"
  | .short length record fields =>
    "invalid length " ++ Text.decimal length ++ ", expected struct " ++ record ++ " with " ++
      Text.decimal fields ++ " elements"
  | .long length =>
    "invalid length " ++ Text.decimal length ++ ", expected fewer elements in array"

/-- A string. -/
def expectText : Json → Except Mismatch String
  | .str s => .ok s
  | other => .error (.kind other .text)

/-- A truth value. -/
def expectFlag : Json → Except Mismatch Bool
  | .bool b => .ok b
  | other => .error (.kind other .flag)

/-- A string, or `null` for none. -/
def expectText? : Json → Except Mismatch (Option String)
  | .null => .ok none
  | other => (expectText other).map some

/-- A count of 64 bits, or `null` for none. -/
def expectCount? : Json → Except Mismatch (Option UInt64)
  | .null => .ok none
  | .int n =>
    if 0 ≤ n ∧ n.toNat < UInt64.size then .ok (some (UInt64.ofNat n.toNat)) else .error (.range n .count)
  | other => .error (.kind other .count)

end Json
end GrammarAssay
