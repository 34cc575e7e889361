import GrammarAssay.Json

/-!
# Shapes of JSON values

**Input.** A JSON value and a shape that it may have.

**Algorithm.** A shape is a test of values. A record is a list of members in a fixed order; a value
writes it as an object with the members under their keys, or as an array with the members in their
order. An optional member may be `null` or absent, in an array only behind all members that are given.
An object may have members that the record does not know, an array has no room for them.

**Results.**
* `Shape`: the shapes, and the basic ones.
* `Record.fits`: whether a value writes a record.
* `Record.given?`: the member of a record under a key.
-/

namespace GrammarAssay
namespace Json

/-- A test of values. -/
abbrev Shape := Json → Bool

namespace Shape

/-- A string. -/
def text : Shape
  | .str _ => true
  | _ => false

/-- One certain string. -/
def literal (s : String) : Shape
  | .str t => t == s
  | _ => false

/-- A truth value. -/
def flag : Shape
  | .bool _ => true
  | _ => false

/-- A signed integer of 64 bits. -/
def word : Shape
  | .int n => -(twoTo 63 : Int) ≤ n && n < twoTo 63
  | _ => false

/-- An object whose members all have a shape. -/
def objectOf (s : Shape) : Shape
  | .obj members => members.all fun m => s m.2
  | _ => false

def object : Shape :=
  objectOf fun _ => true

/-- One of two shapes. -/
def either (s t : Shape) : Shape :=
  fun j => s j || t j

/-- One of several names: as a string, or as the key of an object whose only member is `null`. -/
def name (names : List String) : Shape
  | .str s => names.contains s
  | .obj [(s, .null)] => names.contains s
  | _ => false

end Shape

/-- A member of a record. -/
structure Member where
  key : String
  shape : Shape
  required : Bool

namespace Member

/-- A member that has to be given. -/
def needed (key : String) (shape : Shape) : Member :=
  ⟨key, shape, true⟩

/-- A member that may be left out. -/
def optional (key : String) (shape : Shape) : Member :=
  ⟨key, shape, false⟩

/-- Can the member have this value, or be absent? -/
def admits (m : Member) : Option Json → Bool
  | none => !m.required
  | some .null => !m.required
  | some v => m.shape v

end Member

/-- The members of a record in their order. -/
abbrev Record := List Member

namespace Record

/-- Do items write a record in its order? -/
def fitsItems : Record → List Json → Bool
  | [], items => items.isEmpty
  | m :: rest, [] => m.admits none && fitsItems rest []
  | m :: rest, v :: items => m.admits (some v) && fitsItems rest items

/-- Do the members of an object write a record? -/
def fitsMembers (r : Record) (members : List (String × Json)) : Bool :=
  r.all fun m => m.admits (lookup? m.key members)

/-- Does a value write a record? -/
def fits (r : Record) : Shape
  | .obj members => fitsMembers r members
  | .arr items => fitsItems r items
  | _ => false

/-- Does an object write a record? -/
def fitsObject (r : Record) : Shape
  | .obj members => fitsMembers r members
  | _ => false

/-- The item of a member among the items that write a record. -/
def itemOf? (key : String) : Record → List Json → Option Json
  | m :: rest, v :: items => if m.key = key then some v else itemOf? key rest items
  | _, _ => none

/-- The member of a record under a key, where absence and `null` mean the same. -/
def given? (r : Record) (key : String) (j : Json) : Option Json :=
  let found := match j with
    | .arr items => itemOf? key r items
    | other => other.member? key
  match found with
  | some .null => none
  | other => other

/-- The text of a member, which is a string. -/
def textOf (r : Record) (key : String) (j : Json) : String :=
  ((r.given? key j).bind Json.text?).getD ""

end Record
end Json
end GrammarAssay
