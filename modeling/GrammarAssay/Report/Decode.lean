import GrammarAssay.Json.Expect
import GrammarAssay.Report

/-!
# Reading reports

**Input.** A JSON value, in which a report is written as an object or as an array of its fields.

**Algorithm.** The known members of an object are read in byte order of their keys, and unknown
ones are passed over; only then are the required members missed. The items of an array are read in
the order of the fields, and the last four may be absent.

**Results.**
* `Report.ofJson`: the report, or what keeps the value from being one.
-/

namespace GrammarAssay
namespace Report

open Json (Mismatch)

/-- The name of the record in messages. -/
def recordName : String := "VerifyReport"

/-- Reads a member, if it is there. -/
def present? {α : Type} (members : List (String × Json)) (key : String)
    (read : Json → Except Mismatch α) : Except Mismatch (Option α) :=
  match Json.lookup? key members with
  | none => .ok none
  | some v => (read v).map some

/-- Misses a required member. -/
def required {α : Type} (key : String) : Option α → Except Mismatch α
  | some v => .ok v
  | none => .error (.absent key)

/-- Reads a report from the members of an object. -/
def ofMembers (members : List (String × Json)) : Except Mismatch Report := do
  let abiVersion ← present? members "abi_version" Json.expectCount?
  let error ← present? members "error" Json.expectText?
  let fieldCount ← present? members "field_count" Json.expectCount?
  let grammar ← present? members "grammar" Json.expectText
  let nodeKindCount ← present? members "node_kind_count" Json.expectCount?
  let ok ← present? members "ok" Json.expectFlag
  let source ← present? members "source" Json.expectText
  let grammar ← required "grammar" grammar
  let source ← required "source" source
  let ok ← required "ok" ok
  return ⟨grammar, source, ok, abiVersion.join, nodeKindCount.join, fieldCount.join, error.join⟩

/-- Reads the item of a required field. -/
def item {α : Type} (items : List Json) (place : Nat) (read : Json → Except Mismatch α) :
    Except Mismatch α :=
  match items[place]? with
  | some v => read v
  | none => .error (.short items.length recordName 7)

/-- Reads the item of an optional field. -/
def item? {α : Type} (items : List Json) (place : Nat)
    (read : Json → Except Mismatch (Option α)) : Except Mismatch (Option α) :=
  match items[place]? with
  | some v => read v
  | none => .ok none

/-- Reads a report from the items of an array. -/
def ofItems (items : List Json) : Except Mismatch Report := do
  let grammar ← item items 0 Json.expectText
  let source ← item items 1 Json.expectText
  let ok ← item items 2 Json.expectFlag
  let abiVersion ← item? items 3 Json.expectCount?
  let nodeKindCount ← item? items 4 Json.expectCount?
  let fieldCount ← item? items 5 Json.expectCount?
  let error ← item? items 6 Json.expectText?
  if 7 < items.length then .error (.long items.length)
  else return ⟨grammar, source, ok, abiVersion, nodeKindCount, fieldCount, error⟩

/-- The report that a JSON value writes. -/
def ofJson : Json → Except Mismatch Report
  | .obj members => ofMembers members
  | .arr items => ofItems items
  | other => .error (.kind other (.record recordName))

end Report
end GrammarAssay
