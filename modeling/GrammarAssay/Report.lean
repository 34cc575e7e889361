import GrammarAssay.Assay
import GrammarAssay.Json.Printer

/-!
# Reports

**Input.** The outcome of an assay.

**Results.**
* `Report`: the outcome as a record. It has counts when the assay passed, and an error text when it
  failed.
* `Assay.report`: the report of an assay.
* `Report.toJson`, `Report.render`: the report as JSON, members without a value left out.
* `Report.describe`: the report as text.
-/

namespace GrammarAssay

/-- The outcome of an assay. -/
structure Report where
  grammar : String
  source : String
  ok : Bool
  abiVersion : Option UInt64
  nodeKindCount : Option UInt64
  fieldCount : Option UInt64
  error : Option String
deriving DecidableEq

namespace Report

/-- The report of an assay that passed. -/
def passed (h : Handle) (m : Memory) (origin : Origin) : Report :=
  { grammar := h.grammar
    source := origin.display
    ok := true
    abiVersion := some (h.facts m).version
    nodeKindCount := some (h.facts m).nodeKindCount
    fieldCount := some (h.facts m).fieldCount
    error := none }

/-- The report of an assay that failed. -/
def failed (grammar : String) (origin : Origin) (f : Fault) : Report :=
  { grammar := grammar
    source := origin.display
    ok := false
    abiVersion := none
    nodeKindCount := none
    fieldCount := none
    error := some f.message }

/-- A member with a count, if there is one. -/
def countMember (key : String) (n : Option UInt64) : List (String × Json) :=
  (n.map fun n => (key, Json.int n.toNat)).toList

/-- A member with a text, if there is one. -/
def textMember (key : String) (s : Option String) : List (String × Json) :=
  (s.map fun s => (key, Json.str s)).toList

/-- The report as a JSON value. -/
def toJson (r : Report) : Json :=
  .obj (("grammar", .str r.grammar) :: ("source", .str r.source) :: ("ok", .bool r.ok) ::
    (countMember "abi_version" r.abiVersion ++ countMember "node_kind_count" r.nodeKindCount ++
      countMember "field_count" r.fieldCount ++ textMember "error" r.error))

/-- The report as JSON text. -/
def render (r : Report) : String :=
  r.toJson.render

/-- An optional value as text. -/
def describeOption (s : Option String) : String :=
  match s with
  | some s => "Some(" ++ s ++ ")"
  | none => "None"

/-- An optional count as text. -/
def describeCount (n : Option UInt64) : String :=
  describeOption (n.map fun n => Text.decimal n.toNat)

/-- The report as text. -/
def describe (r : Report) : String :=
  "VerifyReport \x7b grammar: " ++ Text.Quoted.quote r.grammar ++
    ", source: " ++ Text.Quoted.quote r.source ++
    ", ok: " ++ (if r.ok then "true" else "false") ++
    ", abi_version: " ++ describeCount r.abiVersion ++
    ", node_kind_count: " ++ describeCount r.nodeKindCount ++
    ", field_count: " ++ describeCount r.fieldCount ++
    ", error: " ++ describeOption (r.error.map Text.Quoted.quote) ++ " \x7d"

end Report

def Assay.report (t : FileTree) (a : Assay) : StateM Linker Report := do
  match ← a.perform t with
  | .ok h => return .passed h (← get).memory a.loader.origin
  | .error f => return .failed a.name a.loader.origin f

end GrammarAssay
