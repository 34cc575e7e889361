import GrammarAssay.Catalogue
import GrammarAssay.Catalogue.Tables.Tsx
import GrammarAssay.Json
import GrammarAssay.Library

/-!
# Descriptions of libraries

**Input.** A JSON value that describes a library and the language of its entry points.

A language is an object: with a true member `null` for an entry point that returns nothing,
with a member `builtin` for the tables of a built-in grammar, or with a `version`. A version without
a `root` has no symbols. With a root it has `kinds`, each a name or an object that also tells whether
the symbol is `visible`, `named` and a `supertype`, and `fields`.

**Results.**
* `Description.language?`: what an entry point returns.
* `Description.library?`: a library.
-/

namespace GrammarAssay
namespace Description

/-- The tables with an identifier. One dialect has tables and no place in the catalogue. -/
def tables? (id : String) : Option Language :=
  if id = "tsx" then some Tables.tsx
  else (BuiltIn.ofId id).toOption.map BuiltIn.language

/-- A truth value that may be left out. -/
def flag (j : Json) (key : String) (default : Bool) : Bool :=
  match j.member? key with
  | some (.bool b) => b
  | _ => default

/-- A symbol of a language. -/
def symbol? : Json → Option Symbol
  | .str name => some (Symbol.node name)
  | j => ((j.member? "name").bind Json.text?).map fun name =>
      ⟨name, flag j "visible" true, flag j "named" true, flag j "supertype" false⟩

/-- All values of a list, if there is one for each item. -/
def all? {α : Type} (read : Json → Option α) : List Json → Option (List α)
  | [] => some []
  | j :: rest => do
    let v ← read j
    let vs ← all? read rest
    return v :: vs

/-- The values of an array that may be left out. -/
def list? {α : Type} (j : Json) (key : String) (read : Json → Option α) : Option (List α) :=
  match j.given? key with
  | none => some []
  | some (.arr items) => all? read items
  | some _ => none

/-- A count of 64 bits. -/
def count? : Json → Option UInt64
  | .int n => if 0 ≤ n ∧ n.toNat < UInt64.size then some (UInt64.ofNat n.toNat) else none
  | _ => none

def tablesOfVersion? (j : Json) (version : UInt64) : Option Language :=
  match j.given? "root" with
  | none => some (Language.empty version)
  | some (.str root) => do
    let kinds ← list? j "kinds" symbol?
    let fields ← list? j "fields" Json.text?
    Language.withRoot? version root kinds fields
  | some _ => none

/-- What an entry point returns. -/
def language? (j : Json) : Option (Option Language) :=
  if flag j "null" false then some none
  else
    match j.given? "builtin" with
    | some (.str id) => (tables? id).map some
    | some _ => none
    | none => do
      let version ← (j.given? "version").bind count?
      let l ← tablesOfVersion? j version
      return some l

def library? (j : Json) : Option Library := do
  let exports ← list? j "exports" Json.text?
  let entry ← (j.given? "language").bind language?
  return ⟨exports, entry⟩

end Description
end GrammarAssay
