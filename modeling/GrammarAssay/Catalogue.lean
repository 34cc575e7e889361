import GrammarAssay.Catalogue.Tables.CSharp
import GrammarAssay.Catalogue.Tables.Css
import GrammarAssay.Catalogue.Tables.Go
import GrammarAssay.Catalogue.Tables.Html
import GrammarAssay.Catalogue.Tables.Java
import GrammarAssay.Catalogue.Tables.JavaScript
import GrammarAssay.Catalogue.Tables.Kotlin
import GrammarAssay.Catalogue.Tables.Python
import GrammarAssay.Catalogue.Tables.Rust
import GrammarAssay.Catalogue.Tables.Swift
import GrammarAssay.Catalogue.Tables.TypeScript
import GrammarAssay.Profile
import GrammarAssay.Text.Casing

/-!
# The catalogue of built-in grammars

**Input.** A user names a built-in grammar by its identifier, its name or an alias, in any letter
case and with blanks around it.

**Results.**
* `BuiltIn`: the grammars, and `BuiltIn.all` their order.
* `BuiltIn.id`, `BuiltIn.name`, `BuiltIn.language`, `BuiltIn.profile`: what is known of each.
* `BuiltIn.ofId`: the grammar that a user means.
-/

namespace GrammarAssay

/-- A grammar that is built in. -/
inductive BuiltIn where
  | rust
  | python
  | javaScript
  | typeScript
  | html
  | css
  | swift
  | cSharp
  | java
  | go
  | kotlin
deriving DecidableEq

/-- Why a text names no built-in grammar. -/
inductive LookupFault where
  | empty
  | unknown (key : String)
deriving DecidableEq

/-- The text of a failed lookup. -/
def LookupFault.message : LookupFault → String
  | .empty => "Empty grammar identifier"
  | .unknown key => "Unknown compiled-in grammar: " ++ key

namespace BuiltIn

/-- The catalogue in its order. -/
def all : List BuiltIn :=
  [.rust, .python, .javaScript, .typeScript, .html, .css, .swift, .cSharp, .java, .go, .kotlin]

/-- The name for people. -/
def name : BuiltIn → String
  | .rust => "Rust"
  | .python => "Python"
  | .javaScript => "JavaScript"
  | .typeScript => "TypeScript"
  | .html => "HTML"
  | .css => "CSS"
  | .swift => "Swift"
  | .cSharp => "C#"
  | .java => "Java"
  | .go => "Go"
  | .kotlin => "Kotlin"

/-- The identifier in arguments and reports. -/
def id : BuiltIn → String
  | .rust => "rust"
  | .python => "python"
  | .javaScript => "javascript"
  | .typeScript => "typescript"
  | .html => "html"
  | .css => "css"
  | .swift => "swift"
  | .cSharp => "c_sharp"
  | .java => "java"
  | .go => "go"
  | .kotlin => "kotlin"

/-- What a user may call the grammar besides its identifier, in lower case. -/
def aliases : BuiltIn → List String
  | .rust => ["rs"]
  | .python => ["py"]
  | .javaScript => ["js"]
  | .typeScript => ["ts"]
  | .cSharp => ["csharp", "c#", "cs"]
  | .kotlin => ["kt"]
  | _ => []

/-- The tables of the grammar. -/
def language : BuiltIn → Language
  | .rust => Tables.rust
  | .python => Tables.python
  | .javaScript => Tables.javaScript
  | .typeScript => Tables.typeScript
  | .html => Tables.html
  | .css => Tables.css
  | .swift => Tables.swift
  | .cSharp => Tables.cSharp
  | .java => Tables.java
  | .go => Tables.go
  | .kotlin => Tables.kotlin

/-- A small program of the grammar and the kind of its root. -/
def sample : BuiltIn → Sample
  | .rust => ⟨"fn main() \x7b\x7d\n", "source_file"⟩
  | .python => ⟨"x = 1\n", "module"⟩
  | .javaScript => ⟨"let x = 1;\n", "program"⟩
  | .typeScript => ⟨"let x: number = 1;\n", "program"⟩
  | .html => ⟨"<p>hi</p>\n", "document"⟩
  | .css => ⟨"a \x7b color: red; \x7d\n", "stylesheet"⟩
  | .swift => ⟨"let x = 1\n", "source_file"⟩
  | .cSharp => ⟨"class A \x7b\x7d\n", "compilation_unit"⟩
  | .java => ⟨"class A \x7b\x7d\n", "program"⟩
  | .go => ⟨"package main\n", "source_file"⟩
  | .kotlin => ⟨"val x = 1\n", "source_file"⟩

/-- What every build of the grammar meets. -/
def profile (g : BuiltIn) : Profile :=
  ⟨[], [], some g.sample⟩

/-- The form in which identifiers are compared. -/
def key (s : String) : String :=
  Text.Casing.lowerText (Text.trim s)

/-- The grammar that a user means. -/
def ofId (s : String) : Except LookupFault BuiltIn :=
  match all.find? fun g => (g.id :: g.aliases).contains (key s) with
  | some g => .ok g
  | none => if key s = "" then .error .empty else .error (.unknown (key s))

end BuiltIn
end GrammarAssay
