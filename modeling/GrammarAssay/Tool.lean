import GrammarAssay.Catalogue
import GrammarAssay.Json.Printer

/-!
# Results of tools

**Results.**
* `ToolFault`: why a tool refuses to run, or cannot show its result.
* `ToolFault.kind`, `ToolFault.message`: the error that a caller gets.
* `ToolResult`: what a tool answers, which is one text.
-/

namespace GrammarAssay

/-- Why a tool refuses to run, or cannot show its result. -/
inductive ToolFault where
  /-- An argument is not a string. -/
  | notText (key : String)
  /-- Both arguments are given. -/
  | bothGiven
  /-- No built-in grammar has the name. -/
  | noGrammar (fault : LookupFault)
  /-- The path does not end in the file name of a library. -/
  | notLibraryName (path : String)
  /-- The result has no text. -/
  | unprintable (reason : String)
deriving DecidableEq

/-- The kinds of errors that a caller can get. -/
inductive ErrorKind where
  | invalidInput
  | invalidData
deriving DecidableEq

/-- The kind of a fault: a caller can avoid all but the last. -/
def ToolFault.kind : ToolFault → ErrorKind
  | .unprintable _ => .invalidData
  | _ => .invalidInput

/-- The text of a fault. -/
def ToolFault.message : ToolFault → String
  | .notText key => "Invalid '" ++ key ++ "' argument: expected a string"
  | .bothGiven => "Pass either 'grammar' or 'library_path', not both"
  | .noGrammar fault => fault.message
  | .notLibraryName path => "Not a tree-sitter grammar library name: " ++ path
  | .unprintable reason => "Failed to serialize result to JSON: " ++ reason

/-- What a tool answers. -/
structure ToolResult where
  text : String
  isError : Bool
deriving DecidableEq

namespace ToolResult

/-- The answer of a tool that ran. -/
def ofText (text : String) : ToolResult :=
  ⟨text, false⟩

/-- The answer of a tool that refuses. -/
def refusal (message : String) : ToolResult :=
  ⟨message, true⟩

/-- The answer whose text was made, or not. -/
def ofPrinted (text : Except String String) : Except ToolFault ToolResult :=
  match text with
  | .ok text => .ok (ofText text)
  | .error reason => .error (.unprintable reason)

/-- The answer that shows a JSON value. -/
def ofJson (j : Json) : Except ToolFault ToolResult :=
  ofPrinted (.ok j.render)

/-- The answer as a JSON value. -/
def toJson (r : ToolResult) : Json :=
  .obj (("content", .arr [.obj [("text", .str r.text), ("type", .str "text")]]) ::
    (if r.isError then [("isError", .bool true)] else []))

end ToolResult
end GrammarAssay
