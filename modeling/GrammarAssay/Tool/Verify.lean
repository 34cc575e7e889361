import GrammarAssay.Report
import GrammarAssay.Tool

/-!
# The tool that verifies a grammar

**Input.** Two optional arguments: the name of a built-in grammar, or the path of a library. Without
them the Scribl grammar is looked for in the search paths.

**Algorithm.** The arguments alone decide which grammar is assayed, or why none is. A grammar that
fails its assay is no fault of the tool.

**Results.**
* `Verify.assay`: the assay that the arguments ask for.
* `Verify.report`: its report.
* `Verify.run`: the answer of the tool.
-/

namespace GrammarAssay
namespace Verify

/-- An optional string argument. -/
def textArgument (arguments : Json) (key : String) : Except ToolFault (Option String) :=
  match arguments.given? key with
  | none => .ok none
  | some (.str s) => .ok (some s)
  | some _ => .error (.notText key)

/-- The assay of a built-in grammar. -/
def ofGrammar (id : String) : Except ToolFault Assay :=
  match BuiltIn.ofId id with
  | .ok g => .ok ⟨g.name, .builtIn g, some g.profile⟩
  | .error fault => .error (.noGrammar fault)

/-- The assay of a library whose file name tells the grammar. -/
def ofLibrary (path : String) : Except ToolFault Assay :=
  match Loader.grammarOfPath? (Path.ofString path) with
  | none => .error (.notLibraryName path)
  | some name =>
    let loader := Loader.library name (Path.ofString path)
    if name = Scribl.grammarName then .ok ⟨Scribl.displayName, loader, some Scribl.profile⟩
    else .ok ⟨name, loader, none⟩

/-- The assay for the two arguments. -/
def choose (paths : List Path) : Option String → Option String → Except ToolFault Assay
  | some _, some _ => .error .bothGiven
  | some id, none => ofGrammar id
  | none, some path => ofLibrary path
  | none, none => .ok (Assay.scribl paths)

/-- The assay that the arguments ask for. -/
def assay (paths : List Path) (arguments : Json) : Except ToolFault Assay := do
  let grammar ← textArgument arguments "grammar"
  let libraryPath ← textArgument arguments "library_path"
  choose paths grammar libraryPath

/-- The report of the assay that the arguments ask for. -/
def report (t : FileTree) (paths : List Path) (arguments : Json) :
    StateM Linker (Except ToolFault Report) := do
  match assay paths arguments with
  | .ok a => return .ok (← a.report t)
  | .error fault => return .error fault

/-- The answer of the tool. -/
def run (t : FileTree) (paths : List Path) (arguments : Json) :
    StateM Linker (Except ToolFault ToolResult) := do
  return (← report t paths arguments).bind fun r => ToolResult.ofJson r.toJson

end Verify
end GrammarAssay
