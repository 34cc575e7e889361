import GrammarAssay.Proofs.Assay.Report
import GrammarAssay.Tool.Verify

/-!
# The arguments of the tool that verifies a grammar

**Input.** A JSON value with the arguments. A value that is no object has no members.

**Algorithm.** An argument is absent, a text, or malformed. Which of these its two arguments are decides
what the tool does.

**Results.**
* `absent_or_text_or_malformed`: what an argument can be.
* `textArgument_of_absent`, `textArgument_of_text`, `textArgument_of_malformed`: how it is read.
* `assay_of_malformed_grammar`, `assay_of_malformed_libraryPath`, `assay_of_both`: arguments that ask for no
  assay.
* `assay_of_absent`, `assay_of_grammar`, `assay_of_libraryPath`: the assay that the arguments ask for.
* `run_report`, `run_eq_map_report`: the tool reports on that assay, or refuses, and shows the report.
-/

namespace GrammarAssay
namespace Verify

/-- Is the argument left out, or `null`? -/
def Absent (arguments : Json) (key : String) : Prop :=
  arguments.member? key = none ∨ arguments.member? key = some .null

/-- Is the argument given, but not as a text? -/
def Malformed (arguments : Json) (key : String) : Prop :=
  ∃ value, arguments.member? key = some value ∧ value ≠ .null ∧ ∀ text, value ≠ .str text

section Reading

variable {arguments : Json} {key : String}

/-- What an argument can be. -/
theorem absent_or_text_or_malformed (arguments : Json) (key : String) :
    Absent arguments key ∨ (∃ text, arguments.member? key = some (.str text)) ∨
      Malformed arguments key := by
  cases hmember : arguments.member? key with
  | none => exact Or.inl (Or.inl hmember)
  | some value =>
      cases value with
      | null => exact Or.inl (Or.inr hmember)
      | str text => exact Or.inr (Or.inl ⟨text, rfl⟩)
      | _ => exact Or.inr (Or.inr ⟨_, hmember, by simp, by simp⟩)

theorem textArgument_of_absent (h : Absent arguments key) :
    textArgument arguments key = .ok none := by
  unfold textArgument Json.given?
  rcases h with h | h
  · rw [h]
  · rw [h]

theorem textArgument_of_text {text : String} (h : arguments.member? key = some (.str text)) :
    textArgument arguments key = .ok (some text) := by
  unfold textArgument Json.given?
  rw [h]

theorem textArgument_of_malformed (h : Malformed arguments key) :
    textArgument arguments key = .error (.notText key) := by
  obtain ⟨value, hmember, hnull, htext⟩ := h
  unfold textArgument Json.given?
  rw [hmember]
  cases value with
  | null => exact absurd rfl hnull
  | str text => exact absurd rfl (htext text)
  | _ => rfl

theorem not_malformed_of_absent (h : Absent arguments key) : ¬ Malformed arguments key := by
  rintro ⟨value, hmember, hnull, _⟩
  rcases h with h | h
  · rw [h] at hmember
    cases hmember
  · rw [h] at hmember
    cases hmember
    exact hnull rfl

theorem not_malformed_of_text {text : String} (h : arguments.member? key = some (.str text)) :
    ¬ Malformed arguments key := by
  rintro ⟨value, hmember, _, htext⟩
  rw [h] at hmember
  cases hmember
  exact htext text rfl

/-- An argument that is not malformed is read. -/
theorem exists_textArgument (h : ¬ Malformed arguments key) :
    ∃ text, textArgument arguments key = .ok text := by
  rcases absent_or_text_or_malformed arguments key with habsent | ⟨text, htext⟩ | hmalformed
  · exact ⟨none, textArgument_of_absent habsent⟩
  · exact ⟨some text, textArgument_of_text htext⟩
  · exact absurd hmalformed h

end Reading

section Choosing

variable {paths : List Path} {arguments : Json}

/-- Once both arguments are read, they are chosen from. -/
theorem assay_of_textArgument {grammar libraryPath : Option String}
    (hgrammar : textArgument arguments "grammar" = .ok grammar)
    (hlibrary : textArgument arguments "library_path" = .ok libraryPath) :
    assay paths arguments = choose paths grammar libraryPath := by
  unfold assay
  rw [hgrammar, hlibrary]
  rfl

/-- A malformed grammar comes first. -/
theorem assay_of_malformed_grammar (hgrammar : Malformed arguments "grammar") :
    assay paths arguments = .error (.notText "grammar") := by
  unfold assay
  rw [textArgument_of_malformed hgrammar]
  rfl

/-- A malformed path comes next. -/
theorem assay_of_malformed_libraryPath (hgrammar : ¬ Malformed arguments "grammar")
    (hlibrary : Malformed arguments "library_path") :
    assay paths arguments = .error (.notText "library_path") := by
  obtain ⟨grammar, hread⟩ := exists_textArgument hgrammar
  unfold assay
  rw [hread, textArgument_of_malformed hlibrary]
  rfl

/-- A grammar and a path are not taken together. -/
theorem assay_of_both {id path : String} (hgrammar : arguments.member? "grammar" = some (.str id))
    (hlibrary : arguments.member? "library_path" = some (.str path)) :
    assay paths arguments = .error .bothGiven := by
  rw [assay_of_textArgument (textArgument_of_text hgrammar) (textArgument_of_text hlibrary),
    choose]

/-- Without arguments the Scribl grammar is assayed. -/
theorem assay_of_absent (hgrammar : Absent arguments "grammar")
    (hlibrary : Absent arguments "library_path") :
    assay paths arguments = .ok (Assay.scribl paths) := by
  rw [assay_of_textArgument (textArgument_of_absent hgrammar) (textArgument_of_absent hlibrary),
    choose]

/-- With a grammar alone a built-in grammar is assayed. -/
theorem assay_of_grammar {id : String} (hgrammar : arguments.member? "grammar" = some (.str id))
    (hlibrary : Absent arguments "library_path") :
    assay paths arguments = ofGrammar id := by
  rw [assay_of_textArgument (textArgument_of_text hgrammar) (textArgument_of_absent hlibrary),
    choose]

/-- With a path alone the library there is assayed. -/
theorem assay_of_libraryPath {path : String} (hgrammar : Absent arguments "grammar")
    (hlibrary : arguments.member? "library_path" = some (.str path)) :
    assay paths arguments = ofLibrary path := by
  rw [assay_of_textArgument (textArgument_of_absent hgrammar) (textArgument_of_text hlibrary),
    choose]

/-- The tool reports on the assay that the arguments ask for, or refuses and does nothing. -/
theorem run_report (t : FileTree) (paths : List Path) (arguments : Json) (l : Linker) :
    (report t paths arguments).run l =
      match assay paths arguments with
      | .ok a => (.ok ((a.report t).run l).1, ((a.report t).run l).2)
      | .error fault => (.error fault, l) := by
  unfold report
  cases assay paths arguments with
  | ok a => rfl
  | error fault => rfl

/-- The tool answers with the text of its report. -/
theorem run_eq_map_report (t : FileTree) (paths : List Path) (arguments : Json) (l : Linker) :
    (run t paths arguments).run l =
      (((report t paths arguments).run l).1.map fun r => ToolResult.ofText r.render,
        ((report t paths arguments).run l).2) := by
  unfold run
  rw [StateT.run_bind]
  rcases (report t paths arguments).run l with ⟨fault | r, m⟩
  · rfl
  · rfl

end Choosing

end Verify
end GrammarAssay
