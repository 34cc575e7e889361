import GrammarAssay.Proofs.Library.FileName
import GrammarAssay.Proofs.Tool.Arguments

/-!
# Only malformed arguments are refused

**Input.** The arguments of the tool that verifies a grammar.

**Algorithm.** What the tool refuses is stated without the code that reads the arguments: `Refuses` lists
the five reasons in their order, each with its message. The tool reads the arguments before it looks at
any file, so the search paths, the files and the libraries in memory count for nothing.

**Results.**
* `refuses_of_assay_eq_error`, `assay_of_refuses`: no assay is asked for exactly if there is a reason.
* `map_name_assay`: which grammar the arguments ask for does not depend on the search paths.
* `report_eq_error_iff`: the tool refuses exactly if there is a reason, and otherwise reports on the
  grammar that the arguments ask for.
-/

namespace GrammarAssay
namespace Verify

/-- Does a path end in the file name of a library? -/
def EndsInLibrary (path : String) : Prop :=
  ∃ file name, (Path.ofString path).fileName? = some file ∧ name ≠ "" ∧
    file.bytes = Text.Utf8.encode ("libtree-sitter-" ++ name ++ ".so")

/-- The message of the first reason to refuse some arguments. -/
inductive Refuses (arguments : Json) : String → Prop
  | grammarNoText :
      Malformed arguments "grammar" →
      Refuses arguments "Invalid 'grammar' argument: expected a string"
  | libraryPathNoText :
      ¬ Malformed arguments "grammar" →
      Malformed arguments "library_path" →
      Refuses arguments "Invalid 'library_path' argument: expected a string"
  | both {id path : String} :
      arguments.member? "grammar" = some (.str id) →
      arguments.member? "library_path" = some (.str path) →
      Refuses arguments "Pass either 'grammar' or 'library_path', not both"
  | noGrammar {id : String} {fault : LookupFault} :
      arguments.member? "grammar" = some (.str id) →
      Absent arguments "library_path" →
      BuiltIn.ofId id = .error fault →
      Refuses arguments fault.message
  | noLibrary {path : String} :
      Absent arguments "grammar" →
      arguments.member? "library_path" = some (.str path) →
      ¬ EndsInLibrary path →
      Refuses arguments ("Not a tree-sitter grammar library name: " ++ path)

section Choosing

variable {paths : List Path}

/-- A path tells a grammar exactly if it ends in the file name of a library. -/
theorem isSome_grammarOfPath?_iff {path : String} :
    (Loader.grammarOfPath? (Path.ofString path)).isSome = true ↔ EndsInLibrary path := by
  rw [Option.isSome_iff_exists]
  constructor
  · rintro ⟨name, hname⟩
    obtain ⟨hne, file, hfile, hbytes⟩ := Loader.grammarOfPath?_eq_some_iff.mp hname
    exact ⟨file, name, hfile, hne, hbytes⟩
  · rintro ⟨file, name, hfile, hne, hbytes⟩
    exact ⟨name, Loader.grammarOfPath?_eq_some_iff.mpr ⟨hne, file, hfile, hbytes⟩⟩

/-- A grammar is refused if it is not built in. -/
theorem ofGrammar_eq_error_iff {id : String} {fault : ToolFault} :
    ofGrammar id = .error fault ↔
      ∃ why, BuiltIn.ofId id = .error why ∧ fault = .noGrammar why := by
  unfold ofGrammar
  cases hlookup : BuiltIn.ofId id with
  | ok g => simp
  | error why => simp [eq_comm]

/-- A path is refused if it does not end in the file name of a library. -/
theorem ofLibrary_eq_error_iff {path : String} {fault : ToolFault} :
    ofLibrary path = .error fault ↔ ¬ EndsInLibrary path ∧ fault = .notLibraryName path := by
  rw [← isSome_grammarOfPath?_iff]
  unfold ofLibrary
  cases hname : Loader.grammarOfPath? (Path.ofString path) with
  | none => simp [eq_comm]
  | some name =>
      simp only [Option.isSome_some, not_true_eq_false, false_and, iff_false]
      split
      · simp
      · simp

variable {arguments : Json}

/-- What the arguments do not ask for is refused for the first reason. -/
theorem refuses_of_assay_eq_error {fault : ToolFault} (h : assay paths arguments = .error fault) :
    fault.kind = .invalidInput ∧ Refuses arguments fault.message := by
  rcases absent_or_text_or_malformed arguments "grammar" with hgrammar | ⟨id, hgrammar⟩ | hgrammar
  · rcases absent_or_text_or_malformed arguments "library_path" with
      hlibrary | ⟨path, hlibrary⟩ | hlibrary
    · rw [assay_of_absent hgrammar hlibrary] at h
      cases h
    · rw [assay_of_libraryPath hgrammar hlibrary] at h
      obtain ⟨hends, rfl⟩ := ofLibrary_eq_error_iff.mp h
      exact ⟨rfl, Refuses.noLibrary hgrammar hlibrary hends⟩
    · have hread := not_malformed_of_absent hgrammar
      rw [assay_of_malformed_libraryPath hread hlibrary] at h
      cases h
      exact ⟨rfl, Refuses.libraryPathNoText hread hlibrary⟩
  · rcases absent_or_text_or_malformed arguments "library_path" with
      hlibrary | ⟨path, hlibrary⟩ | hlibrary
    · rw [assay_of_grammar hgrammar hlibrary] at h
      obtain ⟨why, hlookup, rfl⟩ := ofGrammar_eq_error_iff.mp h
      exact ⟨rfl, Refuses.noGrammar hgrammar hlibrary hlookup⟩
    · rw [assay_of_both hgrammar hlibrary] at h
      cases h
      exact ⟨rfl, Refuses.both hgrammar hlibrary⟩
    · have hread := not_malformed_of_text hgrammar
      rw [assay_of_malformed_libraryPath hread hlibrary] at h
      cases h
      exact ⟨rfl, Refuses.libraryPathNoText hread hlibrary⟩
  · rw [assay_of_malformed_grammar hgrammar] at h
    cases h
    exact ⟨rfl, Refuses.grammarNoText hgrammar⟩

/-- The first reason to refuse the arguments is why they ask for nothing. -/
theorem assay_of_refuses {message : String} (h : Refuses arguments message) :
    ∃ fault, assay paths arguments = .error fault ∧ fault.message = message := by
  cases h with
  | grammarNoText hgrammar =>
      exact ⟨_, assay_of_malformed_grammar hgrammar, rfl⟩
  | libraryPathNoText hgrammar hlibrary =>
      exact ⟨_, assay_of_malformed_libraryPath hgrammar hlibrary, rfl⟩
  | both hgrammar hlibrary =>
      exact ⟨_, assay_of_both hgrammar hlibrary, rfl⟩
  | noGrammar hgrammar hlibrary hlookup =>
      refine ⟨.noGrammar _, ?_, rfl⟩
      rw [assay_of_grammar hgrammar hlibrary]
      exact ofGrammar_eq_error_iff.mpr ⟨_, hlookup, rfl⟩
  | noLibrary hgrammar hlibrary hends =>
      refine ⟨.notLibraryName _, ?_, rfl⟩
      rw [assay_of_libraryPath hgrammar hlibrary]
      exact ofLibrary_eq_error_iff.mpr ⟨hends, rfl⟩

end Choosing

/-- Which grammar the arguments ask for, and why they ask for none, does not depend on the search paths. -/
theorem map_name_assay (paths paths' : List Path) (arguments : Json) :
    (assay paths arguments).map Assay.name = (assay paths' arguments).map Assay.name := by
  unfold assay
  cases textArgument arguments "grammar" with
  | error fault => rfl
  | ok grammar =>
      cases textArgument arguments "library_path" with
      | error fault => rfl
      | ok libraryPath =>
          cases grammar with
          | none =>
              cases libraryPath with
              | none => rfl
              | some path => rfl
          | some id =>
              cases libraryPath with
              | none => rfl
              | some path => rfl

/-- A report is on the grammar that the arguments ask for. -/
theorem map_grammar_report (t : FileTree) (paths : List Path) (arguments : Json) (l : Linker) :
    ((report t paths arguments).run l).1.map Report.grammar =
      (assay paths arguments).map Assay.name := by
  rw [run_report]
  cases assay paths arguments with
  | error fault => rfl
  | ok a => exact congrArg Except.ok (Assay.grammar_report t a l)

/-- A run fails exactly if its arguments ask for nothing. -/
theorem refused_iff (t : FileTree) (paths : List Path) (arguments : Json) (l : Linker)
    (fault : ToolFault) :
    ((report t paths arguments).run l).1 = .error fault ↔ assay paths arguments = .error fault := by
  rw [run_report]
  cases assay paths arguments with
  | error other => simp
  | ok a => simp

/-- **Only malformed arguments are refused.** The tool fails exactly if there is a reason to refuse the
arguments, and then with the message of the first one, as invalid input. Whatever files, search paths and
libraries in memory two runs with the same arguments have, they fail alike, or both report, and on the
same grammar. -/
theorem report_eq_error_iff (arguments : Json) :
    (∀ t paths l kind message,
      (∃ fault, ((report t paths arguments).run l).1 = .error fault ∧
        fault.kind = kind ∧ fault.message = message) ↔
        kind = .invalidInput ∧ Refuses arguments message) ∧
    (∀ t paths l t' paths' l',
      (∃ fault, ((report t paths arguments).run l).1 = .error fault ∧
        ((report t' paths' arguments).run l').1 = .error fault) ∨
      ∃ r r', ((report t paths arguments).run l).1 = .ok r ∧
        ((report t' paths' arguments).run l').1 = .ok r' ∧ r.grammar = r'.grammar) := by
  constructor
  · intro t paths l kind message
    simp only [refused_iff]
    constructor
    · rintro ⟨fault, hassay, rfl, rfl⟩
      exact refuses_of_assay_eq_error hassay
    · rintro ⟨rfl, hrefuses⟩
      obtain ⟨fault, hassay, hmessage⟩ := assay_of_refuses hrefuses
      exact ⟨fault, hassay, (refuses_of_assay_eq_error hassay).1, hmessage⟩
  · intro t paths l t' paths' l'
    have hsame : ((report t paths arguments).run l).1.map Report.grammar =
        ((report t' paths' arguments).run l').1.map Report.grammar := by
      rw [map_grammar_report, map_grammar_report, map_name_assay paths paths']
    generalize ((report t paths arguments).run l).1 = outcome at hsame
    generalize ((report t' paths' arguments).run l').1 = outcome' at hsame
    cases outcome with
    | error fault =>
        cases outcome' with
        | error fault' =>
            cases hsame
            exact Or.inl ⟨fault, rfl, rfl⟩
        | ok r' => cases hsame
    | ok r =>
        cases outcome' with
        | error fault' => cases hsame
        | ok r' => exact Or.inr ⟨r, r', rfl, rfl, Except.ok.inj hsame⟩

end Verify
end GrammarAssay
