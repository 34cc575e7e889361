import GrammarAssay.Proofs.Linker.Described
import GrammarAssay.Proofs.Path.Display
import GrammarAssay.Proofs.Tool.Arguments
import GrammarAssay.Proofs.Tool.Listing

/-!
# Verifying what is listed

**Input.** A file tree, search paths, and an entry of a library in the list of the grammars.

**Algorithm.** A discovered library stands below a search path under the file name of its grammar. What is
displayed of its path ends in that file name, so the tool that verifies a grammar takes the displayed path and
assays the grammar there. If the path is UTF-8 the displayed path spells it, so the assay is that of the
discovered file. Otherwise the displayed path is another path.

**Results.**
* `exists_candidate_of_mem_discover`: where a discovered library stands.
* `cause_ne_noLibrary_of_isFile`: an assay of a regular file does not fail for want of a file.
* `ofLibrary_display`: the displayed path asks for an assay of the grammar.
* `verifies_what_is_listed`: what the tool reports for the path in an entry.
* `listed_not_found`: an entry whose path is not UTF-8.
-/

namespace GrammarAssay
namespace Search

/-- The empty path is no directory, so it holds nothing. -/
theorem inDirectory_of_bytes_eq_nil (t : FileTree) {dir : Path} (h : dir.bytes = []) :
    inDirectory t dir = [] := by
  have hresolve : t.resolve dir = .error .missing := by
    simp [FileTree.resolve, h]
  simp [inDirectory, FileTree.entries, hresolve]

/-- A discovered library is a regular file below a search path, under the file name of its grammar. -/
theorem exists_candidate_of_mem_discover {t : FileTree} {paths : List Path} {f : Found}
    (hf : f ∈ discover t paths) :
    f.name ≠ "" ∧ '/' ∉ f.name.toList ∧ (∃ dir ∈ paths, f.path = candidate dir f.name) ∧
      t.isFile f.path = true := by
  have hmem := List.mem_of_find?_eq_some (mem_discover_iff.mp hf)
  obtain ⟨dir, hdir, hheld⟩ := List.mem_flatMap.mp hmem
  have hbytes : dir.bytes ≠ [] := by
    intro hnil
    rw [inDirectory_of_bytes_eq_nil t hnil] at hheld
    cases hheld
  obtain ⟨hne, hslash, hpath, hfile⟩ := (mem_inDirectory_iff hbytes).mp hheld
  exact ⟨hne, hslash, ⟨dir, hdir, hpath⟩, hfile⟩

/-- The assay of the grammar of a discovered library, at a path. -/
def Found.assayAt (f : Found) (path : Path) : Assay :=
  if f.name = Scribl.grammarName then
    ⟨Scribl.displayName, .library f.name path, some Scribl.profile⟩
  else ⟨f.name, .library f.name path, none⟩

/-- The assay of a discovered library. -/
def Found.assay (f : Found) : Assay :=
  f.assayAt f.path

theorem Found.loader_assayAt (f : Found) (path : Path) :
    (f.assayAt path).loader = .library f.name path := by
  unfold assayAt
  split <;> rfl

theorem Found.name_assayAt (f : Found) (path : Path) :
    (f.assayAt path).name =
      if f.name = Scribl.grammarName then Scribl.displayName else f.name := by
  unfold assayAt
  split <;> rfl

end Search

/-- An assay of a regular file does not fail for want of a file. -/
theorem Assay.cause_ne_noLibrary_of_isFile {t : FileTree} {l : Linker} {a : Assay} {name : String}
    {path : Path} {f : Fault} (hloader : a.loader = .library name path)
    (hfile : t.isFile path = true) (hrun : a.run t l = .error f) (words : String) :
    f.cause ≠ .noLibrary words := by
  intro hcause
  have hviolates := (violates_of_run_eq_error hrun).2
  rw [hcause] at hviolates
  rcases lacks_or_aboutLanguage hviolates with hlacks | habout
  · rw [hloader] at hlacks
    cases hlacks with
    | file _ _ hnone =>
        rw [hfile] at hnone
        cases hnone
  · cases habout

namespace Verify

variable {t : FileTree} {paths : List Path} {f : Search.Found}

/-- The displayed path of a discovered library asks for the assay of its grammar there. -/
theorem ofLibrary_display (hf : f ∈ Search.discover t paths) :
    ofLibrary f.path.display = .ok (f.assayAt (Path.ofString f.path.display)) := by
  obtain ⟨hne, hslash, ⟨dir, -, hpath⟩, -⟩ := Search.exists_candidate_of_mem_discover hf
  have hname : Loader.grammarOfPath? (Path.ofString f.path.display) = some f.name := by
    rw [hpath]
    exact Search.grammarOfPath?_ofString_display dir hne hslash
  simp only [ofLibrary, hname, Search.Found.assayAt]
  split
  · next hscribl => rw [hscribl]
  · rfl

/-- The tool reports on the grammar of a discovered library at its displayed path. -/
theorem report_display (hf : f ∈ Search.discover t paths) {arguments : Json}
    (hgrammar : Absent arguments "grammar")
    (hlibrary : arguments.member? "library_path" = some (.str f.path.display)) (l : Linker) :
    (report t paths arguments).run l =
      (.ok (((f.assayAt (Path.ofString f.path.display)).report t).run l).1,
        (((f.assayAt (Path.ofString f.path.display)).report t).run l).2) := by
  rw [run_report, assay_of_libraryPath hgrammar hlibrary, ofLibrary_display hf]

end Verify

namespace Listing

/-- **What is listed is verified where its path is displayed.** An entry of a library in the list reads back
with an identifier and a path, which are those of one discovered library. The tool that verifies a grammar
takes the path and reports on the grammar, for which the Scribl grammar has its own name. If the path of the
discovered library is UTF-8, the report is that of an assay of the discovered library itself, from any
libraries in memory, and no such assay fails for want of a file. -/
theorem verifies_what_is_listed (t : FileTree) (paths : List Path) {answer : ToolResult}
    {entries : List Json} {entry : Json} (hanswer : run t paths = .ok answer)
    (hparse : Json.parse? answer.text = some (.arr entries)) (hentry : entry ∈ entries)
    (hsource : entry.member? "source" = some (.str "library")) :
    ∃ f ∈ Search.discover t paths, ∃ path,
      entry.member? "id" = some (.str f.name) ∧ entry.member? "path" = some (.str path) ∧
      path = f.path.display ∧
      ∀ arguments : Json, Verify.Absent arguments "grammar" →
        arguments.member? "library_path" = some (.str path) →
        ∀ l, ∃ r m, (Verify.report t paths arguments).run l = (.ok r, m) ∧
          r.grammar = (if f.name = "scribl" then "Scribl" else f.name) ∧
          ((∃ text, f.path = Path.ofString text) →
            (f.assay.report t).run l = (r, m) ∧
              ∀ fault, f.assay.run t l = .error fault →
                ∀ words, fault.cause ≠ .noLibrary words) := by
  rw [parse?_text_run t paths hanswer] at hparse
  cases hparse
  obtain ⟨f, hf, htells⟩ := exists_found_of_mem t paths hentry hsource
  refine ⟨f, hf, f.path.display, htells.id, htells.path, rfl, ?_⟩
  intro arguments hgrammar hlibrary l
  refine ⟨_, _, Verify.report_display hf hgrammar hlibrary l, ?_, ?_⟩
  · rw [Assay.grammar_report, Search.Found.name_assayAt]
    rfl
  · intro hutf8
    have hspelled := Path.ofString_display_eq_iff.mpr hutf8
    rw [hspelled]
    refine ⟨rfl, ?_⟩
    intro fault hrun words
    obtain ⟨-, -, -, hfile⟩ := Search.exists_candidate_of_mem_discover hf
    exact Assay.cause_ne_noLibrary_of_isFile (f.loader_assayAt f.path) hfile hrun words

/-- A directory with the library of a grammar `x`. -/
def directoryOfX (dir : Name) : FileTree where
  workingDirectory := []
  programDirectory := ⟨[slash]⟩
  nodes :=
    [([dir], .directory), ([dir, fileOfX], .file 0 (.library libraryOfX))]
  written := 1

/-- A directory with a name that is UTF-8. -/
def readable : Name :=
  ⟨Text.Utf8.encode "grammars", by decide⟩

/-- A directory with a name that is not. -/
def unreadable : Name :=
  ⟨[0xFF], by decide⟩

/-- What is listed of the directory is the library. -/
theorem discover_directoryOfX {dir : Name} {path : Path}
    (h : Search.locate (directoryOfX dir) [⟨dir.bytes⟩] "x" = some path) {f : Search.Found}
    (hname : f.name = "x") :
    f ∈ Search.discover (directoryOfX dir) [⟨dir.bytes⟩] ↔ f = ⟨"x", path⟩ := by
  have hpaths : ∀ other ∈ [Path.mk dir.bytes], other.bytes ≠ [] := by
    intro other hother
    rw [List.mem_singleton.mp hother]
    exact dir.legal.1
  rw [Search.mem_discover_iff, hname,
    Search.find?_flatMap_inDirectory hpaths (by decide) (by decide), h, Option.map_some,
    Option.some.injEq, eq_comm]

theorem verifies_what_is_listed_readable :
    ∃ r m, (Verify.report (directoryOfX readable) [⟨readable.bytes⟩]
        (.obj [("library_path", .str "grammars/libtree-sitter-x.so")])).run Linker.start =
          (.ok r, m) ∧
      r.grammar = "x" ∧
      (Assay.report (directoryOfX readable)
        ⟨"x", .library "x" (Path.ofString "grammars/libtree-sitter-x.so"), none⟩).run Linker.start =
          (r, m) := by
  have hlocate : Search.locate (directoryOfX readable) [⟨readable.bytes⟩] "x" =
      some (Path.ofString "grammars/libtree-sitter-x.so") := by
    decide
  have hfound := (discover_directoryOfX hlocate rfl).mpr rfl
  obtain ⟨f, hf, path, hid, hpath, -, hreport⟩ := verifies_what_is_listed
    (directoryOfX readable) [⟨readable.bytes⟩] rfl (parse?_text_run _ _ rfl)
    (List.mem_append_right _ (List.mem_map_of_mem hfound)) rfl
  have hname : f.name = "x" := by
    rw [(tells_ofFound _).id] at hid
    simpa using hid.symm
  obtain rfl := (discover_directoryOfX hlocate hname).mp hf
  have hshown : path = "grammars/libtree-sitter-x.so" := by
    rw [(tells_ofFound _).path] at hpath
    simpa using hpath.symm
  subst hshown
  obtain ⟨r, m, hrun, hgrammar, hsame⟩ := hreport
    (.obj [("library_path", .str "grammars/libtree-sitter-x.so")]) (Or.inl rfl) rfl Linker.start
  exact ⟨r, m, hrun, hgrammar, (hsame ⟨_, rfl⟩).1⟩

/-- A listed library that the tool does not find where its path is displayed, for want of a file. An assay
of the discovered library itself does not fail for that. -/
theorem listed_not_found :
    (∃ entry ∈ entries (directoryOfX unreadable) [⟨unreadable.bytes⟩],
      entry.member? "source" = some (.str "library") ∧
        entry.member? "path" = some (.str "\ufffd/libtree-sitter-x.so")) ∧
    (∃ r, ((Verify.report (directoryOfX unreadable) [⟨unreadable.bytes⟩]
        (.obj [("library_path", .str "\ufffd/libtree-sitter-x.so")])).run Linker.start).1 =
          .ok r ∧
      r.error = some "Error loading x grammar: no library at \ufffd/libtree-sitter-x.so") ∧
    ∀ f ∈ Search.discover (directoryOfX unreadable) [⟨unreadable.bytes⟩], f.name = "x" →
      ∀ fault, f.assay.run (directoryOfX unreadable) Linker.start = .error fault →
        ∀ words, fault.cause ≠ .noLibrary words := by
  have hlocate : Search.locate (directoryOfX unreadable) [⟨unreadable.bytes⟩] "x" =
      some (Search.candidate ⟨unreadable.bytes⟩ "x") := by
    decide
  have hfound := (discover_directoryOfX hlocate rfl).mpr rfl
  have hshown : (Search.candidate ⟨unreadable.bytes⟩ "x").display =
      "\ufffd/libtree-sitter-x.so" := by
    have hfront : Text.Utf8.lossy [0xFF] = "\ufffd" := by
      simp [Text.Utf8.lossy, Text.Utf8.scan, Text.Utf8.lead?]
    have hpath : Search.candidate ⟨unreadable.bytes⟩ "x" =
        ⟨[0xFF] ++ slash :: Text.Utf8.encode (Library.fileName "x")⟩ := by
      decide
    rw [hpath, Path.display, Text.Utf8.lossy_append_slash, Text.Utf8.lossy_encode, hfront]
    decide
  refine ⟨⟨_, List.mem_append_right _ (List.mem_map_of_mem hfound), rfl, ?_⟩, ?_, ?_⟩
  · rw [(tells_ofFound _).path, hshown]
    rfl
  · have hmissing : (directoryOfX unreadable).isFile
        (Path.ofString "\ufffd/libtree-sitter-x.so") = false := by
      decide
    have hrun := Assay.run_of_lacks (l := Linker.start)
      (a := (Search.Found.mk "x" (Search.candidate ⟨unreadable.bytes⟩ "x")).assayAt
        (Path.ofString "\ufffd/libtree-sitter-x.so"))
      (Loader.Lacks.file "x" _ hmissing)
    have hpath : (Json.obj [("library_path", .str "\ufffd/libtree-sitter-x.so")]).member?
        "library_path" = some (.str (Search.candidate ⟨unreadable.bytes⟩ "x").display) := by
      rw [hshown]
      rfl
    have hreport := Verify.report_display hfound (Or.inl rfl) hpath Linker.start
    rw [hshown] at hreport
    rw [hreport]
    refine ⟨_, rfl, ?_⟩
    rw [(Assay.tellsFault_report hrun).error, Path.display_ofString]
    decide
  · intro f hf hname fault hrun words
    obtain ⟨-, -, -, hfile⟩ := Search.exists_candidate_of_mem_discover hf
    exact Assay.cause_ne_noLibrary_of_isFile (f.loader_assayAt f.path) hfile hrun words

end Listing
end GrammarAssay
