import GrammarAssay.Path
import GrammarAssay.Text.Utf8.RoundTrip

/-!
# Search paths from the environment

**Input.** The environment of a run: two variables that may be unset, the home directory, and the
directory of the executable.

**Results.**
* `Environment.searchPaths`: the directories in which libraries are looked for. First come the
  pieces between the colons of the variable, then the directory of the user's data, then two
  directories near the executable.
* `ne_nil_of_mem_searchPaths`: none of them is the empty path.
-/

namespace GrammarAssay

/-- What a run finds in its environment. -/
structure Environment where
  grammarPath : Option Bytes
  dataHome : Option Path
  home : Path
  executableDirectory : Path
deriving DecidableEq

namespace Environment

/-- The directories of a list; empty pieces name none. -/
def listed (value : Bytes) : List Path :=
  ((value.splitOn colon).filter fun piece => !piece.isEmpty).map Path.mk

/-- The path below a directory along names. -/
def below (dir : Path) (names : List String) : Path :=
  names.foldl (fun p n => p.join (Path.ofString n)) dir

/-- The directory of the user's data: the variable if it is absolute, else a place in the home
directory. -/
def dataDirectory (e : Environment) : Path :=
  match e.dataHome with
  | some p => if p.isAbsolute then p else below e.home [".local/share"]
  | none => below e.home [".local/share"]

/-- The directories in which libraries are looked for, the first of which counts most. -/
def searchPaths (e : Environment) : List Path :=
  (e.grammarPath.map listed).getD [] ++
    [below e.dataDirectory ["scribl", "grammars"],
     below e.executableDirectory ["grammars"],
     below e.executableDirectory ["..", "share", "scribl", "grammars"]]

/-- A path below a directory is not empty. -/
theorem below_ne_nil (dir : Path) (front : List String) {name : String} (hname : name ≠ "") :
    (below dir (front ++ [name])).bytes ≠ [] := by
  have hbytes : (Path.ofString name).bytes ≠ [] := by
    intro heq
    exact hname (Text.Utf8.encode_injective heq)
  rw [below, List.foldl_append, List.foldl_cons, List.foldl_nil]
  unfold Path.join
  split
  · exact hbytes
  · split
    · exact List.append_ne_nil_of_right_ne_nil _ hbytes
    · simp

/-- None of the directories is the empty path. -/
theorem ne_nil_of_mem_searchPaths (e : Environment) {dir : Path} (h : dir ∈ e.searchPaths) :
    dir.bytes ≠ [] := by
  rcases List.mem_append.mp h with hlisted | hfixed
  · cases hvalue : e.grammarPath with
    | none =>
        simp [hvalue] at hlisted
    | some value =>
        simp only [hvalue, Option.map_some, Option.getD_some, listed, List.mem_map,
          List.mem_filter] at hlisted
        obtain ⟨piece, ⟨_, hpiece⟩, rfl⟩ := hlisted
        intro heq
        change piece = [] at heq
        simp [heq] at hpiece
  · simp only [List.mem_cons, List.not_mem_nil, or_false] at hfixed
    rcases hfixed with rfl | rfl | rfl
    · exact below_ne_nil _ ["scribl"] (by decide)
    · exact below_ne_nil _ [] (by decide)
    · exact below_ne_nil _ ["..", "share", "scribl"] (by decide)

end Environment
end GrammarAssay
