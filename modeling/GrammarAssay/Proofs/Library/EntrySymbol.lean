import GrammarAssay.Proofs.Linker.Described
import Mathlib.Data.List.Forall2

/-!
# Names with one entry point

**Input.** The names of two grammars, and a file that is opened as the library of the one and of the other.

**Algorithm.** The name of an entry point is that of the grammar with an underscore for every hyphen. Opening a
library uses the name of the grammar for nothing else. So names are confused exactly if they agree up to hyphens
and underscores, and under any other name the entry point is missed.

**Results.**
* `Library.Agree`: names with the same characters, up to hyphens and underscores.
* `entrySymbol_eq_iff`: two grammars have one entry point exactly if their names agree.
* `openAt_congr`: a library opens alike for names that agree.
* `opened_of_exportsExactly`: a library with the entry point of one grammar lacks that of another.
* `agreeing_names_open_alike`: which names open a library alike.
-/

namespace GrammarAssay
namespace Library

section Names

variable {c d : Char} {name name' : String}

/-- One character, or a hyphen or an underscore on each side. -/
def Merges (c d : Char) : Prop :=
  c = d ∨ (c = '-' ∨ c = '_') ∧ (d = '-' ∨ d = '_')

instance (c d : Char) : Decidable (Merges c d) :=
  inferInstanceAs (Decidable (c = d ∨ (c = '-' ∨ c = '_') ∧ (d = '-' ∨ d = '_')))

/-- Names of one length that have the same character at every place, or a hyphen or an underscore each. -/
def Agree (name name' : String) : Prop :=
  List.Forall₂ Merges name.toList name'.toList

instance (name name' : String) : Decidable (Agree name name') :=
  inferInstanceAs (Decidable (List.Forall₂ Merges name.toList name'.toList))

/-- A character, with an underscore for the hyphen. -/
def underscore (c : Char) : Char :=
  if c = '-' then '_' else c

/-- A name, with an underscore for every hyphen. -/
def underscored (name : String) : String :=
  String.ofList (name.toList.map underscore)

theorem toList_underscored (name : String) :
    (underscored name).toList = name.toList.map underscore := by
  rw [underscored, String.toList_ofList]

theorem entrySymbol_eq_append (name : String) :
    entrySymbol name = "tree_sitter_" ++ underscored name := by
  rfl

/-- Two characters are written alike exactly if they are merged. -/
theorem underscore_eq_iff : underscore c = underscore d ↔ Merges c d := by
  unfold underscore Merges
  by_cases hc : c = '-'
  · by_cases hd : d = '-'
    · simp [hc, hd]
    · simp [hc, hd, eq_comm]
  · by_cases hd : d = '-'
    · simp [hc, hd]
    · simp only [hc, hd, if_false, false_or]
      constructor
      · exact Or.inl
      · rintro (h | ⟨rfl, rfl⟩)
        · exact h
        · rfl

theorem underscore_ne_hyphen (c : Char) : underscore c ≠ '-' := by
  unfold underscore
  split
  · decide
  · assumption

/-- Two grammars have one entry point exactly if their names agree. -/
theorem entrySymbol_eq_iff : entrySymbol name = entrySymbol name' ↔ Agree name name' := by
  rw [entrySymbol_eq_append, entrySymbol_eq_append, String.append_right_inj, underscored, underscored,
    String.ofList_inj, ← List.forall₂_eq_eq_eq, List.forall₂_map_left_iff, List.forall₂_map_right_iff]
  simp only [underscore_eq_iff]
  rfl

/-- The characters of the name of an entry point. -/
theorem mem_entrySymbol_iff :
    d ∈ (entrySymbol name).toList ↔
      d ∈ "tree_sitter_".toList ∨ ∃ c ∈ name.toList, underscore c = d := by
  rw [entrySymbol_eq_append, String.toList_append, List.mem_append, toList_underscored, List.mem_map]

theorem hyphen_notMem_entrySymbol (name : String) : '-' ∉ (entrySymbol name).toList := by
  rw [mem_entrySymbol_iff]
  rintro (hopening | ⟨c, -, hc⟩)
  · exact absurd hopening (by decide)
  · exact underscore_ne_hyphen c hc

/-- Writing the hyphens as underscores beforehand makes no difference. -/
theorem entrySymbol_underscored (name : String) : entrySymbol (underscored name) = entrySymbol name := by
  have hagain : underscore ∘ underscore = underscore := by
    funext c
    rw [Function.comp_apply, underscore, if_neg (underscore_ne_hyphen c)]
  rw [entrySymbol_eq_append, entrySymbol_eq_append, underscored, toList_underscored, List.map_map, hagain]
  rfl

/-- A name without a NUL is compared as a whole. -/
theorem soughtSymbol?_of_notMem {symbol : String} (h : '\x00' ∉ symbol.toList) :
    soughtSymbol? symbol = some symbol := by
  have hlast : symbol.toList.getLast? ≠ some '\x00' := by
    intro hnul
    exact h (List.mem_of_getLast? hnul)
  simp [soughtSymbol?, hlast, h]

theorem nul_notMem_entrySymbol (h : '\x00' ∉ name.toList) : '\x00' ∉ (entrySymbol name).toList := by
  rw [mem_entrySymbol_iff]
  rintro (hopening | ⟨c, hc, hnul⟩)
  · exact absurd hopening (by decide)
  · have hsame : underscore c = underscore '\x00' := hnul
    rcases underscore_eq_iff.mp hsame with rfl | ⟨-, hmerged⟩
    · exact h hc
    · exact absurd hmerged (by decide)

end Names

end Library

/-- Is a symbol the only entry point that a lookup in a loaded library finds, in the library or in those that it
needs? They may define other names, which are those of no entry point. -/
def Linker.ExportsExactly (l : Linker) (number : Nat) (symbol : String) : Prop :=
  ∀ name : String,
    (l.define? (((l.module? number).map Module.scope).getD [])
      (Text.Utf8.encode (Library.entrySymbol name)) false).isSome = true ↔
        Library.entrySymbol name = symbol

namespace Library

section Opening

variable {t : FileTree} {grammar name name' symbol : String} {path : Path} {l m : Linker} {number : Nat}
  {lib : Library}

/-- How it ends to open a library for a grammar that is shown under a name, and the libraries in memory
then. -/
def opened (t : FileTree) (grammar name : String) (path : Path) (l : Linker) :
    Except Fault EntryPoint × Linker :=
  (((openAt t name path).outcome l).1.mapError (Fault.mk grammar), ((openAt t name path).outcome l).2)

/-- A library opens alike for names that agree. -/
theorem openAt_congr (h : Agree name name') : openAt t name path = openAt t name' path := by
  unfold openAt
  rw [entrySymbol_eq_iff.mpr h]

/-- What a loaded library does not export is not found. -/
theorem lookEntry_of_exportsExactly (hexports : l.ExportsExactly number symbol)
    (hnul : '\x00' ∉ name.toList) (hne : entrySymbol name ≠ symbol) :
    lookEntry l number (entrySymbol name) = (none, l) := by
  have hnone : l.define? (((l.module? number).map Module.scope).getD [])
      (Text.Utf8.encode (entrySymbol name)) false = none := by
    rw [← Option.not_isSome_iff_eq_none, hexports]
    exact hne
  rw [lookEntry, soughtSymbol?_of_notMem (nul_notMem_entrySymbol hnul)]
  dsimp only
  rw [Linker.lookIn, Linker.look, hnone]

/-- A library with nothing but the entry point of one grammar lacks that of a grammar whose name does not
agree. -/
theorem opened_of_exportsExactly (hfile : t.isFile path = true)
    (hload : l.load t path = (.ok number, m)) (hexports : m.ExportsExactly number (entrySymbol name))
    (hnul : '\x00' ∉ name'.toList) (hdiffer : ¬ Agree name name') :
    opened t grammar name' path l = (.error ⟨grammar, .noEntryPoint (entrySymbol name')⟩, m) := by
  have hne : entrySymbol name' ≠ entrySymbol name := by
    intro heq
    exact hdiffer (entrySymbol_eq_iff.mp heq.symm)
  have hlook := lookEntry_of_exportsExactly hexports hnul hne
  unfold opened
  rw [outcome_openAt, if_pos hfile, hload]
  simp only [hlook]
  rfl

/-- A loaded described library that is its own scope exports what its description says. -/
theorem exportsExactly_described {home : Module} (hmodule : l.module? number = some home)
    (hbody : home.body = .described lib) (hscope : home.scope = [number])
    (hexports : ∀ s, s ∈ lib.exports ↔ s = symbol) : l.ExportsExactly number symbol := by
  intro name
  rw [hmodule, Option.map_some, Option.getD_some, hscope, Linker.define?_described hmodule hbody,
    Option.isSome_map, List.isSome_idxOf?, hexports]

/-- How a program that has opened nothing opens a described library with one entry point. -/
theorem opened_start_described {file : Nat} (hpath : path.Plain)
    (hresolve : t.resolve path = .ok (.file file (.library lib)))
    (hexports : ∀ s, s ∈ lib.exports ↔ s = entrySymbol name) (hnul : '\x00' ∉ name'.toList) :
    (Agree name name' → ∃ e, (opened t grammar name' path Linker.start).1 = .ok e) ∧
    (¬ Agree name name' →
      (opened t grammar name' path Linker.start).1 =
        .error ⟨grammar, .noEntryPoint (entrySymbol name')⟩) := by
  have hfile : t.isFile path = true := by
    rw [FileTree.isFile, hresolve]
  have hload := Linker.load_start_described hpath hresolve
  have hmodule := Linker.module?_withDescribed t path ⟨path, file, .library lib⟩ lib
    Linker.numbered_start
  rw [Linker.opened_start] at hmodule
  constructor
  · intro hagree
    have hfound : lib.Exports (entrySymbol name') :=
      ⟨_, soughtSymbol?_of_notMem (nul_notMem_entrySymbol hnul),
        (hexports _).mpr (entrySymbol_eq_iff.mpr hagree).symm⟩
    obtain ⟨binding, hlook⟩ := (lookEntry_described hmodule rfl rfl _).1 hfound
    unfold opened
    rw [outcome_openAt, if_pos hfile, hload]
    simp only [hlook]
    exact ⟨_, rfl⟩
  · intro hdiffer
    have hexactly := exportsExactly_described hmodule rfl rfl hexports
    rw [opened_of_exportsExactly hfile hload hexactly hnul hdiffer]

end Opening

/-- **Which names open a library alike.** Two grammars have one entry point exactly if their names have one
length and the same character at every place, or a hyphen or an underscore each. No entry point has a hyphen in
its name, and it makes no difference to write the hyphens as underscores beforehand. Under names that agree, a
library opens alike, whatever is there and under whatever name the grammar is shown. A library with the entry
point of one grammar and no other, whatever else it and its needs define, is refused for a grammar whose name does
not agree and has no NUL, with the entry point that it lacks; a described library that exports nothing else is
opened or refused so. -/
theorem agreeing_names_open_alike :
    (∀ name name', entrySymbol name = entrySymbol name' ↔ Agree name name') ∧
    (∀ name, '-' ∉ (entrySymbol name).toList ∧ entrySymbol (underscored name) = entrySymbol name) ∧
    (∀ t grammar path l name name', Agree name name' →
      opened t grammar name path l = opened t grammar name' path l) ∧
    (∀ (t : FileTree) (grammar : String) (path : Path) (l m : Linker) (number : Nat)
        (name name' : String),
      t.isFile path = true → l.load t path = (.ok number, m) →
      m.ExportsExactly number (entrySymbol name) → '\x00' ∉ name'.toList → ¬ Agree name name' →
      (opened t grammar name' path l).1 = .error ⟨grammar, .noEntryPoint (entrySymbol name')⟩) ∧
    ∀ (t : FileTree) (grammar : String) (path : Path) (file : Nat) (lib : Library)
        (name name' : String),
      path.Plain → t.resolve path = .ok (.file file (.library lib)) →
      (∀ s, s ∈ lib.exports ↔ s = entrySymbol name) → '\x00' ∉ name'.toList →
      (Agree name name' → ∃ e, (opened t grammar name' path Linker.start).1 = .ok e) ∧
      (¬ Agree name name' →
        (opened t grammar name' path Linker.start).1 =
          .error ⟨grammar, .noEntryPoint (entrySymbol name')⟩) := by
  refine ⟨fun name name' => entrySymbol_eq_iff,
    fun name => ⟨hyphen_notMem_entrySymbol name, entrySymbol_underscored name⟩, ?_, ?_, ?_⟩
  · intro t grammar path l name name' hagree
    unfold opened
    rw [openAt_congr hagree]
  · intro t grammar path l m number name name' hfile hload hexports hnul hdiffer
    rw [opened_of_exportsExactly hfile hload hexports hnul hdiffer]
  · intro t grammar path file lib name name' hpath hresolve hexports hnul
    exact opened_start_described hpath hresolve hexports hnul

/-- The library of `c-sharp`, with its entry point alone. -/
def libraryOfCSharp : Library :=
  ⟨["tree_sitter_c_sharp"], Language.withRoot? 14 "compilation_unit" [] []⟩

theorem slash_notMem_cSharp : '/' ∉ "c-sharp".toList := by
  decide

/-- A root directory with that library. -/
def libraryOfCSharpAtRoot : FileTree where
  workingDirectory := []
  programDirectory := ⟨[slash]⟩
  nodes := [([nameOf "c-sharp" slash_notMem_cSharp], .file 0 (.library libraryOfCSharp))]
  written := 1

def pathOfCSharp : Path :=
  Path.ofString "/libtree-sitter-c-sharp.so"

theorem agreeing_names_open_alike_cSharp :
    entrySymbol "c-sharp" = "tree_sitter_c_sharp" ∧
    opened libraryOfCSharpAtRoot "C#" "c-sharp" pathOfCSharp Linker.start =
      opened libraryOfCSharpAtRoot "C#" "c_sharp" pathOfCSharp Linker.start ∧
    (∃ e, (opened libraryOfCSharpAtRoot "C#" "c_sharp" pathOfCSharp Linker.start).1 = .ok e) ∧
    (opened libraryOfCSharpAtRoot "C#" "c.sharp" pathOfCSharp Linker.start).1 =
      .error ⟨"C#", .noEntryPoint "tree_sitter_c.sharp"⟩ := by
  obtain ⟨-, -, halike, hexactly, hdescribed⟩ := agreeing_names_open_alike
  have hagree : Agree "c-sharp" "c_sharp" := by
    decide
  have hpath : pathOfCSharp.Plain := ⟨by decide, by decide, by decide⟩
  have hresolve : libraryOfCSharpAtRoot.resolve pathOfCSharp =
      .ok (.file 0 (.library libraryOfCSharp)) := by
    rfl
  have hexports : ∀ s, s ∈ libraryOfCSharp.exports ↔ s = entrySymbol "c-sharp" := by
    intro s
    exact List.mem_singleton
  have hload := Linker.load_start_described hpath hresolve
  have hmodule := Linker.module?_withDescribed libraryOfCSharpAtRoot pathOfCSharp
    ⟨pathOfCSharp, 0, .library libraryOfCSharp⟩ libraryOfCSharp Linker.numbered_start
  rw [Linker.opened_start] at hmodule
  refine ⟨rfl, halike _ _ _ _ _ _ hagree, ?_, ?_⟩
  · exact (hdescribed _ _ _ _ _ _ _ hpath hresolve hexports (by decide)).1 hagree
  · exact hexactly _ _ _ _ _ _ _ _ (by decide) hload
      (exportsExactly_described hmodule rfl rfl hexports) (by decide) (by decide)

end Library
end GrammarAssay
