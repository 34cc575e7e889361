import GrammarAssay.Path.Join
import GrammarAssay.Proofs.Linker.Described
import GrammarAssay.Proofs.Path.Display

/-!
# Spellings of the path of a library

**Input.** A relative path that leads to a regular file.

**Algorithm.** Whether there is a file is asked of the path as it is. With a slash, the path that is loaded is
the same, unless it has a dollar sign. So a `.` in front of it changes nothing but the words. Without a slash,
it is a name that is looked for in the directories of the system, and what stands under it in the working
directory counts for nothing.

**Results.**
* `resolve_here_join`: a `.` in front of a path does not lead elsewhere.
* `outcome_loadAt_start_fault`: how it ends for a file whose header is wrong.
* `opens_checked_file`: with a slash and without a dollar sign, the file is found whose existence was checked.
* `outcome_loadAt_start_bare`, `bare_name_not_opened`: without a slash, it is not.
-/

namespace GrammarAssay

/-- The directory in which a program works, as a path. -/
def Path.here : Path :=
  ⟨[dot]⟩

section Here

variable {t : FileTree} {p : Path}

theorem Path.here_join (hrelative : p.isAbsolute = false) :
    here.join p = ⟨dot :: slash :: p.bytes⟩ := by
  rw [join, hrelative]
  rfl

/-- A `.` in front of a path does not lead elsewhere. -/
theorem FileTree.resolve_here_join (hrelative : p.isAbsolute = false) (hne : p.bytes ≠ [])
    (hlength : p.bytes.length ≤ 4093) : t.resolve (Path.here.join p) = t.resolve p := by
  have hsteps : Path.steps ⟨dot :: slash :: p.bytes⟩ = .stay :: p.steps := by
    have hpieces := Path.pieces_append [dot] p.bytes
    rw [List.singleton_append] at hpieces
    rw [Path.steps, hpieces, List.map_append]
    rfl
  have hstart : startOf t.workingDirectory ⟨dot :: slash :: p.bytes⟩ =
      startOf t.workingDirectory p := by
    rw [startOf, startOf, hrelative]
    rfl
  have hempty : p.bytes.isEmpty = false := List.isEmpty_eq_false_iff.mpr hne
  have hshort : ¬ maxPathLength < p.bytes.length := by
    unfold maxPathLength
    omega
  have hshort' : ¬ maxPathLength < (dot :: slash :: p.bytes).length := by
    unfold maxPathLength
    simp only [List.length_cons]
    omega
  rw [Path.here_join hrelative, resolve, resolve, hempty, if_neg hshort', if_neg hshort, hsteps,
    hstart]
  rfl

end Here

namespace Linker

variable {t : FileTree} {p : Path} {number : Nat} {content : Content}

/-- A relative path with a slash is none. -/
theorem notMem_startNames (hrelative : p.isAbsolute = false)
    (hslash : p.bytes.contains slash = true) : p ∉ Platform.startNames := by
  have hstart : ∀ name ∈ Platform.startNames,
      name.isAbsolute = true ∨ name.bytes.contains slash = false := by
    decide
  intro hmem
  rcases hstart p hmem with h | h
  · rw [hrelative] at h
    cases h
  · rw [hslash] at h
    cases h

/-- The reason for which a file is refused whose header is wrong. -/
def headerReason : ImageFault → String
  | .wordSize => ImageFault.wordSize.reason
  | .machine => "cannot open shared object file: " ++ Obstacle.missing.reason
  | e => e.reason

theorem findPath_of_fault (user : Module) (hdollar : Path.dollar ∉ p.bytes) {bytes : Filler}
    (hresolve : t.resolve p = .ok (.file number (.filler bytes))) {e : ImageFault}
    (hfault : Header.fault? bytes = some e) :
    findPath t user p = .error (refusal p (headerReason e)) := by
  rw [findPath_of_resolve user hdollar hresolve, checkHeader, hfault]
  cases e <;> rfl

end Linker

/-- What is not loaded does not open. -/
theorem Loader.outcome_loadAt_of_load {t : FileTree} {p : Path} {l : Linker} {words : String}
    (hfile : t.isFile p = true) (hload : (l.load t p).1 = .error words) (name : String) :
    ((loadAt t name p).outcome l).1 = .error (.unopenable p.display words) := by
  rw [outcome_loadAt, Library.outcome_openAt, if_pos hfile]
  rcases hend : l.load t p with ⟨words' | opened, m⟩
  · rw [hend] at hload
    cases hload
    rfl
  · rw [hend] at hload
    cases hload

/-- Do two attempts to get at an entry point, at two paths, end alike but for the paths in the words? -/
inductive EndAlike (p q : Path) : Except Cause Artifact → Except Cause Artifact → Prop
  | ok (artifact : Artifact) :
      EndAlike p q (.ok artifact) (.ok artifact)
  | unopenable (reason : String) :
      EndAlike p q (.error (.unopenable p.display (Linker.refusal p reason)))
        (.error (.unopenable q.display (Linker.refusal q reason)))
  | noEntryPoint (symbol : String) :
      EndAlike p q (.error (.noEntryPoint symbol)) (.error (.noEntryPoint symbol))

section Opening

variable {t : FileTree} {p q : Path} {number : Nat} {content : Content}

/-- How it fails to get at a file whose header is wrong. -/
theorem Loader.outcome_loadAt_start_fault {bytes : Filler} (hp : p.Plain)
    (hresolve : t.resolve p = .ok (.file number (.filler bytes))) {e : ImageFault}
    (hfault : Header.fault? bytes = some e) (name : String) :
    ((loadAt t name p).outcome Linker.start).1 =
      .error (.unopenable p.display (Linker.refusal p (Linker.headerReason e))) := by
  have hfile : t.isFile p = true := by
    rw [FileTree.isFile, hresolve]
  have hfind : (Linker.find t Linker.program p).run Linker.start =
      (.error (Linker.refusal p (Linker.headerReason e)), Linker.start) := by
    rw [Linker.find, if_pos hp.slash,
      Linker.findPath_of_fault Linker.program hp.dollar hresolve hfault]
    rfl
  exact outcome_loadAt_of_load hfile
    (congrArg Prod.fst (Linker.load_of_find_eq_error (Linker.named?_start hp.unknown) hfind)) name

theorem Path.Plain.here_join (hp : p.Plain) (hrelative : p.isAbsolute = false) :
    (here.join p).Plain := by
  rw [Path.here_join hrelative]
  refine ⟨rfl, ?_, Linker.notMem_startNames rfl rfl⟩
  simp only [List.mem_cons, not_or]
  exact ⟨by decide, by decide, hp.dollar⟩

/-- A file whose header is right is found under its path. -/
theorem Linker.run_find_of_header (hp : p.Plain) {bytes : Filler}
    (hresolve : t.resolve p = .ok (.file number (.filler bytes)))
    (hheader : Header.fault? bytes = none) :
    (find t program p).run start = (.ok ⟨p, number, .filler bytes⟩, start) := by
  rw [find, if_pos hp.slash, findPath_of_resolve program hp.dollar hresolve, checkHeader, hheader]
  rfl

/-- **With a slash, the file is opened whose existence was checked.** A relative path with a slash, without a
dollar sign and not too long, and the path with a `.` in front of it, lead to one file. Where a program that has
opened nothing looks for a compiled library with a right header, it finds that file for both. If the file holds a
described library, or is refused for its header, both end alike but for the paths in the words, and a described
library that exports the entry point delivers its language. -/
theorem opens_checked_file (hp : p.Plain) (hrelative : p.isAbsolute = false)
    (hlength : p.bytes.length ≤ 4093) (hresolve : t.resolve p = .ok (.file number content))
    (name : String) :
    t.isFile p = true ∧ t.resolve (Path.here.join p) = .ok (.file number content) ∧
    (∀ bytes, content = .filler bytes → Header.fault? bytes = none →
      (Linker.find t Linker.program p).run Linker.start =
          (.ok ⟨p, number, content⟩, Linker.start) ∧
        (Linker.find t Linker.program (Path.here.join p)).run Linker.start =
          (.ok ⟨Path.here.join p, number, content⟩, Linker.start)) ∧
    ((∀ bytes, content = .filler bytes → Header.fault? bytes ≠ none) →
      EndAlike p (Path.here.join p) ((Loader.loadAt t name p).outcome Linker.start).1
        ((Loader.loadAt t name (Path.here.join p)).outcome Linker.start).1) ∧
    ∀ lib, content = .library lib → lib.Exports (Library.entrySymbol name) →
      ((Loader.loadAt t name p).outcome Linker.start).1 =
        .ok ⟨lib.entry.map .written, some 1⟩ := by
  have hne : p.bytes ≠ [] := by
    intro hnil
    have hslash := hp.slash
    rw [hnil] at hslash
    cases hslash
  have hresolve' : t.resolve (Path.here.join p) = .ok (.file number content) := by
    rw [FileTree.resolve_here_join hrelative hne hlength, hresolve]
  have hq := hp.here_join hrelative
  refine ⟨by rw [FileTree.isFile, hresolve], hresolve', ?_, ?_, ?_⟩
  · rintro bytes rfl hheader
    exact ⟨Linker.run_find_of_header hp hresolve hheader,
      Linker.run_find_of_header hq hresolve' hheader⟩
  · intro hrefused
    cases content with
    | library lib =>
        obtain ⟨hexported, hmissing⟩ := Loader.outcome_loadAt_start_described hp hresolve name
        obtain ⟨hexported', hmissing'⟩ := Loader.outcome_loadAt_start_described hq hresolve' name
        by_cases hexports : lib.Exports (Library.entrySymbol name)
        · rw [hexported hexports, hexported' hexports]
          exact EndAlike.ok _
        · rw [hmissing hexports, hmissing' hexports]
          exact EndAlike.noEntryPoint _
    | filler bytes =>
        obtain ⟨e, hfault⟩ := Option.ne_none_iff_exists'.mp (hrefused bytes rfl)
        rw [Loader.outcome_loadAt_start_fault hp hresolve hfault,
          Loader.outcome_loadAt_start_fault hq hresolve' hfault]
        exact EndAlike.unopenable _
  · rintro lib rfl hexports
    rw [(Loader.outcome_loadAt_start_described hp hresolve name).1 hexports]

/-- A directory that has the library of `x`. -/
def below : Name :=
  ⟨Text.Utf8.encode "below", by decide⟩

/-- A working directory with the library of `x`, and with a directory that has it too. -/
def libraryHereAndBelow : FileTree where
  workingDirectory := []
  programDirectory := ⟨[slash]⟩
  nodes :=
    [([fileOfX], .file 0 (.library libraryOfX)), ([below], .directory),
     ([below, fileOfX], .file 1 (.library libraryOfX))]
  written := 2

/-- The path of the library in the working directory, without a slash. -/
def pathHere : Path :=
  Path.ofString "libtree-sitter-x.so"

/-- The path of the library below it. -/
def pathBelow : Path :=
  Path.ofString "below/libtree-sitter-x.so"

theorem opens_checked_file_below :
    EndAlike pathBelow (Path.here.join pathBelow)
        ((Loader.loadAt libraryHereAndBelow "x" pathBelow).outcome Linker.start).1
        ((Loader.loadAt libraryHereAndBelow "x" (Path.here.join pathBelow)).outcome Linker.start).1 ∧
      ((Loader.loadAt libraryHereAndBelow "x" pathBelow).outcome Linker.start).1 =
        .ok ⟨libraryOfX.entry.map .written, some 1⟩ := by
  have hplain : pathBelow.Plain := ⟨by decide, by decide, by decide⟩
  have hresolve : libraryHereAndBelow.resolve pathBelow = .ok (.file 1 (.library libraryOfX)) := by
    rfl
  obtain ⟨-, -, -, halike, hopens⟩ := opens_checked_file hplain (by decide) (by decide)
    hresolve "x"
  refine ⟨halike ?_, hopens _ rfl exports_libraryOfX⟩
  rintro bytes ⟨⟩

end Opening

section Bare

variable {t : FileTree} {p : Path}

/-- Is a file with a bare name in none of the places in which the system looks for it? -/
def Trail.Nowhere (t : FileTree) (p : Path) (directories : List Path) : Prop :=
  ∀ directory ∈ directories, ∀ place ∈ Linker.places directory,
    ∃ o, Linker.openFile t ⟨place.bytes ++ p.bytes⟩ = .error (.obstacle o)

namespace Trail

theorem result_note (r : Trail) (place : Path) (o : Obstacle) :
    (r.note t place o).result = r.result := by
  unfold note
  dsimp only
  split
  · split <;> rfl
  · rfl

theorem result_tryPlace {r : Trail} {place : Path}
    (hplace : ∃ o, Linker.openFile t ⟨place.bytes ++ p.bytes⟩ = .error (.obstacle o))
    (hr : r.result = none) : (r.tryPlace t p place).result = none := by
  obtain ⟨o, ho⟩ := hplace
  unfold tryPlace
  split
  · exact hr
  · rw [ho]
    exact (result_note r place o).trans hr

theorem result_tryDirectory {r : Trail} {directory : Path}
    (hplaces : ∀ place ∈ Linker.places directory,
      ∃ o, Linker.openFile t ⟨place.bytes ++ p.bytes⟩ = .error (.obstacle o))
    (hr : r.result = none) : (r.tryDirectory t p directory).result = none := by
  unfold tryDirectory
  generalize Linker.places directory = places at hplaces
  induction places generalizing r with
  | nil => exact hr
  | cons place rest ih =>
      refine ih (result_tryPlace (hplaces place List.mem_cons_self) hr) ?_
      exact fun other hother => hplaces other (List.mem_cons_of_mem place hother)

/-- A search finds nothing where there is nothing. -/
theorem result_follow {r : Trail} {directories : List Path} (hnowhere : Nowhere t p directories)
    (hr : r.result = none) : (follow t p r directories).result = none := by
  induction directories generalizing r with
  | nil => exact hr
  | cons directory rest ih =>
      have hhere := result_tryDirectory (hnowhere directory List.mem_cons_self) hr
      have hrest : Nowhere t p rest := fun other hother =>
        hnowhere other (List.mem_cons_of_mem directory hother)
      have hgoes : ¬ r.result.isSome = true := by
        rw [hr]
        exact Bool.false_ne_true
      rw [follow, if_neg hgoes]
      dsimp only
      split
      · exact hhere
      · exact ih hrest hhere

end Trail

/-- A bare name that is nowhere in the system is not found. -/
theorem Linker.find_bare (hbare : p.bytes.contains slash = false)
    (hnowhere : Trail.Nowhere t p Platform.directories) :
    ∃ words m, (find t program p).run start = (.error words, m) := by
  -- The program has no list of directories of its own, so only those of the system are searched.
  have hlists : start.lists program = [[], [], Platform.directories] := by
    rfl
  have hresult : ((start.lists program).foldl (Trail.follow t p)
      (Trail.fresh start.missing)).result = none := by
    rw [hlists]
    exact Trail.result_follow hnowhere rfl
  generalize hr : (start.lists program).foldl (Trail.follow t p) (Trail.fresh start.missing) = r
  rw [hr] at hresult
  have hsettle : ∃ words, settle p r = .error words := by
    rw [settle, hresult]
    dsimp only
    split
    · exact ⟨_, rfl⟩
    · exact ⟨_, rfl⟩
  obtain ⟨words, hsettle⟩ := hsettle
  refine ⟨words, { start with missing := r.missing }, ?_⟩
  rw [find, hbare, if_neg Bool.false_ne_true, findBare, run_get_bind, hr]
  dsimp only
  rw [run_modify_bind, hsettle]
  rfl

/-- **Without a slash, the file is not opened whose existence was checked.** A bare name that is nowhere in the
system does not open, whatever stands under it in the working directory. -/
theorem Loader.outcome_loadAt_start_bare (hfile : t.isFile p = true)
    (hbare : p.bytes.contains slash = false) (hunknown : p ∉ Platform.startNames)
    (hnowhere : Trail.Nowhere t p Platform.directories) (name : String) :
    ∃ words, ((loadAt t name p).outcome Linker.start).1 =
      .error (.unopenable p.display words) := by
  obtain ⟨words, m, hfind⟩ := Linker.find_bare hbare hnowhere
  have hload := Linker.load_of_find_eq_error (Linker.named?_start hunknown) hfind
  exact ⟨words, outcome_loadAt_of_load hfile (congrArg Prod.fst hload) name⟩

/-- In the working directory, the file of a bare name exists and does not open, and it opens under the same name
behind a `.` and a slash. -/
theorem bare_name_not_opened :
    libraryHereAndBelow.isFile pathHere = true ∧
    (∃ words, ((Loader.loadAt libraryHereAndBelow "x" pathHere).outcome Linker.start).1 =
      .error (.unopenable "libtree-sitter-x.so" words)) ∧
    ((Loader.loadAt libraryHereAndBelow "x" (Path.here.join pathHere)).outcome Linker.start).1 =
      .ok ⟨libraryOfX.entry.map .written, some 1⟩ := by
  have hfile : libraryHereAndBelow.isFile pathHere = true := by
    decide
  have hnowhere : Trail.Nowhere libraryHereAndBelow pathHere Platform.directories := by
    have hmissing : ∀ directory ∈ Platform.directories, ∀ place ∈ Linker.places directory,
        libraryHereAndBelow.resolve ⟨place.bytes ++ pathHere.bytes⟩ = .error .missing := by
      decide
    intro directory hdirectory place hplace
    refine ⟨.missing, ?_⟩
    rw [Linker.openFile, hmissing directory hdirectory place hplace]
  refine ⟨hfile, ?_, ?_⟩
  · obtain ⟨words, hwords⟩ := Loader.outcome_loadAt_start_bare hfile (by decide) (by decide)
      hnowhere "x"
    refine ⟨words, ?_⟩
    rw [hwords, pathHere, Path.display_ofString]
  · have hplain : (Path.here.join pathHere).Plain := ⟨by decide, by decide, by decide⟩
    have hresolve : libraryHereAndBelow.resolve (Path.here.join pathHere) =
        .ok (.file 0 (.library libraryOfX)) := by
      rfl
    rw [(Loader.outcome_loadAt_start_described hplain hresolve "x").1 exports_libraryOfX]

end Bare
end GrammarAssay
