import GrammarAssay.Settings

/-!
# Search paths in their order

**Input.** An environment: any bytes in the variable that lists directories, or none, and any directories of
the user and of the executable.

**Algorithm.** The list is cut at its colons, and empty pieces are dropped. Behind what is left stand three
directories, each spelled below a base directory with a slash between the two, unless the base directory is
empty or brings the slash along.

**Results.**
* `cut_iff_splitOn_eq`: the pieces of a list are those that the cutting gives.
* `bytes_below`: how a path below a directory is spelled.
* `isDataDirectory_iff`: which directory holds the user's data.
* `searchPaths_in_order`: the search paths, and what of the list is in them.
-/

namespace GrammarAssay

open Text.Utf8 (encode)

section Lists

variable {value : Bytes} {pieces : List Bytes}

/-- The pieces of a list between its colons. -/
inductive Cut : Bytes → List Bytes → Prop
  | whole {piece : Bytes} : colon ∉ piece → Cut piece [piece]
  | more {piece rest : Bytes} {pieces : List Bytes} :
      colon ∉ piece → Cut rest pieces → Cut (piece ++ colon :: rest) (piece :: pieces)

/-- A byte that is not a colon belongs to the first piece. -/
theorem Cut.cons {b : UInt8} (hb : b ≠ colon) (h : Cut value pieces) :
    Cut (b :: value) (pieces.modifyHead (List.cons b)) := by
  cases h with
  | whole hpiece => exact .whole (List.not_mem_cons_of_ne_of_not_mem hb.symm hpiece)
  | @more piece _ _ hpiece hrest =>
      have hcons : colon ∉ b :: piece := List.not_mem_cons_of_ne_of_not_mem hb.symm hpiece
      exact .more hcons hrest

theorem cut_splitOn (value : Bytes) : Cut value (value.splitOn colon) := by
  induction value with
  | nil => exact .whole List.not_mem_nil
  | cons b value ih =>
      rw [List.splitOn_cons_eq_if_modifyHead]
      by_cases hb : b = colon
      · rw [if_pos (beq_iff_eq.mpr hb), hb]
        exact .more List.not_mem_nil ih
      · rw [if_neg (mt beq_iff_eq.mp hb)]
        exact ih.cons hb

theorem Cut.splitOn_eq (h : Cut value pieces) : value.splitOn colon = pieces := by
  induction h with
  | whole hpiece => exact List.splitOn_eq_singleton hpiece
  | more hpiece hrest ih =>
      rw [List.splitOn_append_cons_self, List.splitOn_eq_singleton hpiece, ih, List.singleton_append]

/-- A list has one way to be cut. -/
theorem cut_iff_splitOn_eq : Cut value pieces ↔ value.splitOn colon = pieces := by
  constructor
  · exact Cut.splitOn_eq
  · rintro rfl
    exact cut_splitOn value

/-- Pieces with colons between them are cut apart again. -/
theorem cut_intercalate (hpieces : pieces ≠ []) (hcolon : ∀ piece ∈ pieces, colon ∉ piece) :
    Cut ([colon].intercalate pieces) pieces :=
  cut_iff_splitOn_eq.mpr (List.splitOn_intercalate colon hcolon hpieces)

end Lists

namespace Path

/-- The spelling of a directory in front of what is below it. -/
def slashed (dir : Path) : Bytes :=
  if dir.bytes = [] ∨ dir.bytes.getLast? = some slash then dir.bytes else dir.bytes ++ [slash]

theorem join_eq_slashed (dir : Path) {p : Path} (hrelative : p.isAbsolute = false) :
    dir.join p = ⟨dir.slashed ++ p.bytes⟩ := by
  rw [join, if_neg (Bool.eq_false_iff.mp hrelative), slashed]
  simp only [Bool.or_eq_true, List.isEmpty_iff, beq_iff_eq]
  split
  · rfl
  · rw [List.append_assoc, List.singleton_append]

theorem isAbsolute_of_notMem {p : Path} (hslash : slash ∉ p.bytes) : p.isAbsolute = false := by
  cases hbytes : p.bytes with
  | nil => simp [isAbsolute, hbytes]
  | cons b rest =>
      rw [hbytes] at hslash
      have hne : b ≠ slash := (List.ne_of_not_mem_cons hslash).symm
      simpa [isAbsolute, hbytes] using hne

/-- A slash comes behind a path that is not empty and has none. -/
theorem slashed_join (dir : Path) {p : Path} (hne : p.bytes ≠ []) (hslash : slash ∉ p.bytes) :
    (dir.join p).slashed = dir.slashed ++ p.bytes ++ [slash] := by
  have hlast : (dir.slashed ++ p.bytes).getLast? ≠ some slash := by
    rw [List.getLast?_append, Option.or_eq_left_of_isSome (by simpa using hne)]
    intro hlast
    exact hslash (List.mem_of_getLast? hlast)
  rw [join_eq_slashed dir (isAbsolute_of_notMem hslash), slashed, if_neg]
  rintro (hempty | hslashed)
  · exact hne (List.append_eq_nil_iff.mp hempty).2
  · exact hlast hslashed

end Path

namespace Environment

section Directories

/-- A path below a directory is the directory and the names, with slashes between them. -/
theorem below_eq (dir : Path) (name : String) (names : List String)
    (hnames : ∀ n ∈ name :: names, encode n ≠ [] ∧ slash ∉ encode n) :
    below dir (name :: names) = ⟨dir.slashed ++ [slash].intercalate ((name :: names).map encode)⟩ := by
  induction names generalizing dir name with
  | nil =>
      obtain ⟨-, hslash⟩ := hnames name List.mem_cons_self
      rw [List.map_singleton, List.intercalate_singleton]
      exact Path.join_eq_slashed dir (p := .ofString name) (Path.isAbsolute_of_notMem hslash)
  | cons next names ih =>
      obtain ⟨⟨hne, hslash⟩, hnames⟩ := List.forall_mem_cons.mp hnames
      have hjoin : (dir.join (.ofString name)).slashed = dir.slashed ++ encode name ++ [slash] :=
        Path.slashed_join dir hne hslash
      have hbelow : below dir (name :: next :: names) =
          ⟨(dir.join (.ofString name)).slashed ++ [slash].intercalate ((next :: names).map encode)⟩ :=
        ih (dir.join (.ofString name)) next hnames
      rw [hjoin] at hbelow
      rw [List.map_cons, List.map_cons, List.intercalate_cons_cons, ← List.map_cons]
      simpa only [List.append_assoc] using hbelow

/-- The directory that holds the data of the user. -/
inductive IsDataDirectory (e : Environment) : Path → Prop
  | named {dir : Path} : e.dataHome = some dir → dir.bytes.head? = some slash → IsDataDirectory e dir
  | home : (∀ dir, e.dataHome = some dir → dir.bytes.head? ≠ some slash) →
      IsDataDirectory e ⟨e.home.slashed ++ encode ".local/share"⟩

theorem isDataDirectory_dataDirectory (e : Environment) : e.IsDataDirectory e.dataDirectory := by
  have hhome : below e.home [".local/share"] = ⟨e.home.slashed ++ encode ".local/share"⟩ :=
    Path.join_eq_slashed e.home (p := .ofString ".local/share") (by decide)
  unfold dataDirectory
  split
  · next dir hdir =>
      split
      · next habsolute => exact .named hdir (beq_iff_eq.mp habsolute)
      · next hrelative =>
          rw [hhome]
          refine .home ?_
          rintro dir' hdir' habsolute
          rw [hdir] at hdir'
          cases hdir'
          exact hrelative (beq_iff_eq.mpr habsolute)
  · next hnone =>
      rw [hhome]
      refine .home ?_
      intro dir hdir
      rw [hnone] at hdir
      cases hdir

/-- An environment has one such directory. -/
theorem IsDataDirectory.unique {e : Environment} {dir dir' : Path} (h : e.IsDataDirectory dir)
    (h' : e.IsDataDirectory dir') : dir = dir' := by
  cases h with
  | named hdir habsolute =>
      cases h' with
      | named hdir' _ =>
          rw [hdir] at hdir'
          cases hdir'
          rfl
      | home hrelative => exact absurd habsolute (hrelative _ hdir)
  | home hrelative =>
      cases h' with
      | named hdir' habsolute => exact absurd habsolute (hrelative _ hdir')
      | home _ => rfl

theorem isDataDirectory_iff {e : Environment} {dir : Path} :
    e.IsDataDirectory dir ↔ dir = e.dataDirectory := by
  constructor
  · intro h
    exact h.unique (isDataDirectory_dataDirectory e)
  · rintro rfl
    exact isDataDirectory_dataDirectory e

/-- The directories that are searched in every environment, from the one with the data of the user and the one
with the executable. -/
def lastPaths (data executable : Path) : List Path :=
  [⟨data.slashed ++ encode "scribl/grammars"⟩,
   ⟨executable.slashed ++ encode "grammars"⟩,
   ⟨executable.slashed ++ encode "../share/scribl/grammars"⟩]

theorem searchPaths_eq_append (e : Environment) :
    e.searchPaths =
      (e.grammarPath.map listed).getD [] ++ lastPaths e.dataDirectory e.executableDirectory := by
  unfold searchPaths lastPaths
  rw [below_eq _ _ _ (by decide), below_eq _ _ _ (by decide), below_eq _ _ _ (by decide)]
  rfl

end Directories

section SearchPaths

variable {value : Bytes} {pieces : List Bytes}

/-- The pieces that name a directory. -/
def naming (pieces : List Bytes) : List Bytes :=
  pieces.filter fun piece => !piece.isEmpty

theorem listed_of_cut (h : Cut value pieces) : listed value = (naming pieces).map Path.mk := by
  rw [listed, h.splitOn_eq, naming]

/-- Directories that are written one behind the other with colons between them are listed. -/
theorem listed_intercalate {dirs : List Path} (hne : ∀ dir ∈ dirs, dir.bytes ≠ [])
    (hcolon : ∀ dir ∈ dirs, colon ∉ dir.bytes) :
    listed ([colon].intercalate (dirs.map Path.bytes)) = dirs := by
  have hnaming : naming (dirs.map Path.bytes) = dirs.map Path.bytes := by
    rw [naming, List.filter_eq_self, List.forall_mem_map]
    intro dir hdir
    simpa using hne dir hdir
  cases dirs with
  | nil => rfl
  | cons dir dirs =>
      have hcut : Cut ([colon].intercalate ((dir :: dirs).map Path.bytes))
          ((dir :: dirs).map Path.bytes) :=
        cut_intercalate (by simp) (List.forall_mem_map.mpr hcolon)
      rw [listed_of_cut hcut, hnaming, List.map_map]
      exact List.map_id _

/-- **Search paths in their order.** One directory holds the user's data. If no directories are listed, only
three are searched. If a list is given, it is cut into pieces in one way, and the search paths are its pieces
but for the empty ones, in their order, and then the same three. None of them is empty. Directories that are
not empty and without colons can be listed with colons between them, and then exactly they come first. -/
theorem searchPaths_in_order (e : Environment) :
    ∃ data, (∀ dir, e.IsDataDirectory dir ↔ dir = data) ∧
      (e.grammarPath = none → e.searchPaths = lastPaths data e.executableDirectory) ∧
      (∀ value, e.grammarPath = some value →
        ∃ pieces, (∀ others, Cut value others ↔ others = pieces) ∧
          e.searchPaths =
            (naming pieces).map Path.mk ++ lastPaths data e.executableDirectory ∧
          e.searchPaths.length = (naming pieces).length + 3) ∧
      (∀ dir ∈ e.searchPaths, dir.bytes ≠ []) ∧
      ∀ dirs : List Path, (∀ dir ∈ dirs, dir.bytes ≠ []) → (∀ dir ∈ dirs, colon ∉ dir.bytes) →
        { e with grammarPath := some ([colon].intercalate (dirs.map Path.bytes)) }.searchPaths =
          dirs ++ lastPaths data e.executableDirectory := by
  refine ⟨e.dataDirectory, fun dir => isDataDirectory_iff, ?_, ?_,
    fun dir => e.ne_nil_of_mem_searchPaths, ?_⟩
  · intro hnone
    rw [searchPaths_eq_append, hnone]
    rfl
  · intro value hvalue
    have hpaths : e.searchPaths = (naming (value.splitOn colon)).map Path.mk ++
        lastPaths e.dataDirectory e.executableDirectory := by
      rw [searchPaths_eq_append, hvalue, ← listed_of_cut (cut_splitOn value)]
      rfl
    refine ⟨value.splitOn colon, ?_, hpaths, ?_⟩
    · intro others
      rw [cut_iff_splitOn_eq, eq_comm]
    · rw [hpaths, List.length_append, List.length_map]
      rfl
  · intro dirs hne hcolon
    rw [searchPaths_eq_append]
    simp only [Option.map_some, Option.getD_some, listed_intercalate hne hcolon]
    rfl

/-- Colons in a row, a relative directory listed twice, a directory for data that is not absolute, and a slash
behind the home directory. -/
theorem searchPaths_in_order_doubled :
    (⟨some (encode "a::b/:a:"), some (.ofString "x"), .ofString "/h/", .ofString "/e"⟩ :
        Environment).searchPaths =
      [.ofString "a", .ofString "b/", .ofString "a", .ofString "/h/.local/share/scribl/grammars",
        .ofString "/e/grammars", .ofString "/e/../share/scribl/grammars"] := by
  obtain ⟨data, hdata, -, hlisted, -⟩ := searchPaths_in_order
    ⟨some (encode "a::b/:a:"), some (.ofString "x"), .ofString "/h/", .ofString "/e"⟩
  obtain ⟨pieces, hpieces, hpaths, -⟩ := hlisted _ rfl
  have hhome : .ofString "/h/.local/share" = data := by
    refine (hdata _).mp (.home ?_)
    rintro dir hdir
    cases hdir
    decide
  have hcut : ["a", "", "b/", "a", ""].map encode = pieces :=
    (hpieces _).mp (cut_iff_splitOn_eq.mpr (by decide))
  rw [hpaths, ← hhome, ← hcut]
  decide

end SearchPaths

end Environment
end GrammarAssay
