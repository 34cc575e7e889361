import GrammarAssay.Linker.Release
import GrammarAssay.Proofs.Linker.Described

/-!
# Programs that hold no library

**Input.** A program in whose memory there is nothing but the libraries that it was started with. It may have
opened others before, and taken them out again.

**Algorithm.** Such a program opens a described library as one does that has opened nothing: what it finds is
what the path leads to, and the library comes to those in memory under the next number. Described libraries need
nothing, stay for nobody and have nothing to run at their end. So they are taken out again when nothing holds
them, and the program is what it was, but for the number of the next library and the memory that is free.

**Results.**
* `Idle`: nothing is in memory but what the program was started with.
* `Light`: there are described libraries besides.
* `idle_release_of_light`: these go when nothing holds them.
* `release_eq_self`, `Idle.release_eq`: nothing changes where all libraries stay.
* `destination`: what a path leads to.
* `load_of_destination_eq_error`, `load_of_destination_eq_library`: how a path is loaded.
-/

namespace GrammarAssay
namespace Linker

variable {t : FileTree} {l m : Linker} {path : Path} {lib : Library}

/-- Nothing is in memory but what the program was started with. -/
structure Idle (l : Linker) : Prop where
  modules : l.modules = [program]
  unique : l.unique = []
  opened : 0 < l.opened

/-- Nothing is in memory but what the program was started with, and described libraries. -/
structure Light (l : Linker) : Prop where
  modules : ∃ others, l.modules = program :: others ∧
    ∀ m ∈ others, m.number ≠ 0 ∧ ∃ lib, m.body = .described lib
  unique : l.unique = []
  opened : 0 < l.opened

theorem idle_start : start.Idle :=
  ⟨rfl, rfl, Nat.zero_lt_one⟩

theorem Idle.light (h : l.Idle) : l.Light :=
  ⟨⟨[], h.modules, by simp⟩, h.unique, h.opened⟩

theorem Idle.numbered (h : l.Idle) : l.Numbered := by
  intro m hm
  rw [h.modules, List.mem_singleton] at hm
  rw [hm]
  exact h.opened

/-! ### Releasing -/

section Releasing

theorem Light.exists_described (h : l.Light) {m : Module} (hm : m ∈ l.modules) :
    ∃ lib, m.body = .described lib := by
  obtain ⟨others, hmodules, hothers⟩ := h.modules
  rw [hmodules, List.mem_cons] at hm
  rcases hm with rfl | hm
  · exact ⟨_, rfl⟩
  · exact (hothers m hm).2

theorem Light.module?_zero (h : l.Light) : l.module? 0 = some program := by
  obtain ⟨others, hmodules, -⟩ := h.modules
  rw [module?, hmodules]
  rfl

theorem Light.permanent_eq (h : l.Light) : l.permanent = [] := by
  have hnone : l.modules.filter Module.isPermanent = [] := by
    refine List.filter_eq_nil_iff.mpr ?_
    intro m hm
    obtain ⟨lib, hlib⟩ := h.exists_described hm
    simp [Module.isPermanent, hlib]
  rw [permanent, hnone, h.unique]
  rfl

/-- The program needs nothing, so it stays alone. -/
theorem Light.kept_eq (h : l.Light) : l.kept [] = [0] := by
  have hreach : ∀ bound, l.reach bound [0] = [0] := by
    intro bound
    induction bound with
    | zero => rfl
    | succ bound ih =>
        rw [reach]
        simp only [List.flatMap_singleton, h.module?_zero, Option.map_some, Option.getD_some]
        exact ih
  rw [kept, h.permanent_eq]
  exact hreach _

theorem finish_of_described {m : Module} (h : m.body = .described lib) : l.finish m = l := by
  rw [finish, Module.table?, h]

theorem foldl_finish {gone : List Module} (h : ∀ m ∈ gone, ∃ lib, m.body = .described lib) :
    gone.foldl finish l = l := by
  induction gone with
  | nil => rfl
  | cons m rest ih =>
      obtain ⟨lib, hlib⟩ := h m List.mem_cons_self
      rw [List.foldl_cons, finish_of_described hlib]
      exact ih fun other hother => h other (List.mem_cons_of_mem m hother)

/-- Described libraries go when nothing holds them. -/
theorem idle_release_of_light (h : l.Light) : (l.release []).Idle := by
  have hfinish : ∀ gone : List Nat, (gone.filterMap l.module?).foldl finish l = l := by
    intro gone
    refine foldl_finish ?_
    intro m hm
    obtain ⟨n, -, hmodule⟩ := List.mem_filterMap.mp hm
    exact h.exists_described (mem_of_module? hmodule).1
  rw [release, hfinish, h.kept_eq]
  obtain ⟨others, hmodules, hothers⟩ := h.modules
  refine ⟨?_, ?_, h.opened⟩
  · have hgone : others.filter (fun m => [0].contains m.number) = [] := by
      refine List.filter_eq_nil_iff.mpr ?_
      intro m hm
      simpa using (hothers m hm).1
    show l.modules.filter (fun m => [0].contains m.number) = [program]
    rw [hmodules, List.filter_cons, hgone]
    rfl
  · show l.unique.filter _ = []
    rw [h.unique]
    rfl

/-- Nothing changes when libraries are released and all of them stay. -/
theorem release_eq_self {held : List Nat} (hmodules : ∀ m ∈ l.modules, m.number ∈ l.kept held)
    (hunique : ∀ e ∈ l.unique, e.2.1 ∈ l.kept held) : l.release held = l := by
  have hgone : (l.releaseOrder.filter fun n => !(l.kept held).contains n).filterMap l.module? =
      [] := by
    refine List.filterMap_eq_nil_iff.mpr fun n hn => ?_
    refine Option.eq_none_iff_forall_ne_some.mpr fun m hm => ?_
    obtain ⟨hmem, rfl⟩ := mem_of_module? hm
    have hnot := (List.mem_filter.mp hn).2
    rw [List.contains_iff_mem.mpr (hmodules m hmem)] at hnot
    cases hnot
  have hall : (l.modules.filter fun m => (l.kept held).contains m.number) = l.modules :=
    List.filter_eq_self.mpr fun m hm => List.contains_iff_mem.mpr (hmodules m hm)
  have hnames : (l.unique.filter fun e => (l.kept held).contains e.2.1) = l.unique :=
    List.filter_eq_self.mpr fun e he => List.contains_iff_mem.mpr (hunique e he)
  have hnone : (l.modules.filter fun m => !(l.kept held).contains m.number) = [] := by
    refine List.filter_eq_nil_iff.mpr fun m hm => ?_
    rw [List.contains_iff_mem.mpr (hmodules m hm)]
    exact Bool.false_ne_true
  rw [release, hgone, List.foldl_nil, select, hall, hnames, hnone]
  rfl

/-- A program that holds no library stays as it is. -/
theorem Idle.release_eq (h : l.Idle) : l.release [] = l := by
  refine release_eq_self ?_ ?_
  · rw [h.modules, h.light.kept_eq]
    simp [program]
  · simp [h.unique]

end Releasing

/-! ### Loading -/

section Loading

/-- What a path leads to that a program asks for: the libraries that it was started with, or the file that is
found. -/
def destination (t : FileTree) (l : Linker) (path : Path) : Except String Content :=
  if path ∈ Platform.startNames then .ok (.library Platform.startLibrary)
  else ((find t program path).run l).1.map OpenedFile.content

/-- What a path with a slash leads to does not depend on what is in memory. -/
theorem destination_congr (hslash : path.bytes.contains slash = true) (l l' : Linker) :
    destination t l path = destination t l' path := by
  have hfind : ((find t program path).run l).1 = ((find t program path).run l').1 := by
    rw [find, if_pos hslash]
    cases findPath t program path <;> rfl
  rw [destination, destination, hfind]

theorem Idle.named?_of_mem (h : l.Idle) (hknown : path ∈ Platform.startNames) :
    l.named? path = some program := by
  simp [named?, h.modules, program, hknown]

theorem Idle.named?_of_notMem (h : l.Idle) (hunknown : path ∉ Platform.startNames) :
    l.named? path = none := by
  simp [named?, h.modules, program, hunknown]

theorem Idle.ofFile?_eq (h : l.Idle) (file : Nat) : l.ofFile? file = none := by
  simp [ofFile?, h.modules, program]

theorem Idle.module?_zero (h : l.Idle) : l.module? 0 = some program :=
  h.light.module?_zero

/-- A search leaves a program that holds no library as it is. -/
theorem Idle.of_find {user : Module} {result : Except String OpenedFile} (h : l.Idle)
    (hfind : (find t user path).run l = (result, m)) : m.Idle ∧ m.opened = l.opened := by
  obtain ⟨missing, rfl⟩ := exists_missing_of_find hfind
  exact ⟨⟨h.modules, h.unique, h.opened⟩, rfl⟩

theorem idle_select (h : l.Idle) {fits : Nat → Bool} (hfits : fits 0 = true) :
    (l.select fits).Idle where
  modules := by
    show l.modules.filter (fun m => fits m.number) = [program]
    rw [h.modules]
    simp [program, hfits]
  unique := by
    show l.unique.filter _ = []
    rw [h.unique]
    rfl
  opened := h.opened

theorem light_withDescribed (h : l.Idle) (path : Path) (f : OpenedFile) :
    (withDescribed t l path f lib).Light where
  modules := by
    refine ⟨[{ describedModule t l path f lib with scope := [l.opened] }], ?_, ?_⟩
    · show l.modules ++ _ = _
      rw [h.modules]
      rfl
    · intro m hm
      rw [List.mem_singleton.mp hm]
      exact ⟨Nat.ne_of_gt h.opened, lib, rfl⟩
  unique := h.unique
  opened := Nat.succ_pos _

/-- Nothing is loaded where a path leads to nothing. -/
theorem load_of_destination_eq_error (h : l.Idle) {words : String}
    (hpath : destination t l path = .error words) :
    ∃ m, l.load t path = (.error words, m) ∧ m.Idle := by
  unfold destination at hpath
  split at hpath
  · cases hpath
  · next hunknown =>
      rcases hfind : (find t program path).run l with ⟨words' | f, m⟩
      · rw [hfind] at hpath
        cases hpath
        obtain ⟨hidle, -⟩ := h.of_find hfind
        exact ⟨_, load_of_find_eq_error (h.named?_of_notMem hunknown) hfind,
          idle_select hidle (decide_eq_true h.opened)⟩
      · rw [hfind] at hpath
        cases hpath

/-- A described library is loaded where a path leads to one: it may be one that the program was started with. -/
theorem load_of_destination_eq_library (h : l.Idle)
    (hpath : destination t l path = .ok (.library lib)) :
    ∃ n m home, l.load t path = (.ok n, m) ∧ m.Light ∧ m.module? n = some home ∧
      home.body = .described lib ∧ home.scope = [n] := by
  unfold destination at hpath
  split at hpath
  · next hknown =>
      cases hpath
      exact ⟨0, l, program, load_of_named? (h.named?_of_mem hknown) h.module?_zero rfl, h.light,
        h.module?_zero, rfl, rfl⟩
  · next hunknown =>
      rcases hfind : (find t program path).run l with ⟨words | f, m⟩
      · rw [hfind] at hpath
        cases hpath
      · rw [hfind] at hpath
        have hcontent : f.content = .library lib := Except.ok.inj hpath
        obtain ⟨hidle, hopened⟩ := h.of_find hfind
        have hload := load_described h.numbered (h.named?_of_notMem hunknown) hfind hcontent
          (hidle.ofFile?_eq _)
        have hmodule := module?_withDescribed t path f lib hidle.numbered
        rw [hopened] at hmodule
        exact ⟨l.opened, _, _, hload, light_withDescribed hidle path f, hmodule, rfl, rfl⟩

end Loading

end Linker
end GrammarAssay
