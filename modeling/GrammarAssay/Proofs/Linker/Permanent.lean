import GrammarAssay.Proofs.Linker.Described
import GrammarAssay.Proofs.Memory.Holding

/-!
# Libraries that stay in memory

**Input.** A compiled library that asks to stay in memory when nothing holds it.

**Algorithm.** When libraries are released, those go that are neither held nor permanent, and that no library needs
that stays. A permanent library stays, with the names under which it was asked for and the one that it calls itself.
Under each of them it is taken from memory from then on, where nothing is looked for.

**Results.**
* `LinkTable.IsPlain`, `standsAlone_of_isPlain`: a library whose link table tells of its name and its flags alone.
* `modules_release`: the libraries in memory when some are released.
* `module?_release_of_isPermanent`, `load_release_of_isPermanent`: a permanent library stays, and is taken from
  memory.
* `enterImage_eq`: how the image in a file comes to memory.
* `PermanentLibrary`: a library that calls itself by the name of its file, and stays in memory.
-/

namespace GrammarAssay

/-- Does a link table tell of nothing but the name of its library, and flags? -/
def LinkTable.IsPlain (t : LinkTable) : Prop :=
  ∀ e ∈ t.entries, e.1 ∈ [Tag.strings, Tag.ownName, Tag.moreFlags].map Tag.number

instance (t : LinkTable) : Decidable t.IsPlain :=
  inferInstanceAs (Decidable (∀ e ∈ t.entries, _))

section Plain

variable {t : LinkTable} {m : Module} {sealed threadData : Option Segment}

theorem LinkTable.value?_of_isPlain (h : t.IsPlain) {tag : Tag}
    (htag : tag.number ∉ [Tag.strings, Tag.ownName, Tag.moreFlags].map Tag.number) :
    t.value? tag = none := by
  have hnone : t.entries.filter (fun e => e.1 == tag.number) = [] := by
    refine List.filter_eq_nil_iff.mpr fun e he heq => htag ?_
    rw [← eq_of_beq heq]
    exact h e he
  rw [value?, values, hnone]
  rfl

theorem LinkTable.address?_of_isPlain (h : t.IsPlain) {tag : Tag}
    (htag : tag.number ∉ [Tag.strings, Tag.ownName, Tag.moreFlags].map Tag.number) :
    t.address? tag = none := by
  rw [address?, value?_of_isPlain h htag]
  rfl

theorem LinkTable.needs_of_isPlain (h : t.IsPlain) (memory : Memory) : t.needs memory = [] := by
  refine List.filterMap_eq_nil_iff.mpr fun e he => ?_
  have hkind : ∀ tag ∈ [Tag.strings, Tag.ownName, Tag.moreFlags].map Tag.number,
      needKind? tag = none := by
    decide
  rw [hkind e.1 (h e he), Option.map_none]

theorem Module.standsAlone_of_isPlain (hbody : m.body = .image t none threadData)
    (h : t.IsPlain) : m.StandsAlone where
  wanted := fun memory => by
    rw [wanted, hbody]
    dsimp only
    rw [LinkTable.needs_of_isPlain h]
    rfl
  relocate := fun scope l => by
    have hlists : RelocationList.ofTable t = [⟨0, 0, false⟩] := by
      rw [RelocationList.ofTable, LinkTable.value?_of_isPlain h (by decide),
        LinkTable.address?_of_isPlain h (by decide)]
    have hpacked : t.address? .packed = none := LinkTable.address?_of_isPlain h (by decide)
    have hlate : t.address? .lazyRelocations = none := LinkTable.address?_of_isPlain h (by decide)
    rw [Linker.relocate, hbody]
    simp only [Linker.announceBinder, hlate, hpacked, hlists]
    rfl
  prepare := fun l => by
    rw [Linker.prepare, table?, hbody]
    dsimp only
    rw [LinkTable.address?_of_isPlain h (by decide), LinkTable.functionPlaces,
      LinkTable.address?_of_isPlain h (by decide)]
    rfl

/-- A library without a table of hashes defines nothing. -/
theorem Module.define?_of_isPlain (hbody : m.body = .image t sealed threadData) (h : t.IsPlain)
    (memory : Memory) (name : Bytes) (isCall : Bool) : m.define? memory name isCall = none := by
  rw [define?, hbody]
  dsimp only
  rw [SymbolTable.find?, LinkTable.address?_of_isPlain h (by decide),
    LinkTable.address?_of_isPlain h (by decide)]
  rfl

end Plain

namespace LinkTable

/-- The entries that stand in memory from an address on. -/
inductive Stands (m : Memory) : UInt64 → List (Nat × UInt64) → Prop
  | done {address : UInt64} :
      m.number address 8 = 0 →
      Stands m address []
  | entry {address value : UInt64} {tag : Nat} {rest : List (Nat × UInt64)} :
      m.number address 8 = tag →
      tag ≠ 0 →
      m.word (address + 8) = value →
      Stands m (address + 16) rest →
      Stands m address ((tag, value) :: rest)

theorem entriesUpTo_of_stands {m : Memory} {address : UInt64} {entries : List (Nat × UInt64)}
    (h : Stands m address entries) {bound : Nat} (hbound : entries.length < bound) :
    entriesUpTo m bound address = entries := by
  induction h generalizing bound with
  | done hend =>
      obtain ⟨bound, rfl⟩ := Nat.exists_eq_add_of_lt hbound
      rw [entriesUpTo, hend]
      rfl
  | entry htag hne hvalue _ ih =>
      obtain ⟨left, rfl⟩ := Nat.exists_eq_add_of_lt hbound
      rw [entriesUpTo, htag, if_neg hne, hvalue, ih (by rw [List.length_cons]; omega)]

end LinkTable

namespace Linker

variable {l : Linker}

theorem modules_foldl {α : Type} {step : Linker → α → Linker}
    (hstep : ∀ l a, (step l a).modules = l.modules) (list : List α) (l : Linker) :
    (list.foldl step l).modules = l.modules := by
  induction list generalizing l with
  | nil => rfl
  | cons a rest ih => exact (ih (step l a)).trans (hstep l a)

theorem modules_finish (l : Linker) (m : Module) : (l.finish m).modules = l.modules := by
  unfold finish
  split
  · rfl
  · refine (modules_foldl ?_ _ _).trans (modules_foldl ?_ _ _)
    · exact fun l function => rfl
    · exact fun l place => rfl

/-- The libraries that stay are in memory as they were. -/
theorem modules_release (l : Linker) (held : List Nat) :
    (l.release held).modules = l.modules.filter fun m => (l.kept held).contains m.number := by
  show (List.filter _ (List.foldl finish l _).modules) = _
  rw [modules_foldl modules_finish]

/-- What fits is found in memory when libraries are released, if it stays. -/
theorem find?_modules_release {held : List Nat} {fits : Module → Bool} {m : Module}
    (hfind : l.modules.find? fits = some m) (hkept : m.number ∈ l.kept held) :
    (l.release held).modules.find? fits = some m := by
  obtain ⟨hfits, front, back, hmodules, hfront⟩ := List.find?_eq_some_iff_append.mp hfind
  have hm : (l.kept held).contains m.number = true := List.contains_iff_mem.mpr hkept
  rw [modules_release, hmodules, List.filter_append, List.filter_cons, if_pos hm]
  refine List.find?_eq_some_iff_append.mpr ⟨hfits, _, _, rfl, fun other hother => ?_⟩
  exact hfront other (List.mem_filter.mp hother).1

theorem mem_kept_of_isPermanent {m : Module} (hm : m ∈ l.modules) (h : m.isPermanent = true)
    (held : List Nat) : m.number ∈ l.kept held := by
  have hpermanent : m.number ∈ l.permanent :=
    List.mem_append_left _ (List.mem_map_of_mem (List.mem_filter.mpr ⟨hm, h⟩))
  exact l.subset_reach _ _ (List.mem_append_left _ (List.mem_cons_of_mem 0 hpermanent))

/-- A permanent library stays as it is when libraries are released. -/
theorem module?_release_of_isPermanent {m : Module} {n : Nat} (hmodule : l.module? n = some m)
    (h : m.isPermanent = true) (held : List Nat) : (l.release held).module? n = some m :=
  find?_modules_release hmodule (mem_kept_of_isPermanent (mem_of_module? hmodule).1 h held)

/-- A permanent library that was loaded is taken from memory under each of its names from then on. Nothing is looked
for in the file tree. -/
theorem load_release_of_isPermanent {m : Module} {path : Path} (hnamed : l.named? path = some m)
    (hmodule : l.module? m.number = some m) (h : m.isPermanent = true)
    (hscope : m.scope.isEmpty = false) (t : FileTree) (held : List Nat) :
    (l.release held).load t path = (.ok m.number, l.release held) := by
  have hkept := mem_kept_of_isPermanent (mem_of_module? hmodule).1 h held
  exact load_of_named? (find?_modules_release hnamed hkept)
    (find?_modules_release hmodule hkept) hscope

/-- In a library that is its own scope and has no table of hashes, no entry point is found. -/
theorem lookEntry_of_isPlain {m : Module} {n : Nat} {table : LinkTable}
    {sealed threadData : Option Segment} (hmodule : l.module? n = some m)
    (hbody : m.body = .image table sealed threadData) (htable : table.IsPlain)
    (hscope : m.scope = [n]) (symbol : String) : Library.lookEntry l n symbol = (none, l) := by
  have hnone : ∀ name, l.define? [n] name false = none := by
    intro name
    simp [define?, hmodule, Module.define?_of_isPlain hbody htable]
  rw [Library.lookEntry]
  cases Library.soughtSymbol? symbol with
  | none => rfl
  | some s =>
      dsimp only
      rw [lookIn, hmodule, Option.map_some, Option.getD_some, hscope, look, hnone]

/-- How the image in a file comes to memory. -/
theorem enterImage_eq (l : Linker) (m : Module) (name : Path) {bytes : Filler} {table : LinkTable}
    (hmapping : Image.mappingFault? bytes = none)
    (htable : Image.table (l.memory.map (Image.map bytes l.free)) bytes (Image.map bytes l.free).base =
      table) (hfault : Image.tableFault? table = none) :
    l.enterImage m name bytes =
      .ok (l.enter
        { m with
          names := m.names ++ (table.ownName? (l.memory.map (Image.map bytes l.free))).toList
          base := (Image.map bytes l.free).base
          body := .image table (Image.sealed bytes) (Image.threadData bytes) }
        (l.memory.map (Image.map bytes l.free))
        ((Image.map bytes l.free).start + (Image.map bytes l.free).extent + pageSize)) := by
  rw [enterImage, hmapping]
  dsimp only
  rw [htable, hfault]

end Linker

/-! ### A library that calls itself by a bare name -/

namespace PermanentLibrary

/-- A segment that stands in memory as it does in the file. -/
def segment (kind offset size alignment : Nat) : Bytes :=
  littleEndian kind 4 ++ littleEndian 4 4 ++ littleEndian offset 8 ++ littleEndian offset 8 ++
    littleEndian offset 8 ++ littleEndian size 8 ++ littleEndian size 8 ++ littleEndian alignment 8

/-- The header of a library with two segments. -/
def header : Bytes :=
  [0x7F, 0x45, 0x4C, 0x46, 2, 1, 1] ++ littleEndian 0 9 ++ littleEndian 3 2 ++ littleEndian 62 2 ++
    littleEndian 1 4 ++ littleEndian 0 8 ++ littleEndian 64 8 ++ littleEndian 0 12 ++
    littleEndian 64 2 ++ littleEndian 56 2 ++ littleEndian 2 2 ++ littleEndian 0 6

/-- Where the strings are, under which offset the own name, and the wish to stay in memory. -/
def entries : List (Nat × UInt64) :=
  [(LinkTable.Tag.strings.number, 240), (LinkTable.Tag.ownName.number, 0),
    (LinkTable.Tag.moreFlags.number, 8)]

/-- The name that the library calls itself, and that its file has too. -/
def ownName : Bytes :=
  Text.Utf8.encode "libtree-sitter-k.so"

def image : Filler where
  piece := header ++ segment 1 0 260 4096 ++ segment 2 176 64 8 ++
    entries.flatMap (fun e => littleEndian e.1 8 ++ littleEndian e.2.toNat 8) ++ littleEndian 0 16 ++
    ownName ++ [0]
  repetitions := 1

theorem fault?_image : Header.fault? image = none := by
  decide +kernel

theorem mappingFault?_image : Image.mappingFault? image = none := by
  decide +kernel

/-- The library in memory, in a program that has opened nothing. -/
def mapped : MappedFile :=
  Image.map image 0x100000000

theorem stands_image : LinkTable.Stands (Memory.empty.map mapped) (mapped.base + 176) entries := by
  have hnumber : ∀ address width, (Memory.empty.map mapped).number address width =
      Memory.numberIn (fun address => (mapped.byte? address).getD 0) address width := by
    intro address width
    rw [Memory.number_eq_numberIn, Memory.byte_map_empty]
  refine .entry ?_ (by decide) ?_ (.entry ?_ (by decide) ?_ (.entry ?_ (by decide) ?_ (.done ?_)))
  all_goals
    try rw [Memory.word]
    rw [hnumber]
    decide +kernel

theorem table_image : Image.table (Memory.empty.map mapped) image mapped.base =
    ⟨entries, mapped.base⟩ := by
  have hlinkage : Image.linkage? (Header.segments image) = some 176 := by
    decide +kernel
  rw [Image.table, hlinkage, Option.getD_some, LinkTable.read,
    LinkTable.entriesUpTo_of_stands stands_image (by decide)]

theorem ownName?_image :
    LinkTable.ownName? (Memory.empty.map mapped) ⟨entries, mapped.base⟩ = some ⟨ownName⟩ := by
  have htext : (Memory.empty.map mapped).text (mapped.base + 240 + 0) = ownName := by
    rw [Memory.text_eq_textIn, Memory.byte_map_empty]
    decide +kernel
  exact congrArg (fun text => some (Path.mk text)) htext

/-- The file of the library. -/
def file : Name :=
  ⟨ownName, by decide⟩

/-- A root directory with the library, in which the program works. -/
def atRoot : FileTree where
  workingDirectory := []
  programDirectory := ⟨[slash]⟩
  nodes := [([file], .file 0 (.filler image))]
  written := 1

/-- The path of the library, spelled out. -/
def spelled : Path :=
  Path.ofString "./libtree-sitter-k.so"

/-- The path of the library, which is also the name that it calls itself. -/
def bare : Path :=
  Path.ofString "libtree-sitter-k.so"

/-- The library in memory. -/
def home : Module :=
  { Linker.moduleOf atRoot Linker.start Linker.program spelled ⟨spelled, 0, .filler image⟩ with
    names := [spelled, spelled, bare]
    base := mapped.base
    body := .image ⟨entries, mapped.base⟩ none none
    scope := [1] }

/-- The program when it has loaded the library. -/
def loaded : Linker :=
  Linker.start.enter home (Memory.empty.map mapped) (mapped.start + mapped.extent + pageSize)

theorem isPlain_entries : LinkTable.IsPlain ⟨entries, mapped.base⟩ := by
  decide +kernel

theorem find_spelled : (Linker.find atRoot Linker.program spelled).run Linker.start =
    (.ok ⟨spelled, 0, .filler image⟩, Linker.start) := by
  have hslash : spelled.bytes.contains slash = true := by
    decide
  have hresolve : atRoot.resolve spelled = .ok (.file 0 (.filler image)) := by
    rfl
  have hheader : Linker.checkHeader spelled (.filler image) = .ok () := by
    rw [Linker.checkHeader, fault?_image]
  rw [Linker.find, if_pos hslash, Linker.findPath_of_resolve _ (by decide) hresolve, hheader]
  rfl

theorem enterFile_spelled :
    Linker.enterFile atRoot Linker.start Linker.program spelled ⟨spelled, 0, .filler image⟩ =
      .ok (Linker.start.enter { home with scope := [] } (Memory.empty.map mapped)
        (mapped.start + mapped.extent + pageSize)) := by
  have hfault : Image.tableFault? ⟨entries, mapped.base⟩ = none := by
    decide +kernel
  have hsealed : Image.sealed image = none := by
    decide +kernel
  have hthread : Image.threadData image = none := by
    decide +kernel
  have hmap : Linker.start.memory.map (Image.map image Linker.start.free) =
      Memory.empty.map mapped := rfl
  have hmapped : Image.map image Linker.start.free = mapped := rfl
  have henter := Linker.enterImage_eq Linker.start
    (Linker.moduleOf atRoot Linker.start Linker.program spelled ⟨spelled, 0, .filler image⟩)
    spelled mappingFault?_image table_image hfault
  rw [hmap, hmapped, ownName?_image, hsealed, hthread] at henter
  exact henter

theorem load_spelled : Linker.start.load atRoot spelled = (.ok 1, loaded) := by
  have hload := Linker.load_alone Linker.numbered_start (Linker.named?_start (by decide))
    find_spelled rfl enterFile_spelled rfl rfl rfl
    (Module.standsAlone_of_isPlain rfl isPlain_entries)
    (Module.standsAlone_of_isPlain rfl isPlain_entries)
  rwa [Linker.opened_start] at hload

theorem module?_loaded : loaded.module? 1 = some home :=
  Linker.module?_enter Linker.numbered_start rfl _ _

theorem named?_loaded : loaded.named? bare = some home := by
  have hunknown : Linker.program.names.contains bare = false := by
    decide
  have hnamed : home.names.contains bare = true := by
    decide
  show List.find? _ [Linker.program, home] = _
  rw [List.find?_cons, hunknown, List.find?_cons, hnamed]

theorem isPermanent_home : home.isPermanent = true := by
  decide +kernel

/-- When the library was loaded and given back, the program has it under its own name. -/
theorem load_bare :
    (loaded.release []).load atRoot bare = (.ok 1, loaded.release []) :=
  Linker.load_release_of_isPermanent named?_loaded module?_loaded isPermanent_home rfl atRoot []

end PermanentLibrary

end GrammarAssay
