import GrammarAssay.Json.RoundTrip
import GrammarAssay.Proofs.Catalogue.Lookup
import GrammarAssay.Proofs.Search.Listing
import GrammarAssay.Tool.Listing
import Mathlib.Data.List.Forall2

/-!
# What the list of grammars tells

**Input.** A file tree and search paths.

**Algorithm.** What an entry tells is stated by its members. The list holds nothing but texts, so it reads back
from its text whatever characters names and paths have. The built-in grammars differ in their identifiers,
the discovered libraries in their names, and the source tells one kind from the other.

**Results.**
* `tells_ofBuiltIn`, `tells_ofFound`: what the entries tell.
* `parse?_text_run`: the list reads back from the answer of the tool.
* `pairwise_entries`: no two entries have one source and one identifier.
* `lists_catalogue_then_discovered`: the list is the catalogue, and then what is discovered.
-/

namespace GrammarAssay
namespace Json

/-- A list reads back if each of its items does. -/
theorem exactItems_of_forall {items : List Json} (h : ∀ item ∈ items, isExact item = true) :
    exactItems items = true := by
  induction items with
  | nil => rfl
  | cons item rest ih =>
      rw [exactItems, h item List.mem_cons_self, Bool.true_and]
      exact ih fun other hother => h other (List.mem_cons_of_mem item hother)

end Json

namespace Listing

/-- An entry with an identifier, a name, a source and perhaps a path, and with nothing else. -/
structure Tells (entry : Json) (id name source : String) (path : Option String) : Prop where
  id : entry.member? "id" = some (.str id)
  name : entry.member? "name" = some (.str name)
  source : entry.member? "source" = some (.str source)
  path : entry.member? "path" = path.map .str
  others : ∀ key ∉ ["id", "name", "source", "path"], entry.member? key = none

/-- An entry of a built-in grammar. -/
def TellsBuiltIn (g : BuiltIn) (entry : Json) : Prop :=
  Tells entry g.id g.name "builtin" none

/-- An entry of a discovered library. -/
def TellsLibrary (f : Search.Found) (entry : Json) : Prop :=
  Tells entry f.name f.name "library" (some f.path.display)

/-- Two entries of different sources, or of different identifiers. -/
def Differ (entry other : Json) : Prop :=
  entry.member? "source" = other.member? "source" → entry.member? "id" ≠ other.member? "id"

section Entries

variable (t : FileTree) (paths : List Path)

theorem tells_ofBuiltIn (g : BuiltIn) : TellsBuiltIn g (ofBuiltIn g) := by
  refine ⟨rfl, rfl, rfl, rfl, ?_⟩
  intro key hkey
  simp only [List.mem_cons, List.not_mem_nil, or_false, not_or] at hkey
  obtain ⟨hid, hname, hsource, -⟩ := hkey
  simp [ofBuiltIn, Json.member?, Json.lookup?, Ne.symm hid, Ne.symm hname, Ne.symm hsource]

theorem tells_ofFound (f : Search.Found) : TellsLibrary f (ofFound f) := by
  refine ⟨rfl, rfl, rfl, rfl, ?_⟩
  intro key hkey
  simp only [List.mem_cons, List.not_mem_nil, or_false, not_or] at hkey
  obtain ⟨hid, hname, hsource, hpath⟩ := hkey
  simp [ofFound, Json.member?, Json.lookup?, Ne.symm hid, Ne.symm hname, Ne.symm hsource,
    Ne.symm hpath]

/-- An entry that tells of a library is that of a discovered one. -/
theorem exists_found_of_mem {entry : Json} (hentry : entry ∈ entries t paths)
    (hsource : entry.member? "source" = some (.str "library")) :
    ∃ f ∈ Search.discover t paths, TellsLibrary f entry := by
  rcases List.mem_append.mp hentry with hbuiltIn | hfound
  · obtain ⟨g, -, rfl⟩ := List.mem_map.mp hbuiltIn
    rw [(tells_ofBuiltIn g).source] at hsource
    simp at hsource
  · obtain ⟨f, hf, rfl⟩ := List.mem_map.mp hfound
    exact ⟨f, hf, tells_ofFound f⟩

/-- No two entries have one source and one identifier. -/
theorem pairwise_entries : (entries t paths).Pairwise Differ := by
  refine List.pairwise_append.mpr ⟨?_, ?_, ?_⟩
  · have hids : BuiltIn.all.Pairwise fun g g' => g.id ≠ g'.id := by
      decide
    refine List.pairwise_map.mpr (hids.imp ?_)
    intro g g' hne _
    rw [(tells_ofBuiltIn g).id, (tells_ofBuiltIn g').id]
    simpa using hne
  · refine List.pairwise_map.mpr ((Search.pairwise_discover t paths).imp ?_)
    intro f f' hlt _ heq
    rw [(tells_ofFound f).id, (tells_ofFound f').id] at heq
    have hname : f.name = f'.name := by
      simpa using heq
    rw [hname] at hlt
    exact List.lt_irrefl _ hlt
  · intro entry hentry other hother hsource
    obtain ⟨g, -, rfl⟩ := List.mem_map.mp hentry
    obtain ⟨f, -, rfl⟩ := List.mem_map.mp hother
    rw [(tells_ofBuiltIn g).source, (tells_ofFound f).source] at hsource
    simp at hsource

/-- The list reads back from the answer of the tool. -/
theorem parse?_text_run {answer : ToolResult} (h : run t paths = .ok answer) :
    Json.parse? answer.text = some (.arr (entries t paths)) := by
  have hrun : run t paths = .ok (.ofText (Json.arr (entries t paths)).render) := rfl
  rw [hrun] at h
  rw [← Except.ok.inj h, ToolResult.ofText]
  refine Json.parse?_render ?_
  rw [Json.isExact]
  refine Json.exactItems_of_forall ?_
  intro entry hentry
  rcases List.mem_append.mp hentry with hbuiltIn | hfound
  · obtain ⟨g, -, rfl⟩ := List.mem_map.mp hbuiltIn
    rfl
  · obtain ⟨f, -, rfl⟩ := List.mem_map.mp hfound
    rfl

end Entries

/-- **The list is the catalogue, and then what is discovered.** The tool answers with one text, which reads back
as an array. The first eleven entries are those of the built-in grammars in the order of the catalogue, and
every built-in grammar is found again by the identifier and by the name of its entry. The other entries are
those of the discovered libraries, one for each, in their order, with names and paths as they are displayed.
No two entries have one source and one identifier. -/
theorem lists_catalogue_then_discovered (t : FileTree) (paths : List Path) :
    ∃ answer builtIns libraries, run t paths = .ok answer ∧
      answer.toJson =
        .obj [("content", .arr [.obj [("text", .str answer.text), ("type", .str "text")]])] ∧
      Json.parse? answer.text = some (.arr (builtIns ++ libraries)) ∧
      builtIns.length = 11 ∧ (∀ g, g ∈ BuiltIn.all) ∧
      List.Forall₂ TellsBuiltIn BuiltIn.all builtIns ∧
      List.Forall₂ TellsLibrary (Search.discover t paths) libraries ∧
      (builtIns ++ libraries).Pairwise Differ ∧
      ∀ g : BuiltIn, BuiltIn.ofId g.id = .ok g ∧ BuiltIn.ofId g.name = .ok g := by
  refine ⟨_, BuiltIn.all.map ofBuiltIn, (Search.discover t paths).map ofFound, rfl, rfl,
    parse?_text_run t paths rfl, rfl, ?_, ?_, ?_, pairwise_entries t paths,
    BuiltIn.ofId_id_and_name⟩
  · intro g
    cases g <;> decide
  · rw [List.forall₂_map_right_iff, List.forall₂_same]
    exact fun g _ => tells_ofBuiltIn g
  · rw [List.forall₂_map_right_iff, List.forall₂_same]
    exact fun f _ => tells_ofFound f

end Listing
end GrammarAssay
