import GrammarAssay.FileTree.Change
import GrammarAssay.Linker.Release
import GrammarAssay.Platform
import GrammarAssay.Report

/-!
# Workspaces

**Input.** A workspace holds a file tree, handles under the names of slots, and the libraries in memory.

**Algorithm.** An action changes the files or the handles. A handle that an assay gives can be kept
in a slot, from where it can be copied and dropped. A library stays in memory as long as a handle holds it.
A parse can change memory too.

**Results.**
* `Workspace.use`: the result of what works on the libraries in memory, and the workspace then.
* `Workspace.step`: the workspace after an action.
* `Workspace.handle?`: the handle in a slot.
* `handle?_store`, `handle?_clear`: a change of one slot leaves all others as they are.
-/

namespace GrammarAssay

/-- Files, the handles that are kept, and the libraries in memory. -/
structure Workspace where
  files : FileTree
  handles : List (String × Handle)
  linker : Linker

/-- What can happen in a workspace. -/
inductive Action where
  | makeDirectory (path : Path)
  | write (path : Path) (content : Content)
  | makeLink (path target : Path)
  | remove (path : Path)
  /-- An assay, whose handle is dropped. -/
  | perform (assay : Assay)
  /-- An assay, whose handle is kept in a slot. -/
  | keep (slot : String) (assay : Assay)
  /-- A copy of the handle in one slot to another. -/
  | copy (slot target : String)
  | drop (slot : String)
  /-- A parse with the handle in a slot. -/
  | parse (slot text : String)
deriving DecidableEq

namespace Workspace

/-- A workspace without handles. -/
def fresh (workingDirectory : Location) (programDirectory : Path) : Workspace :=
  ⟨Platform.install (FileTree.fresh workingDirectory programDirectory), [], Linker.start⟩

/-- The handle in a slot. -/
def handle? (w : Workspace) (slot : String) : Option Handle :=
  w.handles.lookup slot

/-- Empties a slot. -/
def clear (w : Workspace) (slot : String) : Workspace :=
  { w with handles := w.handles.filter fun e => e.1 != slot }

/-- Puts a handle into a slot, in the place of the one that was there. -/
def store (w : Workspace) (slot : String) (h : Handle) : Workspace :=
  { w with handles := (slot, h) :: (w.clear slot).handles }

/-- After a slot is emptied, all others hold what they held. -/
theorem handle?_clear (w : Workspace) (slot other : String) :
    (w.clear slot).handle? other = if other = slot then none else w.handle? other := by
  unfold handle? clear
  induction w.handles with
  | nil => simp
  | cons e rest ih =>
    obtain ⟨s, h⟩ := e
    rw [List.filter_cons]
    by_cases hs : s = slot
    · by_cases ho : other = slot
      · simpa [hs, ho] using ih
      · simpa [hs, ho, List.lookup_cons, beq_false_of_ne ho] using ih
    · by_cases ho : other = s
      · subst ho
        simp [hs]
      · simpa [hs, List.lookup_cons, beq_false_of_ne ho] using ih

/-- After a handle is put into a slot, all other slots hold what they held. -/
theorem handle?_store (w : Workspace) (slot other : String) (h : Handle) :
    (w.store slot h).handle? other = if other = slot then some h else w.handle? other := by
  have hc := handle?_clear w slot other
  by_cases ho : other = slot
  · simp [handle?, store, ho]
  · rw [if_neg ho] at hc ⊢
    rw [← hc]
    simp [handle?, store, clear, List.lookup_cons, beq_false_of_ne ho]

/-- Takes the libraries out of memory that no handle holds. -/
def release (w : Workspace) : Workspace :=
  { w with linker := w.linker.release (w.handles.filterMap fun e => e.2.library) }

/-- The result of what works on the libraries in memory, and the workspace then. -/
def use {α : Type} (w : Workspace) (action : StateM Linker α) : α × Workspace :=
  let (result, l) := action.run w.linker
  (result, { w with linker := l })

/-- The outcome of an assay, and the workspace with all that it needed still in memory. -/
def perform (w : Workspace) (a : Assay) : Except Fault Handle × Workspace :=
  w.use (a.perform w.files)

/-- Keeps the handle that an assay gave in a slot. -/
def keep (w : Workspace) (slot : String) : Except Fault Handle → Workspace
  | .ok h => (w.store slot h).release
  | .error _ => w.release

/-- Copies the handle in one slot to another. -/
def copy (w : Workspace) (slot target : String) : Workspace :=
  match w.handle? slot with
  | some h => (w.store target h).release
  | none => w

/-- The kind of the root of a text's tree, by the handle in a slot, and the workspace then. -/
def parse (w : Workspace) (slot text : String) :
    Option (Except Fault (Option String)) × Workspace :=
  match w.handle? slot with
  | some h =>
    let (root, w) := w.use (h.parse text)
    (some root, w)
  | none => (none, w)

/-- The workspace after an action. -/
def step (w : Workspace) : Action → Workspace
  | .makeDirectory path => { w with files := w.files.makeDirectory path }
  | .write path content => { w with files := w.files.write path content }
  | .makeLink path target => { w with files := w.files.makeLink path target }
  | .remove path => { w with files := w.files.remove path }
  | .perform assay => (w.perform assay).2.release
  | .keep slot assay =>
    let (outcome, w) := w.perform assay
    w.keep slot outcome
  | .copy slot target => w.copy slot target
  | .drop slot => (w.clear slot).release
  | .parse slot text => (w.parse slot text).2

end Workspace
end GrammarAssay
