import GrammarAssay.Linker.Call
import GrammarAssay.Linker.Needs

/-!
# Releasing libraries

**Input.** The libraries in memory, and the numbers of those that are held.

**Algorithm.** A library that nothing holds is taken out of memory, unless it is permanent or one needs it that
stays. Before that the finalisers of all that go run, those of a library before those of its needs. In a
library the list of finalisers runs from its end, and the one that it names by itself comes last.

**Results.**
* `Linker.releaseOrder`: every library in front of those that it needs.
* `Linker.release`: the libraries that stay.
* `Linker.briefly`: what works on the libraries in memory and holds none behind.
-/

namespace GrammarAssay
namespace Linker

/-- Runs the finalisers of a library. -/
def finish (l : Linker) (m : Module) : Linker :=
  match m.table? with
  | none => l
  | some t =>
    let places := (t.functionPlaces .finalizers .finalizerSize).reverse
    let l := places.foldl (fun l place => (l.call (l.memory.word place) []).2) l
    (t.address? .finalizer).toList.foldl (fun l function => (l.call function []).2) l

/-- The libraries, every one in front of those that it needs, as far as that is free of circles. -/
def releaseOrder (l : Linker) : List Nat :=
  let numbers := l.modules.map Module.number
  (numbers.reverse.foldl (walkNeeds l l.opened numbers.length) ([], [])).2.reverse

/-- Takes the libraries out of memory that are not held. -/
def release (l : Linker) (held : List Nat) : Linker :=
  let kept := l.kept held
  let gone := l.releaseOrder.filter fun n => !kept.contains n
  ((gone.filterMap l.module?).foldl finish l).select kept.contains

/-- Works on the libraries in memory and gives back what it held of them. Only those stay that stay when
nothing holds them. -/
def briefly {α : Type} (action : StateM Linker α) : StateM Linker α := do
  let result ← action
  modify fun l => l.release []
  return result

end Linker
end GrammarAssay
