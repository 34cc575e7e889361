import GrammarAssay.Loader

/-!
# Outcomes of opening a library

**Input.** An action on the libraries in memory that can fail, and the libraries with which it begins.

**Results.**
* `Opening.outcome`: how the action ends, and the libraries behind it.
* `outcome_bind`: an action behind another one begins where that one ends, unless it fails.
* `outcome_openAt`, `outcome_loadAt`: how opening a library ends, in terms of its steps.
-/

namespace GrammarAssay
namespace Opening

variable {α β : Type}

/-- How an action ends that begins with some libraries in memory, and the libraries behind it. -/
def outcome (x : Opening α) (l : Linker) : Except Cause α × Linker :=
  x.run.run l

@[simp] theorem outcome_pure (a : α) (l : Linker) :
    outcome (pure a) l = (.ok a, l) := by
  rfl

@[simp] theorem outcome_throw (c : Cause) (l : Linker) :
    outcome (throw c : Opening α) l = (.error c, l) := by
  rfl

@[simp] theorem outcome_modifyGet (f : Linker → α × Linker) (l : Linker) :
    outcome (modifyGetThe Linker f) l = (.ok (f l).1, (f l).2) := by
  rfl

@[simp] theorem outcome_get (l : Linker) :
    outcome (getThe Linker) l = (.ok l, l) := by
  rfl

@[simp] theorem outcome_lift (x : StateM Linker α) (l : Linker) :
    outcome (liftM x) l = (.ok (x.run l).1, (x.run l).2) := by
  rfl

@[simp] theorem outcome_mk (x : StateM Linker (Except Cause α)) (l : Linker) :
    outcome (ExceptT.mk x) l = x.run l := by
  rfl

/-- An action behind another one begins where that one ends, unless it fails. -/
theorem outcome_bind (x : Opening α) (f : α → Opening β) (l : Linker) :
    outcome (x >>= f) l =
      match outcome x l with
      | (.ok a, m) => outcome (f a) m
      | (.error c, m) => (.error c, m) := by
  unfold outcome
  simp only [ExceptT.run_bind, StateT.run_bind]
  rcases x.run.run l with ⟨_ | a, m⟩
  · rfl
  · rfl

end Opening

namespace Library

variable (t : FileTree) (name : String) (path : Path) (l : Linker)

/-- How opening a library and looking up its entry point ends. -/
theorem outcome_openAt :
    (openAt t name path).outcome l =
      if t.isFile path then
        match l.load t path with
        | (.error words, m) => (.error (.unopenable path.display words), m)
        | (.ok number, m) =>
          match lookEntry m number (entrySymbol name) with
          | (none, m) => (.error (.noEntryPoint (entrySymbol name)), m)
          | (some (home, binding), m) => (.ok ⟨number, home, binding⟩, m)
      else (.error (.noLibrary path.display), l) := by
  unfold openAt
  cases hfile : t.isFile path with
  | false =>
      simp only [Bool.not_false, Bool.false_eq_true, if_true, if_false, ExceptT.bind_throw,
        Opening.outcome_throw]
  | true =>
      simp only [Bool.not_true, Bool.false_eq_true, if_true, if_false, Opening.outcome_bind,
        Opening.outcome_modifyGet]
      rcases hload : l.load t path with ⟨words | number, m⟩
      · rfl
      · simp only [Opening.outcome_bind, Opening.outcome_modifyGet]
        rcases hlook : lookEntry m number (entrySymbol name) with ⟨_ | ⟨home, binding⟩, m'⟩
        · rfl
        · rfl

end Library

/-- How opening the library of a grammar ends. -/
theorem Loader.outcome_loadAt (t : FileTree) (name : String) (path : Path) (l : Linker) :
    (loadAt t name path).outcome l =
      match (Library.openAt t name path).outcome l with
      | (.ok e, m) => (.ok ⟨(e.language.run m).1, some e.library⟩, (e.language.run m).2)
      | (.error c, m) => (.error c, m) := by
  unfold loadAt
  rw [Opening.outcome_bind]
  rcases hopen : (Library.openAt t name path).outcome l with ⟨c | e, m⟩
  · rfl
  · simp only [Opening.outcome_bind, Opening.outcome_lift, Opening.outcome_pure]

end GrammarAssay
