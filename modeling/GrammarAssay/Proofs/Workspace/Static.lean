import GrammarAssay.Proofs.Workspace.Handles

/-!
# Tables that nothing changes

**Input.** A workspace in which a handle is kept, while nothing else is done than to change files.

**Algorithm.** If the assay has no sample, no code of the library runs after its language was judged. If besides
all libraries in memory stay when the handle is kept, the libraries in memory are what they were when the language
was judged, and stay so while files are changed. So the tables are static, be they written down or in memory.

**Results.**
* `OnFiles`, `linker_after_of_onFiles`: actions on files leave the libraries in memory as they are.
* `eq_or_eq_of_meets`: the states that the actions meet.
* `static_of_keep`: the handle is in its slot, and its tables are static.
-/

namespace GrammarAssay
namespace Workspace

/-- Does an action change files, and nothing else? -/
inductive OnFiles : Action → Prop
  | makeDirectory (path : Path) : OnFiles (.makeDirectory path)
  | write (path : Path) (content : Content) : OnFiles (.write path content)
  | makeLink (path target : Path) : OnFiles (.makeLink path target)
  | remove (path : Path) : OnFiles (.remove path)

variable {w : Workspace} {before rest : List Action} {slot : String} {a : Assay}

section Files

theorem linker_step_of_onFiles {action : Action} (h : OnFiles action) (w : Workspace) :
    (w.step action).linker = w.linker := by
  cases h with
  | _ => rfl

theorem spares_of_onFiles {action : Action} (h : OnFiles action) (w : Workspace) (slot : String) :
    w.Spares action slot := by
  cases h with
  | _ => rintro _ _ ⟨⟩

/-- Actions on files leave the libraries in memory as they are. -/
theorem linker_after_of_onFiles (h : ∀ action ∈ rest, OnFiles action) (w : Workspace) :
    (w.after rest).linker = w.linker := by
  induction rest generalizing w with
  | nil => rfl
  | cons action rest ih =>
      have hrest := ih (fun other hother => h other (List.mem_cons_of_mem _ hother)) (w.step action)
      exact hrest.trans (linker_step_of_onFiles (h action List.mem_cons_self) w)

theorem handle?_after_of_onFiles (h : ∀ action ∈ rest, OnFiles action) (w : Workspace)
    (slot : String) : (w.after rest).handle? slot = w.handle? slot := by
  induction rest generalizing w with
  | nil => rfl
  | cons action rest ih =>
      have hrest := ih (fun other hother => h other (List.mem_cons_of_mem _ hother)) (w.step action)
      exact hrest.trans
        (handle?_step_of_spares (spares_of_onFiles (h action List.mem_cons_self) w slot))

end Files

section Beginnings

/-- A beginning of actions of which one is given ends in front of it or behind it. -/
theorem prefix_or_behind {action : Action} {front : List Action}
    (h : front <+: before ++ action :: rest) :
    front <+: before ∨ ∃ behind, behind <+: rest ∧ front = before ++ action :: behind := by
  rcases List.prefix_or_prefix_of_prefix h (List.prefix_append before (action :: rest)) with
    hfront | ⟨behind, rfl⟩
  · exact Or.inl hfront
  · rw [List.prefix_append_right_inj] at h
    cases behind with
    | nil =>
        rw [List.append_nil]
        exact Or.inl (List.prefix_refl before)
    | cons other behind =>
        obtain ⟨rfl, hbehind⟩ := List.cons_prefix_cons.mp h
        exact Or.inr ⟨behind, hbehind, rfl⟩

/-- Where one handle is kept while files are changed, no other is kept. -/
theorem eq_of_keep_prefix {slot' : String} {a' : Assay} {front : List Action}
    (hbefore : ∀ action ∈ before, OnFiles action) (hrest : ∀ action ∈ rest, OnFiles action)
    (h : front ++ [.keep slot' a'] <+: before ++ .keep slot a :: rest) :
    front = before ∧ a' = a := by
  have hkeep : ¬ OnFiles (.keep slot' a') := by
    rintro ⟨⟩
  rcases prefix_or_behind h with hfront | ⟨behind, hbehind, heq⟩
  · exact absurd (hbefore _ (hfront.subset (List.mem_append_right _ List.mem_cons_self))) hkeep
  · rcases List.eq_nil_or_concat' behind with rfl | ⟨others, last, rfl⟩
    · obtain ⟨hfront, hlast⟩ := List.append_inj' heq rfl
      cases hlast
      exact ⟨hfront, rfl⟩
    · rw [← List.cons_append, ← List.append_assoc] at heq
      obtain ⟨-, hlast⟩ := List.append_inj' heq rfl
      rw [← List.singleton_inj.mp hlast] at hbehind
      exact absurd (hrest _ (hbehind.subset (List.mem_append_right _ List.mem_cons_self))) hkeep

end Beginnings

section Keeping

variable {source : LanguageSource} {library : Option Nat} {m : Linker}

/-- Without a sample, what was in memory when the language was judged is there when its handle is kept, if all of it
stays. -/
theorem linker_after_keep
    (hpass : a.Passes (w.after before).files (w.after before).linker source library m)
    (hsample : a.profile.bind Profile.sample = none)
    (hstay : m.release (w.after (before ++ [.keep slot a])).held = m) :
    (w.after (before ++ [.keep slot a])).linker = m := by
  have hperform : ((w.after before).perform a).2.linker = a.afterSample source m :=
    congrArg Prod.snd (Assay.perform_of_passes hpass)
  rw [Assay.afterSample, hsample] at hperform
  rw [after_concat, linker_keep, hperform, ← after_concat, hstay]

/-- Libraries are in memory as they were at first, or as they were when the language was judged. -/
theorem eq_or_eq_of_meets (hbefore : ∀ action ∈ before, OnFiles action)
    (hrest : ∀ action ∈ rest, OnFiles action)
    (hpass : a.Passes (w.after before).files (w.after before).linker source library m)
    (hkept : (w.after (before ++ [.keep slot a])).linker = m) {l : Linker}
    (hmeets : w.Meets (before ++ .keep slot a :: rest) l) : l = w.linker ∨ l = m := by
  cases hmeets with
  | @left front hfront =>
      rcases prefix_or_behind hfront with hfront | ⟨behind, hbehind, rfl⟩
      · exact Or.inl (linker_after_of_onFiles (fun _ h => hbefore _ (hfront.subset h)) w)
      · have hfiles := linker_after_of_onFiles (fun _ h => hrest _ (hbehind.subset h))
          (w.after (before ++ [.keep slot a]))
        rw [after, after, ← List.foldl_append, List.append_assoc, List.singleton_append] at hfiles
        exact Or.inr (hfiles.trans hkept)
  | @judged front slot' a' source' library' m' hfront hpass' =>
      obtain ⟨rfl, rfl⟩ := eq_of_keep_prefix hbefore hrest hfront
      exact Or.inr (Loader.delivers_unique hpass'.delivers hpass.delivers).2

/-- **Tables that nothing changes.** Files are changed, a handle is kept whose assay violates no stage and has no
sample, and files are changed again. If its library came with the assay, and all that is in memory then stays when
the handle is kept, the handle is in its slot and its tables are static. -/
theorem static_of_keep (hbefore : ∀ action ∈ before, OnFiles action)
    (hrest : ∀ action ∈ rest, OnFiles action)
    (hpass : a.Passes (w.after before).files (w.after before).linker source library m)
    (hsample : a.profile.bind Profile.sample = none)
    (hnew : ∀ n, library = some n → w.linker.module? n = none)
    (hstay : m.release (w.after (before ++ [.keep slot a])).held = m) :
    (w.after (before ++ .keep slot a :: rest)).handle? slot = some ⟨a.name, source, library⟩ ∧
      w.Static (before ++ .keep slot a :: rest) ⟨a.name, source, library⟩ := by
  have hkept := linker_after_keep hpass hsample hstay
  constructor
  · have hgiven : ((w.after before).perform a).1 = .ok ⟨a.name, source, library⟩ :=
      Assay.run_of_passes hpass
    have hdescends : w.Descends (before ++ [.keep slot a]) slot (w.after before) a := .kept hgiven
    have hslot := handle?_of_descends hdescends hgiven
    have hsame := handle?_after_of_onFiles hrest (w.after (before ++ [.keep slot a])) slot
    rw [after, after, ← List.foldl_append, List.append_assoc, List.singleton_append] at hsame
    exact hsame.trans hslot
  · intro address n _ hlibrary l l' k k' hl hl' hk hk' _
    -- The library is not there at first, so both states are the one in which the language was judged.
    have hjudged : ∀ l k, w.Meets (before ++ .keep slot a :: rest) l → l.module? n = some k →
        l = m := by
      intro l k hl hk
      refine (eq_or_eq_of_meets hbefore hrest hpass hkept hl).resolve_left ?_
      rintro rfl
      rw [hnew n hlibrary] at hk
      cases hk
    rw [hjudged l k hl hk, hjudged l' k' hl' hk']
    exact ⟨rfl, fun _ => rfl⟩

end Keeping

end Workspace
end GrammarAssay
