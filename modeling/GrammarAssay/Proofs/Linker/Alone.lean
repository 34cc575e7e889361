import GrammarAssay.Proofs.Linker.Loading

/-!
# Loading a library that asks for nothing

**Input.** A file that becomes a library in memory under the next number.

**Algorithm.** A library stands alone if it needs no other library, and there is nothing in it to relocate or to
initialise. When it was fetched, it is all that is gathered, and linking it does nothing. So it is loaded with
itself alone as its scope.

**Results.**
* `Module.StandsAlone`: a library that asks for nothing.
* `gather_alone`, `link_alone`: what is done with it when it was fetched.
* `exists_missing_of_find`: what a search leaves behind.
* `load_of_find_eq_error`, `load_of_named?`: what is not found is not loaded, and what is in memory is taken.
* `fetch_of_enterFile`: how a file that is not in memory is fetched.
* `load_alone`: the library comes to those in memory, and is loaded.
-/

namespace GrammarAssay

/-- A library that needs no other one, and in which there is nothing to relocate or to initialise. -/
structure Module.StandsAlone (m : Module) : Prop where
  wanted : ∀ memory, m.wanted memory = []
  relocate : ∀ scope l, (Linker.relocate scope m).run l = (.ok ⟨⟩, l)
  prepare : ∀ l, (Linker.prepare m).run l = (⟨⟩, l)

namespace Linker

variable {t : FileTree} {l : Linker} {path : Path}

theorem run_bind_of_eq_ok {ε α β : Type} {x : ExceptT ε (StateM Linker) α}
    {f : α → ExceptT ε (StateM Linker) β} {a : α} {m : Linker} (h : x.run l = (.ok a, m)) :
    (x >>= f).run l = (f a).run m := by
  show ((x >>= f).run).run l = _
  rw [ExceptT.run_bind, StateT.run_bind]
  change x.run.run l = _ at h
  rw [h]
  rfl

theorem run_bind_of_eq_error {ε α β : Type} {x : ExceptT ε (StateM Linker) α}
    {f : α → ExceptT ε (StateM Linker) β} {e : ε} {m : Linker} (h : x.run l = (.error e, m)) :
    (x >>= f).run l = (.error e, m) := by
  show ((x >>= f).run).run l = _
  rw [ExceptT.run_bind, StateT.run_bind]
  change x.run.run l = _ at h
  rw [h]
  rfl

theorem run_forM_of_run {ε β : Type} {list : List β} {f : β → ExceptT ε (StateM Linker) PUnit}
    (h : ∀ b ∈ list, (f b).run l = (.ok ⟨⟩, l)) : (list.forM f).run l = (.ok ⟨⟩, l) := by
  induction list with
  | nil => rfl
  | cons b rest ih =>
      rw [List.forM, run_bind_of_eq_ok (h b List.mem_cons_self)]
      exact ih fun other hother => h other (List.mem_cons_of_mem b hother)

theorem run_get_bind {ε β : Type} (f : Linker → ExceptT ε (StateM Linker) β) (l : Linker) :
    (getThe Linker >>= f).run l = (f l).run l := by
  rfl

theorem run_modify_bind {ε β : Type} (g : Linker → Linker) (f : PUnit → ExceptT ε (StateM Linker) β)
    (l : Linker) : (modifyThe Linker g >>= f).run l = (f ⟨⟩).run (g l) := by
  rfl

theorem module?_enter (hl : l.Numbered) {m : Module} (hm : m.number = l.opened) (memory : Memory)
    (free : UInt64) : (l.enter m memory free).module? l.opened = some m := by
  have hnone : l.modules.find? (fun other => other.number == l.opened) = none := by
    rw [List.find?_eq_none]
    intro other hother
    simpa using Nat.ne_of_lt (hl other hother)
  simp [module?, enter, setMemory, List.find?_append, hnone, hm]

theorem change_enter (hl : l.Numbered) {m : Module} (hm : m.number = l.opened) (memory : Memory)
    (free : UInt64) (f : Module → Module) :
    (l.enter m memory free).change l.opened f = l.enter (f m) memory free := by
  have hold : l.modules.map (fun other => if other.number = l.opened then f other else other) =
      l.modules := by
    refine (List.map_congr_left ?_).trans (List.map_id _)
    intro other hother
    exact if_neg (Nat.ne_of_lt (hl other hother))
  simp [change, enter, setMemory, hold, hm]

/-- A search remembers which directories are missing, and changes nothing else. -/
theorem exists_missing_of_find {user : Module} {result : Except String OpenedFile} {m : Linker}
    (h : (find t user path).run l = (result, m)) : ∃ missing, m = { l with missing := missing } := by
  unfold find at h
  split at h
  · refine ⟨l.missing, ?_⟩
    cases hfind : findPath t user path <;> rw [hfind] at h <;> cases h <;> rfl
  · unfold findBare at h
    rw [run_get_bind, run_modify_bind] at h
    generalize (l.lists user).foldl (Trail.follow t path) (Trail.fresh l.missing) = r at h
    refine ⟨r.missing, ?_⟩
    cases hsettle : settle path r <;> rw [hsettle] at h <;> cases h <;> rfl

/-- What is not found is not loaded. -/
theorem load_of_find_eq_error {m : Linker} {words : String} (hnamed : l.named? path = none)
    (hfind : (find t program path).run l = (.error words, m)) :
    l.load t path = (.error words, m.select fun n => n < l.opened) := by
  have hfetch : (fetch t program path).run l = (.error words, m) := by
    rw [fetch, run_get_bind, hnamed]
    exact run_bind_of_eq_error hfind
  have hnew : (loadNew t path).run l = (.error words, m) := by
    rw [loadNew, run_get_bind]
    exact run_bind_of_eq_error hfetch
  rw [load, hnew]

/-- A library that is in memory with all that it needs is taken under each of its names. -/
theorem load_of_named? {m : Module} (hnamed : l.named? path = some m)
    (hmodule : l.module? m.number = some m) (hscope : m.scope.isEmpty = false) :
    l.load t path = (.ok m.number, l) := by
  have hfetch : (fetch t program path).run l = (.ok m.number, l) := by
    rw [fetch, run_get_bind, hnamed]
    rfl
  have hnew : (loadNew t path).run l = (.ok m.number, l) := by
    rw [loadNew, run_get_bind, run_bind_of_eq_ok hfetch, run_get_bind, hmodule, Option.any_some,
      hscope]
    rfl
  rw [load, hnew]

/-- A file that is found and not in memory comes there. -/
theorem fetch_of_enterFile {f : OpenedFile} {m m' : Linker} (hnamed : l.named? path = none)
    (hfind : (find t program path).run l = (.ok f, m)) (hfile : m.ofFile? f.number = none)
    (henter : enterFile t m program path f = .ok m') :
    (fetch t program path).run l = (.ok m.opened, m') := by
  unfold fetch
  rw [run_get_bind, hnamed, run_bind_of_eq_ok hfind, run_get_bind, hfile]
  dsimp only
  rw [henter]
  rfl

/-- A library that stands alone needs nothing. -/
theorem gather_alone (hl : l.Numbered) {m : Module} (hnumber : m.number = l.opened)
    (halone : m.StandsAlone) (hneeds : m.needs = []) (memory : Memory) (free : UInt64) :
    (gather t l.opened).run (l.enter m memory free) = (.ok [l.opened], l.enter m memory free) := by
  have hmodule := module?_enter hl hnumber memory free
  have hchange : (l.enter m memory free).change l.opened (fun m => { m with needs := [] }) =
      l.enter m memory free := by
    rw [change_enter hl hnumber, ← hneeds]
  -- The walk takes the library itself, finds no need, and has nothing left, however often it may go on.
  have hdone : ∀ bound, (gatherFrom t bound [l.opened] [l.opened]).run (l.enter m memory free) =
      (.ok [l.opened], l.enter m memory free) := by
    intro bound
    cases bound with
    | zero => rfl
    | succ bound =>
        rw [gatherFrom, run_get_bind]
        simp
        rfl
  have hfirst : ([l.opened].find? fun n => !List.contains [] n) = some l.opened := by
    simp
  unfold gather
  rw [run_get_bind, gatherFrom, run_get_bind, hfirst, Option.bind_some, hmodule]
  dsimp only
  rw [halone.wanted, hnumber, run_modify_bind, hchange, fetchNeeds]
  exact hdone _

/-- Libraries that stand alone are linked without doing anything. -/
theorem link_alone {first : Nat} {scope order : List Nat}
    (hnew : ∀ n m, first ≤ n → l.module? n = some m → m.StandsAlone) :
    (link first scope order).run l = (.ok ⟨⟩, l) := by
  have hall : ∀ m ∈ (order.filter fun n => first ≤ n).filterMap l.module?, m.StandsAlone := by
    intro m hm
    obtain ⟨n, hn, hmodule⟩ := List.mem_filterMap.mp hm
    exact hnew n m (of_decide_eq_true (List.mem_filter.mp hn).2) hmodule
  unfold link
  rw [run_get_bind]
  generalize (order.filter fun n => first ≤ n).filterMap l.module? = new at hall
  rw [run_bind_of_eq_ok (run_forM_of_run fun m hm => (hall m hm).relocate scope l)]
  refine run_forM_of_run fun m hm => ?_
  show (Except.ok ((prepare m).run l).1, ((prepare m).run l).2) = _
  rw [(hall m hm).prepare]

/-- A library that stands alone comes to those that were in memory when its file was found. -/
theorem load_alone {f : OpenedFile} {m : Linker} {new : Module} {memory : Memory} {free : UInt64}
    (hl : l.Numbered) (hnamed : l.named? path = none)
    (hfind : (find t program path).run l = (.ok f, m)) (hfile : m.ofFile? f.number = none)
    (henter : enterFile t m program path f = .ok (m.enter new memory free))
    (hnumber : new.number = m.opened) (hneeds : new.needs = []) (hscope : new.scope = [])
    (halone : new.StandsAlone) (hscoped : { new with scope := [m.opened] }.StandsAlone) :
    l.load t path = (.ok l.opened, m.enter { new with scope := [m.opened] } memory free) := by
  have hfetch := fetch_of_enterFile hnamed hfind hfile henter
  obtain ⟨missing, hmissing⟩ := exists_missing_of_find hfind
  have hm : m.Numbered := by
    rw [hmissing]
    exact hl
  have hopened : m.opened = l.opened := by
    rw [hmissing]
  have hnew : (loadNew t path).run l =
      (.ok m.opened, m.enter { new with scope := [m.opened] } memory free) := by
    unfold loadNew
    rw [run_get_bind, run_bind_of_eq_ok hfetch, run_get_bind, module?_enter hm hnumber,
      Option.any_some, hscope, List.isEmpty_nil, if_pos rfl,
      run_bind_of_eq_ok (gather_alone hm hnumber halone hneeds _ _), run_modify_bind,
      change_enter hm hnumber, run_get_bind, ← hopened]
    refine run_bind_of_eq_ok (link_alone ?_)
    intro n m' hn hm'
    obtain ⟨hmem, rfl⟩ := mem_of_module? hm'
    rcases List.mem_append.mp hmem with hold | hnew
    · exact absurd (hm m' hold) (Nat.not_lt.mpr hn)
    · rw [List.mem_singleton.mp hnew]
      exact hscoped
  rw [load, hnew, hopened]

end Linker
end GrammarAssay
