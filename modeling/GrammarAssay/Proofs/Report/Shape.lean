import GrammarAssay.Proofs.Report.Fields

/-!
# Which values are reports

**Input.** A JSON value, with any members and any items.

**Algorithm.** The members of an object are read by steps, each of which goes on or ends the reading. Items are
read in the order of the fields, so an array reads as the object that has its items under the keys.

**Results.**
* `ends_present?_bind`, `ends_required_bind`: one step of the reading.
* `ends_ofMembers`: how the reading of members ends.
* `lookup?_zip`, `ofItems_eq_ok_iff`: an array reads as an object.
* `reads_exactly_what_fits`: all of this at once.
-/

namespace GrammarAssay
namespace Report

open Json (lookup? Mismatch expectText expectFlag expectText? expectCount?)
open Text.Utf8 (encode)

/-- How the reading of members can end. -/
inductive Ends (members : List (String × Json)) : Except Mismatch Report → Prop
  | read {r : Report} :
      (∀ key, Sound members key) →
      missing? members = none →
      Writes members r →
      Ends members (.ok r)
  | spoiled {e : Mismatch} : Spoils members e → Ends members (.error e)

section Reading

variable {α : Type} {members : List (String × Json)} {key : String} {read : Json → Except Mismatch α}

theorem present?_of_lookup?_eq_none (h : lookup? key members = none) :
    present? members key read = .ok none := by
  unfold present?
  rw [h]

theorem present?_of_lookup?_eq_some {v : Json} (h : lookup? key members = some v) :
    present? members key read = (read v).map some := by
  unfold present?
  rw [h]

theorem present?_congr {others : List (String × Json)} (h : lookup? key members = lookup? key others) :
    present? members key read = present? others key read := by
  unfold present?
  rw [h]

theorem present?_eq_ok_iff {o : Option α} :
    present? members key read = .ok o ↔
      lookup? key members = none ∧ o = none ∨
        ∃ v a, lookup? key members = some v ∧ read v = .ok a ∧ o = some a := by
  cases hmember : lookup? key members with
  | none => simp [present?_of_lookup?_eq_none hmember, eq_comm]
  | some v =>
      rw [present?_of_lookup?_eq_some hmember]
      cases hread : read v with
      | error e => simp [Except.map, hread]
      | ok a => simp [Except.map, hread, eq_comm]

/-- The reading of a member fails exactly if the member offends, and tells what is wrong with it. -/
theorem present?_cases {slot : Slot} (hfield : (key, slot) ∈ fields) (hread : slot.ReadBy read) :
    (∃ o, present? members key read = .ok o) ∧ Sound members key ∨
      ∃ e, present? members key read = .error e ∧ Offends members key e := by
  cases hmember : lookup? key members with
  | none =>
      refine Or.inl ⟨⟨none, present?_of_lookup?_eq_none hmember⟩, ?_⟩
      rintro e ⟨_, v, -, hmember', -⟩
      rw [hmember] at hmember'
      cases hmember'
  | some v =>
      rw [present?_of_lookup?_eq_some hmember]
      rcases hread v with ⟨hadmits, a, ha⟩ | ⟨hadmits, herror⟩
      · refine Or.inl ⟨⟨some a, by rw [ha]; rfl⟩, ?_⟩
        rintro e ⟨slot', v', hfield', hmember', hadmits', -⟩
        obtain rfl := slot_unique hfield hfield'
        rw [hmember] at hmember'
        cases hmember'
        rw [hadmits] at hadmits'
        cases hadmits'
      · exact Or.inr ⟨slot.mismatch v, by rw [herror]; rfl, slot, v, hfield, hmember, hadmits, rfl⟩

/-- A member is read behind those whose keys come before its own in byte order. -/
theorem ends_present?_bind {slot : Slot} {next : Option α → Except Mismatch Report}
    (front : List String) (hfield : (key, slot) ∈ fields) (hread : slot.ReadBy read)
    (horder : ∀ other ∈ keys, encode other < encode key → other ∈ front)
    (hfront : ∀ other ∈ front, Sound members other)
    (hnext : ∀ o, present? members key read = .ok o →
      (∀ other ∈ key :: front, Sound members other) → Ends members (next o)) :
    Ends members (present? members key read >>= next) := by
  rcases present?_cases hfield hread with ⟨⟨o, ho⟩, hsound⟩ | ⟨e, he, hoffends⟩
  · rw [ho]
    exact hnext o ho (List.forall_mem_cons.mpr ⟨hsound, hfront⟩)
  · rw [he]
    refine .spoiled (.wrong hoffends ?_)
    intro other hlt e' hoffends'
    exact hfront other (horder other (mem_keys_of_offends hoffends') hlt) e' hoffends'

/-- The required members are missed behind all others. -/
theorem ends_required_bind {o : Option α} {next : α → Except Mismatch Report}
    (hsound : ∀ other, Sound members other) (habsent : o = none → missing? members = some key)
    (hnext : ∀ a, o = some a → Ends members (next a)) :
    Ends members (required key o >>= next) := by
  cases o with
  | none => exact .spoiled (.absent hsound (habsent rfl))
  | some a => exact hnext a rfl

theorem lookup?_of_present?_eq_ok {write : α → Json}
    (hread : ∀ {v a}, read v = .ok a ↔ v = write a) {o : Option α}
    (h : present? members key read = .ok o) : lookup? key members = o.map write := by
  rcases present?_eq_ok_iff.mp h with ⟨hmember, rfl⟩ | ⟨v, a, hmember, hvalue, rfl⟩
  · exact hmember
  · rw [hmember, hread.mp hvalue, Option.map_some]

end Reading

section ReadingOptional

variable {α : Type} {members : List (String × Json)} {key : String}
  {read : Json → Except Mismatch (Option α)} {write : α → Json}

theorem gives_of_present?_eq_ok (hread : ∀ {v o}, read v = .ok o ↔ Gives write (some v) o)
    {o : Option (Option α)} (h : present? members key read = .ok o) :
    Gives write (lookup? key members) o.join := by
  rcases present?_eq_ok_iff.mp h with ⟨hmember, rfl⟩ | ⟨v, a, hmember, hvalue, rfl⟩
  · rw [hmember]
    exact .absent
  · rw [hmember]
    exact hread.mp hvalue

theorem exists_present?_of_gives (hread : ∀ {v o}, read v = .ok o ↔ Gives write (some v) o)
    {o : Option α} (h : Gives write (lookup? key members) o) :
    ∃ o', present? members key read = .ok o' ∧ o'.join = o := by
  cases hmember : lookup? key members with
  | none =>
      rw [hmember] at h
      cases h
      exact ⟨none, present?_of_lookup?_eq_none hmember, rfl⟩
  | some v =>
      rw [hmember] at h
      refine ⟨some o, ?_, rfl⟩
      rw [present?_of_lookup?_eq_some hmember, hread.mpr h]
      rfl

end ReadingOptional

section ReadingObjects

variable {members others : List (String × Json)}

theorem missing?_eq :
    missing? members =
      ["grammar", "source", "ok"].find? fun key => (lookup? key members).isNone := by
  rfl

/-- The reading of members ends with a report that they write, or with what keeps them from writing one. -/
theorem ends_ofMembers (members : List (String × Json)) : Ends members (ofMembers members) := by
  unfold ofMembers
  refine ends_present?_bind [] (by decide) readBy_expectCount? (by decide) (by simp)
    fun abiVersion habiVersion hsound => ?_
  refine ends_present?_bind _ (by decide) readBy_expectText? (by decide) hsound
    fun error herror hsound => ?_
  refine ends_present?_bind _ (by decide) readBy_expectCount? (by decide) hsound
    fun fieldCount hfieldCount hsound => ?_
  refine ends_present?_bind _ (by decide) readBy_expectText (by decide) hsound
    fun grammar hgrammar hsound => ?_
  refine ends_present?_bind _ (by decide) readBy_expectCount? (by decide) hsound
    fun nodeKindCount hnodeKindCount hsound => ?_
  refine ends_present?_bind _ (by decide) readBy_expectFlag (by decide) hsound
    fun ok hok hsound => ?_
  refine ends_present?_bind _ (by decide) readBy_expectText (by decide) hsound
    fun source hsource hsound => ?_
  have hgrammar := lookup?_of_present?_eq_ok expectText_eq_ok_iff hgrammar
  have hsource := lookup?_of_present?_eq_ok expectText_eq_ok_iff hsource
  have hok := lookup?_of_present?_eq_ok expectFlag_eq_ok_iff hok
  have hall : ∀ other, Sound members other := by
    intro other e hoffends
    have hread : ∀ key ∈ keys, key ∈ ["source", "ok", "node_kind_count", "grammar", "field_count",
        "error", "abi_version"] := by
      decide
    exact hsound other (hread other (mem_keys_of_offends hoffends)) e hoffends
  refine ends_required_bind hall ?_ ?_
  · rintro rfl
    simp [missing?_eq, List.find?, hgrammar]
  rintro grammar rfl
  refine ends_required_bind hall ?_ ?_
  · rintro rfl
    simp [missing?_eq, List.find?, hgrammar, hsource]
  rintro source rfl
  refine ends_required_bind hall ?_ ?_
  · rintro rfl
    simp [missing?_eq, List.find?, hgrammar, hsource, hok]
  rintro ok rfl
  refine .read hall (by simp [missing?_eq, List.find?, hgrammar, hsource, hok]) ?_
  exact ⟨hgrammar, hsource, hok, gives_of_present?_eq_ok expectCount?_eq_ok_iff habiVersion,
    gives_of_present?_eq_ok expectCount?_eq_ok_iff hnodeKindCount,
    gives_of_present?_eq_ok expectCount?_eq_ok_iff hfieldCount,
    gives_of_present?_eq_ok expectText?_eq_ok_iff herror⟩

theorem ofMembers_of_writes {r : Report} (h : Writes members r) : ofMembers members = .ok r := by
  have hgrammar : present? members "grammar" expectText = .ok (some r.grammar) :=
    present?_of_lookup? h.grammar rfl
  have hsource : present? members "source" expectText = .ok (some r.source) :=
    present?_of_lookup? h.source rfl
  have hok : present? members "ok" expectFlag = .ok (some r.ok) :=
    present?_of_lookup? h.ok rfl
  obtain ⟨_, habiVersion, hfirst⟩ := exists_present?_of_gives expectCount?_eq_ok_iff h.abiVersion
  obtain ⟨_, hnodeKindCount, hsecond⟩ :=
    exists_present?_of_gives expectCount?_eq_ok_iff h.nodeKindCount
  obtain ⟨_, hfieldCount, hthird⟩ := exists_present?_of_gives expectCount?_eq_ok_iff h.fieldCount
  obtain ⟨_, herror, hlast⟩ := exists_present?_of_gives expectText?_eq_ok_iff h.error
  rw [ofMembers, habiVersion, herror, hfieldCount, hgrammar, hnodeKindCount, hok, hsource]
  simp only [required, hfirst, hsecond, hthird, hlast, bind, Except.bind, pure, Except.pure]

theorem ofMembers_eq_ok_iff {r : Report} : ofMembers members = .ok r ↔ Writes members r := by
  constructor
  · intro h
    have hends := ends_ofMembers members
    rw [h] at hends
    cases hends with
    | read _ _ hwrites => exact hwrites
  · exact ofMembers_of_writes

/-- Members read as some report exactly if they have the shape of one. -/
theorem exists_ofMembers_eq_ok_iff :
    (∃ r, ofMembers members = .ok r) ↔ record.fitsMembers members = true := by
  have hends := ends_ofMembers members
  rw [fitsMembers_record_iff]
  constructor
  · rintro ⟨r, h⟩
    rw [h] at hends
    cases hends with
    | read hsound hmissing _ => exact ⟨hsound, hmissing⟩
  · rintro ⟨hsound, hmissing⟩
    cases hrun : ofMembers members with
    | ok r => exact ⟨r, rfl⟩
    | error e =>
        rw [hrun] at hends
        cases hends with
        | spoiled hspoils => exact absurd hspoils (not_spoils hsound hmissing)

theorem ofMembers_eq_error_iff {e : Mismatch} : ofMembers members = .error e ↔ Spoils members e := by
  have hends := ends_ofMembers members
  constructor
  · intro h
    rw [h] at hends
    cases hends with
    | spoiled hspoils => exact hspoils
  · intro hspoils
    cases hrun : ofMembers members with
    | error e' =>
        rw [hrun] at hends
        cases hends with
        | spoiled hspoils' => rw [hspoils.unique hspoils']
    | ok r =>
        rw [hrun] at hends
        cases hends with
        | read hsound hmissing _ => exact absurd hspoils (not_spoils hsound hmissing)

/-- Members under other keys are passed over. -/
theorem ofMembers_congr (h : ∀ key ∈ keys, lookup? key members = lookup? key others) :
    ofMembers members = ofMembers others := by
  unfold ofMembers
  rw [present?_congr (h "abi_version" (by decide)), present?_congr (h "error" (by decide)),
    present?_congr (h "field_count" (by decide)), present?_congr (h "grammar" (by decide)),
    present?_congr (h "node_kind_count" (by decide)), present?_congr (h "ok" (by decide)),
    present?_congr (h "source" (by decide))]

end ReadingObjects

section ReadingArrays

variable {items : List Json} {i : Nat} {key : String}

theorem bind_eq_ok_iff {ε α β : Type} {x : Except ε α} {f : α → Except ε β} {b : β} :
    x >>= f = .ok b ↔ ∃ a, x = .ok a ∧ f a = .ok b := by
  cases x with
  | error e => simp [bind, Except.bind]
  | ok a => simp [bind, Except.bind]

theorem item_eq_ok_iff {α : Type} {read : Json → Except Mismatch α} {write : α → Json}
    (hread : ∀ {v a}, read v = .ok a ↔ v = write a) {a : α} :
    item items i read = .ok a ↔ items[i]? = some (write a) := by
  unfold item
  cases items[i]? with
  | none => simp
  | some v => simp [hread]

theorem item?_eq_ok_iff {α : Type} {read : Json → Except Mismatch (Option α)} {write : α → Json}
    (hread : ∀ {v o}, read v = .ok o ↔ Gives write (some v) o) {o : Option α} :
    item? items i read = .ok o ↔ Gives write items[i]? o := by
  unfold item?
  cases items[i]? with
  | some v => exact hread
  | none =>
      constructor
      · intro h
        cases h
        exact .absent
      · intro h
        cases h
        rfl

theorem lookup?_eq_none_of_forall {members : List (String × Json)} (h : ∀ m ∈ members, m.1 ≠ key) :
    lookup? key members = none := by
  induction members with
  | nil => rfl
  | cons m members ih =>
      rw [List.forall_mem_cons] at h
      rw [lookup?, ih h.2, if_neg h.1]
      rfl

/-- What is paired with names is found under them. -/
theorem lookup?_zip {names : List String} (hnodup : names.Nodup) (h : names[i]? = some key) :
    lookup? key (names.zip items) = items[i]? := by
  induction names generalizing items i with
  | nil => simp at h
  | cons name names ih =>
      rw [List.nodup_cons] at hnodup
      cases items with
      | nil => rfl
      | cons v items =>
          rw [List.zip_cons_cons, lookup?]
          cases i with
          | zero =>
              obtain rfl : name = key := by simpa using h
              rw [lookup?_eq_none_of_forall, if_pos rfl]
              · rfl
              · rintro m hmem rfl
                exact hnodup.1 (List.of_mem_zip hmem).1
          | succ i =>
              rw [List.getElem?_cons_succ] at h
              have hne : name ≠ key := by
                rintro rfl
                exact hnodup.1 (List.mem_of_getElem? h)
              rw [ih hnodup.2 h, if_neg hne, Option.or_none, List.getElem?_cons_succ]

theorem lookup?_zip_keys (h : keys[i]? = some key) : lookup? key (keys.zip items) = items[i]? :=
  lookup?_zip (by decide) h

theorem ofItems_eq_ok_iff {r : Report} :
    ofItems items = .ok r ↔ items.length ≤ 7 ∧ Writes (keys.zip items) r := by
  have hgrammar : lookup? "grammar" (keys.zip items) = items[0]? := lookup?_zip_keys rfl
  have hsource : lookup? "source" (keys.zip items) = items[1]? := lookup?_zip_keys rfl
  have hok : lookup? "ok" (keys.zip items) = items[2]? := lookup?_zip_keys rfl
  have habiVersion : lookup? "abi_version" (keys.zip items) = items[3]? := lookup?_zip_keys rfl
  have hnodeKindCount : lookup? "node_kind_count" (keys.zip items) = items[4]? :=
    lookup?_zip_keys rfl
  have hfieldCount : lookup? "field_count" (keys.zip items) = items[5]? := lookup?_zip_keys rfl
  have herror : lookup? "error" (keys.zip items) = items[6]? := lookup?_zip_keys rfl
  unfold ofItems
  simp only [bind_eq_ok_iff, item_eq_ok_iff expectText_eq_ok_iff,
    item_eq_ok_iff expectFlag_eq_ok_iff, item?_eq_ok_iff expectCount?_eq_ok_iff,
    item?_eq_ok_iff expectText?_eq_ok_iff, ← hgrammar, ← hsource, ← hok, ← habiVersion,
    ← hnodeKindCount, ← hfieldCount, ← herror]
  constructor
  · rintro ⟨grammar, hgrammar, source, hsource, ok, hok, abiVersion, habiVersion, nodeKindCount,
      hnodeKindCount, fieldCount, hfieldCount, error, herror, h⟩
    split at h
    · cases h
    · cases h
      exact ⟨by omega, hgrammar, hsource, hok, habiVersion, hnodeKindCount, hfieldCount, herror⟩
  · rintro ⟨hlength, hgrammar, hsource, hok, habiVersion, hnodeKindCount, hfieldCount, herror⟩
    refine ⟨_, hgrammar, _, hsource, _, hok, _, habiVersion, _, hnodeKindCount, _, hfieldCount, _,
      herror, ?_⟩
    rw [if_neg (by omega)]
    rfl

/-- Reading an array gives what reading the object with the same fields gives. -/
theorem ofItems_eq_ok_iff_zip {r : Report} :
    ofItems items = .ok r ↔
      3 ≤ items.length ∧ items.length ≤ 7 ∧ ofMembers (keys.zip items) = .ok r := by
  rw [ofItems_eq_ok_iff, ofMembers_eq_ok_iff]
  constructor
  · rintro ⟨hlength, hwrites⟩
    have hok := hwrites.ok
    rw [lookup?_zip_keys (i := 2) rfl] at hok
    obtain ⟨hlong, -⟩ := List.getElem?_eq_some_iff.mp hok
    exact ⟨hlong, hlength, hwrites⟩
  · rintro ⟨-, hlength, hwrites⟩
    exact ⟨hlength, hwrites⟩

end ReadingArrays

/-- **Which values are reports.** An object reads as a report exactly if its members write that report, and it
does so for some report exactly if it has the shape of one: grammar and source are strings, the outcome is a
truth value, each count is absent, `null` or an integer of 64 bits without sign, and the error is absent, `null`
or a string. If it does not, the reason is the first known member in byte order that does not fit, or if all
fit the first required one that is absent. Members under other keys do not matter. An array reads as a report
exactly if it has three to seven items and the object that has them under the keys reads as that report. No
other value is a report. -/
theorem reads_exactly_what_fits :
    (∀ members r, ofJson (.obj members) = .ok r ↔ Writes members r) ∧
    (∀ members, (∃ r, ofJson (.obj members) = .ok r) ↔ record.fitsMembers members = true) ∧
    (∀ members e, ofJson (.obj members) = .error e ↔ Spoils members e) ∧
    (∀ members others, (∀ key ∈ keys, lookup? key members = lookup? key others) →
      ofJson (.obj members) = ofJson (.obj others)) ∧
    (∀ items r, ofJson (.arr items) = .ok r ↔
      3 ≤ items.length ∧ items.length ≤ 7 ∧ ofJson (.obj (keys.zip items)) = .ok r) ∧
    ∀ v : Json, (∀ members, v ≠ .obj members) → (∀ items, v ≠ .arr items) →
      ofJson v = .error (.kind v (.record "VerifyReport")) := by
  refine ⟨fun members r => ofMembers_eq_ok_iff, fun members => exists_ofMembers_eq_ok_iff,
    fun members e => ofMembers_eq_error_iff, fun members others => ofMembers_congr,
    fun items r => ofItems_eq_ok_iff_zip, ?_⟩
  intro v hobj harr
  cases v with
  | obj members => exact absurd rfl (hobj members)
  | arr items => exact absurd rfl (harr items)
  | _ => rfl

/-- The error is read before the grammar, though it is written behind it. Four items make a report. -/
theorem reads_exactly_what_fits_twoFaults :
    ofJson (.obj [("grammar", .int 5), ("error", .bool true)]) = .error (.kind (.bool true) .text) ∧
    ofJson (.arr [.str "g", .str "s", .bool true, .int 14]) =
      .ok ⟨"g", "s", true, some 14, none, none, none⟩ := by
  obtain ⟨hread, -, hspoiled, -, harray, -⟩ := reads_exactly_what_fits
  constructor
  · have hoffends : Offends [("grammar", .int 5), ("error", .bool true)] "error"
        (.kind (.bool true) .text) :=
      ⟨.note, .bool true, by decide, rfl, rfl, rfl⟩
    refine (hspoiled _ _).mpr (.wrong hoffends ?_)
    rintro other hlt e ⟨slot, v, hfield, hmember, -⟩
    have hbefore : ∀ f ∈ fields, encode f.1 < encode "error" → f.1 = "abi_version" := by
      decide
    obtain rfl : other = "abi_version" := hbefore _ hfield hlt
    cases hmember
  · refine (harray _ _).mpr ⟨by decide, by decide, (hread _ _).mpr ?_⟩
    exact ⟨rfl, rfl, rfl, .given 14, .absent, .absent, .absent⟩

end Report
end GrammarAssay
