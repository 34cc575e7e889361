import GrammarAssay.Json.RoundTrip
import GrammarAssay.Proofs.Tool.Arguments
import GrammarAssay.Report.Decode

/-!
# Reports read back from their text

**Input.** A report, with any texts and any counts of 64 bits.

**Algorithm.** The members of an object are looked up by key, wherever they stand. An absent value is left out
of the object, is looked up in vain, and reads as absent. The numbers of a report have 64 bits, so its text
reads back as the object.

**Results.**
* `lookup?_append`, `lookup?_toList_map`: what is looked up in joined members, and in one that may be absent.
* `member?_toJson`: what the object of a report holds under a key.
* `ofJson_toJson`: the object reads back.
* `parse?_render_eq_toJson`: its text does.
* `reads_back_from_render`: a report reads back from its text, and from the answer of the tool.
-/

namespace GrammarAssay
namespace Json

section Members

variable {α : Type} {key other : String}

theorem lookup?_append (front back : List (String × Json)) :
    lookup? key (front ++ back) = (lookup? key back).or (lookup? key front) := by
  induction front with
  | nil => simp [lookup?]
  | cons m front ih =>
      obtain ⟨k, v⟩ := m
      rw [List.cons_append, lookup?, lookup?, ih, Option.or_assoc]

theorem lookup?_toList_map (write : α → Json) (v : Option α) :
    lookup? key (v.map fun a => (other, write a)).toList =
      if other = key then v.map write else none := by
  cases v with
  | none => simp [lookup?]
  | some a => simp [lookup?]

theorem exactMembers_append (front back : List (String × Json)) :
    exactMembers (front ++ back) = (exactMembers front && exactMembers back) := by
  induction front with
  | nil => rfl
  | cons m front ih =>
      obtain ⟨k, v⟩ := m
      rw [List.cons_append, exactMembers, exactMembers, ih, Bool.and_assoc]

end Members

section Values

/-- A count of 64 bits reads back. -/
theorem expectCount?_toNat (n : UInt64) : expectCount? (.int n.toNat) = .ok (some n) := by
  have hrange : (0 : Int) ≤ (n.toNat : Int) ∧ (n.toNat : Int).toNat < UInt64.size := by
    refine ⟨Int.natCast_nonneg _, ?_⟩
    rw [Int.toNat_natCast]
    exact n.toNat_lt
  rw [expectCount?, if_pos hrange, Int.toNat_natCast, UInt64.ofNat_toNat]

/-- A text reads back where it may be absent. -/
theorem expectText?_str (s : String) : expectText? (.str s) = .ok (some s) := by
  rfl

theorem inRange_toNat (n : UInt64) : inRange n.toNat = true := by
  have hlt : n.toNat < twoTo 64 := n.toNat_lt
  rw [inRange, Bool.and_eq_true, decide_eq_true_iff, decide_eq_true_iff]
  omega

end Values
end Json

namespace Report

open Json (lookup? exactMembers)

/-- What the object of a report holds under a key. -/
theorem member?_toJson (r : Report) (key : String) :
    r.toJson.member? key =
      if key = "grammar" then some (.str r.grammar)
      else if key = "source" then some (.str r.source)
      else if key = "ok" then some (.bool r.ok)
      else if key = "abi_version" then r.abiVersion.map fun n => .int n.toNat
      else if key = "node_kind_count" then r.nodeKindCount.map fun n => .int n.toNat
      else if key = "field_count" then r.fieldCount.map fun n => .int n.toNat
      else if key = "error" then r.error.map .str
      else none := by
  simp only [toJson, Json.member?, lookup?, Json.lookup?_append, countMember, textMember,
    Json.lookup?_toList_map]
  grind

section Reading

variable {α : Type} {members : List (String × Json)} {key : String}

/-- A member reads back if its value does. -/
theorem present?_of_lookup? {read : Json → Except Json.Mismatch α} {j : Json} {a : α}
    (hmember : lookup? key members = some j) (hread : read j = .ok a) :
    present? members key read = .ok (some a) := by
  unfold present?
  rw [hmember]
  dsimp only
  rw [hread]
  rfl

/-- A member that may be absent reads back if each of its values does. -/
theorem present?_of_lookup?_map {read : Json → Except Json.Mismatch (Option α)} {write : α → Json}
    (hread : ∀ a, read (write a) = .ok (some a)) {v : Option α}
    (hmember : lookup? key members = v.map write) :
    present? members key read = .ok (v.map some) := by
  cases v with
  | none =>
      unfold present?
      rw [hmember]
      rfl
  | some a => exact present?_of_lookup? hmember (hread a)

theorem join_map_some (v : Option α) : (v.map some).join = v := by
  cases v with
  | none => rfl
  | some a => rfl

/-- The object of a report reads back as the report. -/
theorem ofJson_toJson (r : Report) : ofJson r.toJson = .ok r := by
  have hmember := member?_toJson r
  rw [toJson] at hmember ⊢
  simp only [Json.member?] at hmember
  rw [ofJson, ofMembers]
  rw [present?_of_lookup?_map Json.expectCount?_toNat (v := r.abiVersion) (by rw [hmember]; rfl)]
  rw [present?_of_lookup?_map Json.expectText?_str (v := r.error) (by rw [hmember]; rfl)]
  rw [present?_of_lookup?_map Json.expectCount?_toNat (v := r.fieldCount) (by rw [hmember]; rfl)]
  rw [present?_of_lookup? (a := r.grammar) (by rw [hmember]; rfl) rfl]
  rw [present?_of_lookup?_map Json.expectCount?_toNat (v := r.nodeKindCount) (by rw [hmember]; rfl)]
  rw [present?_of_lookup? (a := r.ok) (by rw [hmember]; rfl) rfl]
  rw [present?_of_lookup? (a := r.source) (by rw [hmember]; rfl) rfl]
  simp only [required, join_map_some, bind, Except.bind, pure, Except.pure]

end Reading

section Printing

theorem exactMembers_countMember (key : String) (n : Option UInt64) :
    exactMembers (countMember key n) = true := by
  cases n with
  | none => rfl
  | some n => simp [countMember, exactMembers, Json.isExact, Json.inRange_toNat]

theorem exactMembers_textMember (key : String) (s : Option String) :
    exactMembers (textMember key s) = true := by
  cases s with
  | none => rfl
  | some s => rfl

/-- The text of a report reads back as its object. -/
theorem parse?_render_eq_toJson (r : Report) : Json.parse? r.render = some r.toJson := by
  refine Json.parse?_render ?_
  simp [toJson, Json.isExact, exactMembers, Json.exactMembers_append, exactMembers_countMember,
    exactMembers_textMember]

theorem map_ofJson_parse?_render (r : Report) :
    (Json.parse? r.render).map ofJson = some (.ok r) := by
  rw [parse?_render_eq_toJson, Option.map_some, ofJson_toJson]

theorem render_injective {r r' : Report} (h : r.render = r'.render) : r = r' := by
  have hread := map_ofJson_parse?_render r
  rw [h, map_ofJson_parse?_render r'] at hread
  cases hread
  rfl

end Printing

/-- **Reports read back.** The text of a report reads back as that report, so no two reports have one text.
Whenever the tool that verifies a grammar reports, it answers with one text, which reads back as the
report. -/
theorem reads_back_from_render :
    (∀ r : Report, (Json.parse? r.render).map ofJson = some (.ok r)) ∧
    (∀ r r' : Report, r.render = r'.render → r = r') ∧
    ∀ t paths arguments l r m, (Verify.report t paths arguments).run l = (.ok r, m) →
      ∃ answer, (Verify.run t paths arguments).run l = (.ok answer, m) ∧
        answer.toJson =
          .obj [("content", .arr [.obj [("text", .str answer.text), ("type", .str "text")]])] ∧
        (Json.parse? answer.text).map ofJson = some (.ok r) := by
  refine ⟨map_ofJson_parse?_render, fun r r' => render_injective, ?_⟩
  · intro t paths arguments l r m h
    refine ⟨.ofText r.render, ?_, rfl, map_ofJson_parse?_render r⟩
    rw [Verify.run_eq_map_report, h]
    rfl

end Report
end GrammarAssay
