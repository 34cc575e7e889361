import GrammarAssay.Json.Shape
import GrammarAssay.Proofs.Report.RoundTrip

/-!
# Fields of reports

**Input.** The members of a JSON object, with any keys and any values.

**Algorithm.** A report is a record of seven fields, of which three are required. Its members are read one behind
the other, in byte order of their keys, until one does not fit; only then are the required ones missed. So
what is told is the first thing wrong in that order.

**Results.**
* `record`: the shape of a report.
* `Writes`: members that write a report.
* `Spoils`, `Spoils.unique`: what keeps members from writing one, of which there is one thing.
* `Slot.ReadBy`: readers that take what a field can have, and tell what is wrong with anything else.
* `fitsMembers_record_iff`: the members that have the shape of a report.
-/

namespace GrammarAssay
namespace Report

open Json (lookup? Expected Member Mismatch Record Shape expectText expectFlag expectText? expectCount?)
open Text.Utf8 (encode)

section Fields

/-- What a field of a report holds. The last two may be left out. -/
inductive Slot where
  | text
  | flag
  | count
  | note
deriving DecidableEq

namespace Slot

def required : Slot → Bool
  | text => true
  | flag => true
  | count => false
  | note => false

/-- The values that a field can have, but for `null`. -/
def shape : Slot → Shape
  | text => Shape.text
  | flag => Shape.flag
  | count => fun
    | .int n => 0 ≤ n && n < twoTo 64
    | _ => false
  | note => Shape.text

def expected : Slot → Expected
  | text => .text
  | flag => .flag
  | count => .count
  | note => .text

/-- The field under its key. -/
def member (slot : Slot) (key : String) : Member :=
  ⟨key, slot.shape, slot.required⟩

/-- Can the field have this value? -/
def admits (slot : Slot) : Json → Bool
  | .null => !slot.required
  | v => slot.shape v

/-- What is wrong with a value that the field cannot have. -/
def mismatch : Slot → Json → Mismatch
  | count, .int n => .range n .count
  | slot, v => .kind v slot.expected

theorem admits_member (slot : Slot) (key : String) (v : Json) :
    (slot.member key).admits (some v) = slot.admits v := by
  cases v with
  | _ => rfl

end Slot

/-- The fields of a report in their order, each with its key. -/
def fields : List (String × Slot) :=
  [("grammar", .text), ("source", .text), ("ok", .flag), ("abi_version", .count),
    ("node_kind_count", .count), ("field_count", .count), ("error", .note)]

/-- The shape of a report. -/
def record : Record :=
  fields.map fun f => f.2.member f.1

def keys : List String :=
  fields.map Prod.fst

def requiredKeys : List String :=
  (fields.filter fun f => f.2.required).map Prod.fst

theorem slot_unique {key : String} {slot slot' : Slot} (h : (key, slot) ∈ fields)
    (h' : (key, slot') ∈ fields) : slot = slot' := by
  have hone : ∀ f ∈ fields, ∀ g ∈ fields, f.1 = g.1 → f.2 = g.2 := by
    decide
  exact hone _ h _ h' rfl

end Fields

/-- How a value that may be absent is written: absence and `null` mean the same. -/
inductive Gives {α : Type} (write : α → Json) : Option Json → Option α → Prop
  | absent : Gives write none none
  | null : Gives write (some .null) none
  | given (a : α) : Gives write (some (write a)) (some a)

def writeCount (n : UInt64) : Json :=
  .int n.toNat

section Objects

variable (members : List (String × Json))

/-- Members that write a report. -/
structure Writes (r : Report) : Prop where
  grammar : lookup? "grammar" members = some (.str r.grammar)
  source : lookup? "source" members = some (.str r.source)
  ok : lookup? "ok" members = some (.bool r.ok)
  abiVersion : Gives writeCount (lookup? "abi_version" members) r.abiVersion
  nodeKindCount : Gives writeCount (lookup? "node_kind_count" members) r.nodeKindCount
  fieldCount : Gives writeCount (lookup? "field_count" members) r.fieldCount
  error : Gives .str (lookup? "error" members) r.error

/-- The member under a key is one that its field cannot have. -/
def Offends (key : String) (e : Mismatch) : Prop :=
  ∃ slot v, (key, slot) ∈ fields ∧ lookup? key members = some v ∧ slot.admits v = false ∧
    e = slot.mismatch v

/-- Nothing is wrong with the member under a key. -/
def Sound (key : String) : Prop :=
  ∀ e, ¬ Offends members key e

/-- The first required key without a member. -/
def missing? : Option String :=
  requiredKeys.find? fun key => (lookup? key members).isNone

/-- What keeps members from writing a report: of those that do not fit the one whose key comes first in byte
order, or if all fit the first required one that is absent. -/
inductive Spoils : Mismatch → Prop
  | wrong {key : String} {e : Mismatch} :
      Offends members key e →
      (∀ other, encode other < encode key → Sound members other) →
      Spoils e
  | absent {key : String} :
      (∀ other, Sound members other) →
      missing? members = some key →
      Spoils (.absent key)

end Objects

section Values

variable {v : Json}

/-- A reader for a field: it takes what the field can have, and tells what is wrong with anything else. -/
def Slot.ReadBy {α : Type} (slot : Slot) (read : Json → Except Mismatch α) : Prop :=
  ∀ v, slot.admits v = true ∧ (∃ a, read v = .ok a) ∨
    slot.admits v = false ∧ read v = .error (slot.mismatch v)

theorem readBy_expectText : Slot.text.ReadBy expectText := by
  intro v
  cases v with
  | str s => exact Or.inl ⟨rfl, s, rfl⟩
  | _ => exact Or.inr ⟨rfl, rfl⟩

theorem readBy_expectFlag : Slot.flag.ReadBy expectFlag := by
  intro v
  cases v with
  | bool b => exact Or.inl ⟨rfl, b, rfl⟩
  | _ => exact Or.inr ⟨rfl, rfl⟩

theorem readBy_expectText? : Slot.note.ReadBy expectText? := by
  intro v
  cases v with
  | null => exact Or.inl ⟨rfl, none, rfl⟩
  | str s => exact Or.inl ⟨rfl, some s, rfl⟩
  | _ => exact Or.inr ⟨rfl, rfl⟩

theorem readBy_expectCount? : Slot.count.ReadBy expectCount? := by
  intro v
  cases v with
  | null => exact Or.inl ⟨rfl, none, rfl⟩
  | int n =>
      have hadmits : Slot.count.admits (.int n) = decide (0 ≤ n ∧ n.toNat < UInt64.size) := by
        have hsize : UInt64.size = twoTo 64 := by
          rfl
        simp only [Slot.admits, Slot.shape, ← Bool.decide_and, decide_eq_decide]
        omega
      rw [hadmits, expectCount?]
      split
      · next hrange => exact Or.inl ⟨decide_eq_true hrange, _, rfl⟩
      · next hrange => exact Or.inr ⟨decide_eq_false hrange, rfl⟩
  | _ => exact Or.inr ⟨rfl, rfl⟩

theorem expectText_eq_ok_iff {s : String} : expectText v = .ok s ↔ v = .str s := by
  cases v with
  | _ => simp [expectText]

theorem expectFlag_eq_ok_iff {b : Bool} : expectFlag v = .ok b ↔ v = .bool b := by
  cases v with
  | _ => simp [expectFlag]

theorem expectText?_eq_ok_iff {o : Option String} :
    expectText? v = .ok o ↔ Gives .str (some v) o := by
  constructor
  · intro h
    cases v with
    | null =>
        cases h
        exact .null
    | str s =>
        cases h
        exact .given s
    | _ => cases h
  · intro h
    cases h with
    | null => rfl
    | given s => rfl

theorem expectCount?_eq_ok_iff {o : Option UInt64} :
    expectCount? v = .ok o ↔ Gives writeCount (some v) o := by
  constructor
  · intro h
    cases v with
    | null =>
        cases h
        exact .null
    | int n =>
        rw [expectCount?] at h
        split at h
        · next hrange =>
            cases h
            have hwrite : writeCount (UInt64.ofNat n.toNat) = .int n := by
              rw [writeCount, UInt64.toNat_ofNat_of_lt' hrange.2, Int.toNat_of_nonneg hrange.1]
            rw [← hwrite]
            exact .given _
        · cases h
    | _ => cases h
  · intro h
    cases h with
    | null => rfl
    | given n => exact Json.expectCount?_toNat n

end Values

section Spoiling

variable {members : List (String × Json)} {key : String} {e e' : Mismatch}

theorem mem_keys_of_offends (h : Offends members key e) : key ∈ keys := by
  obtain ⟨slot, v, hfield, -⟩ := h
  exact List.mem_map.mpr ⟨_, hfield, rfl⟩

theorem Offends.unique (h : Offends members key e) (h' : Offends members key e') : e = e' := by
  obtain ⟨slot, v, hfield, hmember, -, rfl⟩ := h
  obtain ⟨slot', v', hfield', hmember', -, rfl⟩ := h'
  obtain rfl := slot_unique hfield hfield'
  rw [hmember] at hmember'
  cases hmember'
  rfl

/-- Only one thing keeps members from writing a report. -/
theorem Spoils.unique (h : Spoils members e) (h' : Spoils members e') : e = e' := by
  cases h with
  | wrong hoffends hfirst =>
      cases h' with
      | wrong hoffends' hfirst' =>
          have htotal : ∀ a ∈ keys, ∀ b ∈ keys,
              encode a < encode b ∨ a = b ∨ encode b < encode a := by
            decide
          rcases htotal _ (mem_keys_of_offends hoffends) _ (mem_keys_of_offends hoffends') with
            hlt | rfl | hlt
          · exact absurd hoffends (hfirst' _ hlt e)
          · exact hoffends.unique hoffends'
          · exact absurd hoffends' (hfirst _ hlt e')
      | absent hsound _ => exact absurd hoffends (hsound _ e)
  | absent hsound hmissing =>
      cases h' with
      | wrong hoffends' _ => exact absurd hoffends' (hsound _ e')
      | absent _ hmissing' =>
          rw [hmissing] at hmissing'
          cases hmissing'
          rfl

theorem not_spoils (hsound : ∀ key, Sound members key) (hmissing : missing? members = none) :
    ¬ Spoils members e := by
  intro h
  cases h with
  | wrong hoffends _ => exact hsound _ e hoffends
  | absent _ hmissing' =>
      rw [hmissing] at hmissing'
      cases hmissing'

/-- Members have the shape of a report exactly if nothing is wrong with them and none is missing. -/
theorem fitsMembers_record_iff :
    record.fitsMembers members = true ↔ (∀ key, Sound members key) ∧ missing? members = none := by
  simp only [Record.fitsMembers, record, List.all_map, List.all_eq_true, Function.comp_apply,
    missing?, requiredKeys, List.find?_eq_none, List.forall_mem_map, List.mem_filter]
  constructor
  · intro hfits
    constructor
    · rintro key e ⟨slot, v, hfield, hmember, hadmits, -⟩
      have hfit := hfits _ hfield
      rw [Slot.member, hmember] at hfit
      rw [← Slot.admits_member slot key, Slot.member, hfit] at hadmits
      cases hadmits
    · rintro ⟨key, slot⟩ ⟨hfield, hrequired⟩ hnone
      have hfit := hfits _ hfield
      rw [Option.isNone_iff_eq_none] at hnone
      simp [Slot.member, Member.admits, hnone, hrequired] at hfit
  · rintro ⟨hsound, hpresent⟩ ⟨key, slot⟩ hfield
    cases hmember : lookup? key members with
    | none =>
        cases hrequired : slot.required with
        | false => simp [Slot.member, Member.admits, hmember, hrequired]
        | true => exact absurd (by simp [hmember]) (hpresent _ ⟨hfield, hrequired⟩)
    | some v =>
        simp only [Slot.member, hmember]
        rw [← Slot.member, Slot.admits_member]
        cases hadmits : slot.admits v with
        | true => rfl
        | false => exact absurd ⟨slot, v, hfield, hmember, hadmits, rfl⟩ (hsound key _)

end Spoiling

end Report
end GrammarAssay
