import GrammarAssay.Proofs.Memory.Reading

/-!
# Bytes that stand in memory

**Input.** Memory, and bytes that stand there from an address on.

**Algorithm.** Of bytes that follow each other, those behind stand where those in front end. So numbers, addresses
and texts that are written one behind the other are read where the sizes of what is in front of them tell. Bytes that
are put into empty memory stand there, if an address can be reckoned for each.

**Results.**
* `littleEndian`: the bytes of a number.
* `Memory.Holds`: bytes stand in memory.
* `holds_append`, `holds_flatMap`: where bytes stand that follow others.
* `number_of_holds`, `word_of_holds`, `text_of_holds`: what is read where they stand.
* `holds_map_ofBytes`: bytes that are put into empty memory.
-/

namespace GrammarAssay

/-- The bytes of a number, the lowest first. -/
def littleEndian (n : Nat) : Nat → Bytes
  | 0 => []
  | width + 1 => UInt8.ofNat n :: littleEndian (n / 256) width

/-- How many numbers there are that so many bytes can write. -/
def countOfWidth : Nat → Nat
  | 0 => 1
  | width + 1 => 256 * countOfWidth width

@[simp] theorem length_littleEndian (n width : Nat) : (littleEndian n width).length = width := by
  induction width generalizing n with
  | zero => rfl
  | succ width ih => rw [littleEndian, List.length_cons, ih]

theorem length_flatMap_of_forall {α : Type} {f : α → Bytes} {width : Nat}
    (hwidth : ∀ x, (f x).length = width) (list : List α) :
    (list.flatMap f).length = width * list.length := by
  induction list with
  | nil => rfl
  | cons x rest ih =>
      rw [List.flatMap_cons, List.length_append, hwidth, ih, List.length_cons, Nat.mul_succ,
        Nat.add_comm]

namespace Memory

/-- Do bytes stand in memory from an address on? -/
def Holds (m : Memory) (address : UInt64) : Bytes → Prop
  | [] => True
  | b :: rest => m.byte address = b ∧ m.Holds (address + 1) rest

section Standing

variable {m : Memory} {address : UInt64}

theorem add_one_add_ofNat (address : UInt64) (n : Nat) :
    address + 1 + UInt64.ofNat n = address + UInt64.ofNat (n + 1) := by
  rw [Nat.add_comm, UInt64.ofNat_add, UInt64.add_assoc]
  rfl

theorem holds_append {front back : Bytes} :
    m.Holds address (front ++ back) ↔
      m.Holds address front ∧ m.Holds (address + UInt64.ofNat front.length) back := by
  induction front generalizing address with
  | nil => simp [Holds]
  | cons b front ih =>
      rw [List.cons_append, Holds, Holds, ih, add_one_add_ofNat, and_assoc, List.length_cons]

theorem holds_of_forall {bytes : Bytes}
    (h : ∀ i, (hi : i < bytes.length) → m.byte (address + UInt64.ofNat i) = bytes[i]) :
    m.Holds address bytes := by
  induction bytes generalizing address with
  | nil => trivial
  | cons b rest ih =>
      refine ⟨by simpa using h 0 (Nat.zero_lt_succ _), ih fun i hi => ?_⟩
      rw [add_one_add_ofNat]
      exact h (i + 1) (Nat.succ_lt_succ hi)

/-- Of lists of one length, each stands behind those in front of it. -/
theorem holds_flatMap {α : Type} {f : α → Bytes} {width : Nat} (hwidth : ∀ x, (f x).length = width)
    {list : List α} (h : m.Holds address (list.flatMap f)) {i : Nat} (hi : i < list.length) :
    m.Holds (address + UInt64.ofNat (width * i)) (f list[i]) := by
  induction list generalizing address i with
  | nil => cases hi
  | cons x rest ih =>
      rw [List.flatMap_cons, holds_append, hwidth] at h
      obtain ⟨hfirst, hrest⟩ := h
      cases i with
      | zero => simpa using hfirst
      | succ i =>
          have hplace : address + UInt64.ofNat width + UInt64.ofNat (width * i) =
              address + UInt64.ofNat (width * (i + 1)) := by
            rw [Nat.mul_succ, Nat.add_comm, UInt64.ofNat_add, UInt64.add_assoc]
          rw [← hplace]
          exact ih hrest (Nat.lt_of_succ_lt_succ hi)

/-- A number that stands in memory is read. -/
theorem number_of_holds {n width : Nat} (hn : n < countOfWidth width)
    (h : m.Holds address (littleEndian n width)) : m.number address width = n := by
  rw [number_eq_numberIn]
  induction width generalizing address n with
  | zero => exact (Nat.lt_one_iff.mp hn).symm
  | succ width ih =>
      obtain ⟨hbyte, hrest⟩ := h
      have hlt : n / 256 < countOfWidth width := Nat.div_lt_of_lt_mul hn
      rw [numberIn, hbyte, ih hlt hrest, UInt8.toNat_ofNat']
      exact Nat.mod_add_div n 256

theorem word_of_holds {value : UInt64} (h : m.Holds address (littleEndian value.toNat 8)) :
    m.word address = value := by
  rw [word, number_of_holds value.toNat_lt h, UInt64.ofNat_toNat]

/-- A text that stands in memory, with a zero behind it, is read. -/
theorem text_of_holds {text : Bytes} (hzero : 0 ∉ text) (hlength : text.length < longestText)
    (h : m.Holds address (text ++ [0])) : m.text address = text := by
  unfold Memory.text
  generalize longestText = bound at hlength
  induction text generalizing address bound with
  | nil =>
      obtain ⟨bound, rfl⟩ := Nat.exists_eq_add_of_lt hlength
      obtain ⟨hend, -⟩ := h
      simp [textUpTo, hend]
  | cons b rest ih =>
      obtain ⟨left, rfl⟩ := Nat.exists_eq_add_of_lt hlength
      obtain ⟨hbyte, hrest⟩ := h
      have hb : b ≠ 0 := fun hb => hzero (hb ▸ List.mem_cons_self)
      have hleft := ih (fun h0 => hzero (List.mem_cons_of_mem _ h0)) hrest
        (rest.length + 1 + left) (by omega)
      rw [List.length_cons, textUpTo, hbyte, if_neg hb, hleft]

end Standing

end Memory

/-! ### Bytes that are put into memory -/

/-- A segment that stands in memory as the bytes of its file do. -/
def Segment.ofSize (size : Nat) : Segment :=
  ⟨1, 4, 0, 0, UInt64.ofNat size, UInt64.ofNat size, pageSize⟩

/-- Bytes that are put into memory as they are, from an address on. -/
def MappedFile.ofBytes (bytes : Bytes) (address : UInt64) : MappedFile :=
  ⟨bytes.toArray, bytes.length, [.ofSize bytes.length], address⟩

section Putting

variable {bytes : Bytes} {size i : Nat}

theorem toNat_ofNat_of_lt {n : Nat} (h : n < 0x8000000000000000) : (UInt64.ofNat n).toNat = n :=
  UInt64.toNat_ofNat_of_lt' (Nat.lt_trans h (by decide))

theorem le_pageEnd {n : UInt64} (h : n.toNat < 0x8000000000000000) : n ≤ pageEnd n := by
  have hpage : (n + (pageSize - 1)).toNat = n.toNat + 4095 := by
    rw [UInt64.toNat_add]
    exact Nat.mod_eq_of_lt (by simp only [pageSize, UInt64.reduceSub, UInt64.reduceToNat]; omega)
  have hmod : ((n + (pageSize - 1)) % pageSize).toNat = (n.toNat + 4095) % 4096 := by
    rw [UInt64.toNat_mod, hpage]
    rfl
  rw [UInt64.le_iff_toNat_le, pageEnd, pageStart, UInt64.toNat_sub_of_le]
  · rw [hmod, hpage]
    omega
  · rw [UInt64.le_iff_toNat_le, hmod, hpage]
    omega

theorem Segment.start_ofSize (size : Nat) :
    (ofSize size).start = 0 ∧ (ofSize size).source = 0 := by
  constructor
  · show pageStart 0 = 0
    decide
  · show pageStart 0 = 0
    decide

theorem Segment.holds_ofSize (hsize : size < 0x8000000000000000) (hi : i < size) :
    (ofSize size).holds (UInt64.ofNat i) = true := by
  have hend : (ofSize size).mappedEnd = pageEnd (UInt64.ofNat size) ∧
      pageEnd (ofSize size).memoryEnd = pageEnd (UInt64.ofNat size) :=
    ⟨congrArg pageEnd (UInt64.zero_add _), congrArg pageEnd (UInt64.zero_add _)⟩
  have hmax : max (pageEnd (UInt64.ofNat size)) (pageEnd (UInt64.ofNat size)) =
      pageEnd (UInt64.ofNat size) := ite_self _
  have hsize' := toNat_ofNat_of_lt hsize
  have hlt : UInt64.ofNat i < pageEnd (UInt64.ofNat size) := by
    refine UInt64.lt_of_lt_of_le ?_ (le_pageEnd (by rwa [hsize']))
    rwa [UInt64.lt_iff_toNat_lt, hsize', toNat_ofNat_of_lt (Nat.lt_trans hi hsize)]
  rw [holds, (start_ofSize size).1, hend.1, hend.2, hmax, Bool.and_eq_true]
  exact ⟨decide_eq_true UInt64.zero_le, decide_eq_true hlt⟩

theorem MappedFile.byte?_ofBytes (hlength : bytes.length < 0x8000000000000000) (address : UInt64)
    (hi : i < bytes.length) :
    (ofBytes bytes address).byte? (address + UInt64.ofNat i) = some bytes[i] := by
  have hplace : address + UInt64.ofNat i - address = UInt64.ofNat i := by
    rw [UInt64.add_comm, UInt64.add_sub_cancel]
  have hfind : (ofBytes bytes address).segments.reverse.find? (fun s =>
      s.holds (address + UInt64.ofNat i - (ofBytes bytes address).base)) =
        some (.ofSize bytes.length) := by
    show [Segment.ofSize bytes.length].find? (fun s =>
      s.holds (address + UInt64.ofNat i - address)) = _
    rw [hplace, List.find?_cons, Segment.holds_ofSize hlength hi]
  have hsegment : (ofBytes bytes address).segment? (address + UInt64.ofNat i) =
      some (.ofSize bytes.length) := by
    rw [segment?, hfind]
  have hsource : (0 + (UInt64.ofNat i - 0) : UInt64).toNat = i := by
    rw [UInt64.zero_add, UInt64.sub_zero, toNat_ofNat_of_lt (Nat.lt_trans hi hlength)]
  have hbyte : (ofBytes bytes address).fileByte i = bytes[i] := by
    show (if i < bytes.length then (bytes.toArray[i % bytes.toArray.size]?).getD 0 else 0) = _
    simp [hi, Nat.mod_eq_of_lt]
  rw [byte?, hsegment, Option.map_some]
  show some (segmentByte _ _ (address + UInt64.ofNat i - address)) = _
  rw [hplace, segmentByte, if_neg fun h => absurd h.1 (UInt64.lt_irrefl _),
    (Segment.start_ofSize bytes.length).1, (Segment.start_ofSize bytes.length).2]
  exact congrArg some ((congrArg _ hsource).trans hbyte)

/-- Bytes that are put into empty memory stand there. -/
theorem Memory.holds_map_ofBytes (hlength : bytes.length < 0x8000000000000000) (address : UInt64) :
    (Memory.empty.map (.ofBytes bytes address)).Holds address bytes := by
  refine holds_of_forall fun i hi => ?_
  rw [byte_map_empty]
  dsimp only
  rw [MappedFile.byte?_ofBytes hlength address hi, Option.getD_some]

end Putting

end GrammarAssay
