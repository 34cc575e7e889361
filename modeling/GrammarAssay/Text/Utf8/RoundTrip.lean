import GrammarAssay.Text.Utf8

/-!
# Texts and their bytes

**Input.** A text, or a byte string.

**Results.**
* `scan_encode`: the bytes of a text scan to its characters, whatever bytes follow.
* `decode?_eq_some_iff`: a byte string decodes to a text exactly if it is the bytes of that text.
* `lossy_encode`: the bytes of a text give the text back.
* `encode_injective`, `encode_append`: different texts have different bytes, and the bytes of a
  joined text are the joined bytes.
-/

namespace GrammarAssay
namespace Text
namespace Utf8

theorem toNat_byte {n : Nat} (h : n < 256) : (UInt8.ofNat n).toNat = n := by
  simp [Nat.mod_eq_of_lt h]

theorem scan_one {a : UInt8} (h : a.toNat < 0x80) (r : Bytes) :
    scan (a :: r) = some (Char.ofNat a.toNat) :: scan r := by
  rw [scan.eq_2, if_pos h]

theorem scan_two {a b : UInt8} {l : Lead} (ha : ¬ a.toNat < 0x80) (hl : lead? a.toNat = some l)
    (hb : l.admits b = true) (ht : l.tails = 1) (r : Bytes) :
    scan (a :: b :: r) = some (Char.ofNat (shift l.share b)) :: scan r := by
  simp [scan, ha, hl, hb, ht]

theorem scan_three {a b c : UInt8} {l : Lead} (ha : ¬ a.toNat < 0x80) (hl : lead? a.toNat = some l)
    (hb : l.admits b = true) (ht : l.tails = 2) (hc : isTail c = true) (r : Bytes) :
    scan (a :: b :: c :: r) = some (Char.ofNat (shift (shift l.share b) c)) :: scan r := by
  simp [scan, ha, hl, hb, ht, hc]

theorem scan_four {a b c d : UInt8} {l : Lead} (ha : ¬ a.toNat < 0x80)
    (hl : lead? a.toNat = some l) (hb : l.admits b = true) (ht : l.tails = 3)
    (hc : isTail c = true) (hd : isTail d = true) (r : Bytes) :
    scan (a :: b :: c :: d :: r) =
      some (Char.ofNat (shift (shift (shift l.share b) c) d)) :: scan r := by
  simp [scan, ha, hl, hb, ht, hc, hd]

theorem isTail_byte {n : Nat} (h : n < 64) : isTail (UInt8.ofNat (n + 128)) = true := by
  simp only [isTail, toNat_byte (show n + 128 < 256 by omega), Bool.and_eq_true, decide_eq_true_eq]
  omega

theorem shift_byte (m : Nat) {n : Nat} (h : n < 64) :
    shift m (UInt8.ofNat (n + 128)) = m * 64 + n := by
  have e := toNat_byte (n := n + 128) (by omega)
  unfold shift
  rw [e]
  omega

theorem admits_byte {l : Lead} {n : Nat} (h : n < 64) (hl : l.low ≤ n + 128)
    (hh : n + 128 ≤ l.high) : l.admits (UInt8.ofNat (n + 128)) = true := by
  simp only [Lead.admits, toNat_byte (show n + 128 < 256 by omega), Bool.and_eq_true,
    decide_eq_true_eq]
  omega

/-- The announcement of one more byte. -/
theorem lead?_two {a : Nat} (h : 0xC2 ≤ a) (h' : a < 0xE0) :
    lead? a = some ⟨1, 0x80, 0xBF, a - 0xC0⟩ := by
  rw [lead?, if_neg (by omega), if_pos h']

/-- The announcement of two more bytes, for the leading four bits `m` of a code point. -/
theorem lead?_three {m : Nat} (h : m < 16) : ∃ low high,
    lead? (m + 224) = some ⟨2, low, high, m⟩ ∧
      (∀ n, n < 64 → (m = 0 → 32 ≤ n) → (m = 13 → n < 32) → low ≤ n + 128 ∧ n + 128 ≤ high) := by
  by_cases h0 : m = 0
  · exact ⟨0xA0, 0xBF, by subst h0; rfl, by omega⟩
  · by_cases h13 : m = 13
    · exact ⟨0x80, 0x9F, by subst h13; rfl, by omega⟩
    · refine ⟨0x80, 0xBF, ?_, by omega⟩
      rw [lead?, if_neg (by omega), if_neg (by omega), if_neg (by omega), if_neg (by omega),
        if_pos (by omega)]
      simp

/-- The announcement of three more bytes, for the leading three bits `m` of a code point. -/
theorem lead?_four {m : Nat} (h : m < 5) : ∃ low high,
    lead? (m + 240) = some ⟨3, low, high, m⟩ ∧
      (∀ n, n < 64 → (m = 0 → 16 ≤ n) → (m = 4 → n < 16) → low ≤ n + 128 ∧ n + 128 ≤ high) := by
  by_cases h0 : m = 0
  · exact ⟨0x90, 0xBF, by subst h0; rfl, by omega⟩
  · by_cases h4 : m = 4
    · exact ⟨0x80, 0x8F, by subst h4; rfl, by omega⟩
    · refine ⟨0x80, 0xBF, ?_, by omega⟩
      rw [lead?, if_neg (by omega), if_neg (by omega), if_neg (by omega), if_neg (by omega),
        if_neg (by omega), if_neg (by omega), if_pos (by omega)]
      simp

/-- The bytes of a character scan to the character. -/
theorem scan_encodeChar (c : Char) (r : Bytes) :
    scan (String.utf8EncodeChar c ++ r) = some c :: scan r := by
  have hv : c.val.toNat < 0xD800 ∨ 0xDFFF < c.val.toNat ∧ c.val.toNat < 0x110000 := c.valid
  have hc : Char.ofNat c.val.toNat = c := Char.ofNat_toNat c
  unfold String.utf8EncodeChar
  generalize c.val.toNat = n at *
  simp only
  split
  · have h1 := toNat_byte (n := n) (by omega)
    rw [List.cons_append, scan_one (by rw [h1]; omega), h1, hc, List.nil_append]
  · split
    · have h1 := toNat_byte (n := n / 64 % 32 + 192) (by omega)
      rw [List.cons_append, List.cons_append, List.nil_append,
        scan_two (by rw [h1]; omega) (by rw [h1]; exact lead?_two (by omega) (by omega))
          (admits_byte (by omega) (by simp) (by simp; omega)) rfl, shift_byte _ (by omega),
        show (n / 64 % 32 + 192 - 0xC0) * 64 + n % 64 = n by omega, hc]
    · split
      · have h1 := toNat_byte (n := n / 4096 % 16 + 224) (by omega)
        obtain ⟨low, high, hl, hr⟩ := lead?_three (m := n / 4096 % 16) (by omega)
        obtain ⟨hlow, hhigh⟩ := hr (n / 64 % 64) (by omega) (by omega) (by omega)
        simp only [List.cons_append, List.nil_append]
        rw [scan_three (by rw [h1]; omega) (by rw [h1]; exact hl)
          (admits_byte (by omega) hlow hhigh) rfl (isTail_byte (by omega)),
          shift_byte _ (by omega), shift_byte _ (by omega),
          show ((n / 4096 % 16) * 64 + n / 64 % 64) * 64 + n % 64 = n by omega, hc]
      · have h1 := toNat_byte (n := n / 262144 % 8 + 240) (by omega)
        obtain ⟨low, high, hl, hr⟩ := lead?_four (m := n / 262144 % 8) (by omega)
        obtain ⟨hlow, hhigh⟩ := hr (n / 4096 % 64) (by omega) (by omega) (by omega)
        simp only [List.cons_append, List.nil_append]
        rw [scan_four (by rw [h1]; omega) (by rw [h1]; exact hl)
          (admits_byte (by omega) hlow hhigh) rfl (isTail_byte (by omega)) (isTail_byte (by omega)),
          shift_byte _ (by omega), shift_byte _ (by omega), shift_byte _ (by omega),
          show (((n / 262144 % 8) * 64 + n / 4096 % 64) * 64 + n / 64 % 64) * 64 + n % 64 = n
            by omega, hc]

/-- The bytes of a text scan to its characters. -/
theorem scan_encode (s : String) (r : Bytes) :
    scan (encode s ++ r) = s.toList.map some ++ scan r := by
  unfold encode
  induction s.toList with
  | nil => rfl
  | cons c cs ih => simp [scan_encodeChar, ih]

/-- Decoding undoes encoding. -/
theorem decode?_encode (s : String) : decode? (encode s) = some s := by
  have h := scan_encode s []
  rw [List.append_nil] at h
  simp [decode?, h, scan]

/-- The text of encoded bytes is the text itself. -/
theorem lossy_encode (s : String) : lossy (encode s) = s := by
  have h := scan_encode s []
  rw [List.append_nil] at h
  simp [lossy, h, scan, Function.comp_def]

/-- What the announcement of a first byte says about it. -/
theorem lead?_eq_some {a : Nat} {l : Lead} (h : lead? a = some l) :
    (l.tails = 1 ∧ l.share = a - 192 ∧ 194 ≤ a ∧ a < 224 ∧ l.low = 128 ∧ l.high = 191) ∨
    (l.tails = 2 ∧ l.share = a - 224 ∧ 224 ≤ a ∧ a < 240 ∧ 128 ≤ l.low ∧ l.high ≤ 191 ∧
      (a = 224 → l.low = 160) ∧ (a = 237 → l.high = 159)) ∨
    (l.tails = 3 ∧ l.share = a - 240 ∧ 240 ≤ a ∧ a < 245 ∧ 128 ≤ l.low ∧ l.high ≤ 191 ∧
      (a = 240 → l.low = 144) ∧ (a = 244 → l.high = 143)) := by
  unfold lead? at h
  repeat' split at h
  all_goals simp only [Option.some.injEq, reduceCtorEq] at h
  all_goals
    subst h
    simp
    omega

theorem toNat_ofNat_of_isValidChar {n : Nat} (h : n < 0xD800 ∨ 0xDFFF < n ∧ n < 0x110000) :
    (Char.ofNat n).val.toNat = n := by
  have : n.isValidChar := h
  rw [Char.ofNat, dif_pos this]
  rfl

theorem byte_eq {a : UInt8} {n : Nat} (h : a.toNat = n) : UInt8.ofNat n = a := by
  subst h; simp

theorem encodeChar_one {a : UInt8} (h : a.toNat < 0x80) :
    String.utf8EncodeChar (Char.ofNat a.toNat) = [a] := by
  unfold String.utf8EncodeChar
  simp only [toNat_ofNat_of_isValidChar (Or.inl (by omega : a.toNat < 0xD800))]
  rw [if_pos (by omega), byte_eq rfl]

theorem encodeChar_two {a b : UInt8} {l : Lead} (hl : lead? a.toNat = some l)
    (hb : l.admits b = true) (ht : l.tails = 1) :
    String.utf8EncodeChar (Char.ofNat (shift l.share b)) = [a, b] := by
  rcases lead?_eq_some hl with h | h | h
  · obtain ⟨-, hs, h1, h2, h3, h4⟩ := h
    simp only [Lead.admits, h3, h4, Bool.and_eq_true, decide_eq_true_eq] at hb
    rw [hs]
    unfold String.utf8EncodeChar shift
    rw [toNat_ofNat_of_isValidChar (by omega)]
    simp only
    rw [if_neg (by omega), if_pos (by omega), byte_eq (a := a) (by omega),
      byte_eq (a := b) (by omega)]
  · omega
  · omega

theorem encodeChar_three {a b c : UInt8} {l : Lead} (hl : lead? a.toNat = some l)
    (hb : l.admits b = true) (ht : l.tails = 2) (hc : isTail c = true) :
    String.utf8EncodeChar (Char.ofNat (shift (shift l.share b) c)) = [a, b, c] := by
  rcases lead?_eq_some hl with h | h | h
  · omega
  · obtain ⟨-, hs, h1, h2, h3, h4, h5, h6⟩ := h
    simp only [Lead.admits, isTail, Bool.and_eq_true, decide_eq_true_eq] at hb hc
    rw [hs]
    unfold String.utf8EncodeChar shift
    rw [toNat_ofNat_of_isValidChar (by omega)]
    simp only
    rw [if_neg (by omega), if_neg (by omega), if_pos (by omega), byte_eq (a := a) (by omega),
      byte_eq (a := b) (by omega), byte_eq (a := c) (by omega)]
  · omega

theorem encodeChar_four {a b c d : UInt8} {l : Lead} (hl : lead? a.toNat = some l)
    (hb : l.admits b = true) (ht : l.tails = 3) (hc : isTail c = true) (hd : isTail d = true) :
    String.utf8EncodeChar (Char.ofNat (shift (shift (shift l.share b) c) d)) = [a, b, c, d] := by
  rcases lead?_eq_some hl with h | h | h
  · omega
  · omega
  · obtain ⟨-, hs, h1, h2, h3, h4, h5, h6⟩ := h
    simp only [Lead.admits, isTail, Bool.and_eq_true, decide_eq_true_eq] at hb hc hd
    rw [hs]
    unfold String.utf8EncodeChar shift
    rw [toNat_ofNat_of_isValidChar (by omega)]
    simp only
    rw [if_neg (by omega), if_neg (by omega), if_neg (by omega), byte_eq (a := a) (by omega),
      byte_eq (a := b) (by omega), byte_eq (a := c) (by omega), byte_eq (a := d) (by omega)]

/-- A scan without damage begins with a character. -/
theorem exists_of_cons_eq_map_some {o : Option Char} {l : List (Option Char)} {cs : List Char}
    (h : o :: l = cs.map some) : ∃ c t, cs = c :: t ∧ o = some c ∧ l = t.map some := by
  cases cs with
  | nil => simp at h
  | cons c t => exact ⟨c, t, rfl, (List.cons.inj h).1, (List.cons.inj h).2⟩

/-- Bytes that scan without damage are the bytes of the characters that they scan to. -/
theorem eq_flatMap_of_scan {b : Bytes} {cs : List Char} (h : scan b = cs.map some) :
    b = cs.flatMap String.utf8EncodeChar := by
  fun_induction scan b generalizing cs with
  | case1 => simp_all
  | case2 a r ha ih =>
    obtain ⟨c, t, rfl, hc, ht⟩ := exists_of_cons_eq_map_some h
    obtain rfl := Option.some.inj hc
    simp [encodeChar_one ha, ← ih ht]
  | case6 a ha l hl b r hb h1 ih =>
    obtain ⟨c, t, rfl, hc, ht⟩ := exists_of_cons_eq_map_some h
    obtain rfl := Option.some.inj hc
    simp [encodeChar_two hl (by simpa using hb) h1, ← ih ht]
  | case9 a ha l hl b hb h1 c r hc h2 ih =>
    obtain ⟨x, t, rfl, hx, ht⟩ := exists_of_cons_eq_map_some h
    obtain rfl := Option.some.inj hx
    simp [encodeChar_three hl (by simpa using hb) h2 (by simpa using hc), ← ih ht]
  | case12 a ha l hl b hb h1 c hc h2 d r hd ih =>
    obtain ⟨x, t, rfl, hx, ht⟩ := exists_of_cons_eq_map_some h
    obtain rfl := Option.some.inj hx
    have h3 : l.tails = 3 := by
      rcases lead?_eq_some hl with h | h | h <;> omega
    simp [encodeChar_four hl (by simpa using hb) h3 (by simpa using hc) (by simpa using hd),
      ← ih ht]
  | _ =>
    obtain ⟨_, _, _, hn, _⟩ := exists_of_cons_eq_map_some h
    cases hn

/-- A scan without damage is its characters. -/
theorem map_some_filterMap_id {l : List (Option Char)} (h : l.all Option.isSome = true) :
    l = (l.filterMap id).map some := by
  induction l with
  | nil => rfl
  | cons o l ih =>
    cases o with
    | none => simp at h
    | some c =>
      rw [List.filterMap_cons_some (by rfl), List.map_cons, ← ih (by simpa using h)]

/-- A byte string is the bytes of a text exactly if it decodes to the text. -/
theorem decode?_eq_some_iff {b : Bytes} {s : String} : decode? b = some s ↔ b = encode s := by
  constructor
  · intro h
    unfold decode? at h
    split at h
    · next hall =>
      obtain rfl := Option.some.inj h
      rw [encode, String.toList_ofList]
      exact eq_flatMap_of_scan (map_some_filterMap_id hall)
    · contradiction
  · rintro rfl
    exact decode?_encode s

/-- Different texts have different bytes. -/
theorem encode_injective {s t : String} (h : encode s = encode t) : s = t := by
  have := decode?_encode s
  rw [h, decode?_encode] at this
  exact (Option.some.inj this).symm

/-- The bytes of a joined text. -/
theorem encode_append (s t : String) : encode (s ++ t) = encode s ++ encode t := by
  simp [encode]

end Utf8
end Text
end GrammarAssay
