import GrammarAssay.Json.Parser
import GrammarAssay.Json.Printer

/-!
# Reading what was written

**Input.** A JSON value whose numbers are integers of 64 bits.

**Algorithm.** The statements follow the printer: each part of a value reads back whatever stands
behind it, except that a number must not be prolonged.

**Results.**
* `stringBody_flatMap`: the characters of a string read back, whichever they are.
* `number_intChars`: an integer reads back.
* `value_chars`, `parse?_render`: a value reads back from its text.
-/

namespace GrammarAssay
namespace Json

/-- The digit of a number below sixteen reads back. -/
theorem hexDigit?_digitChar {n : Nat} (h : n < 16) : hexDigit? (Nat.digitChar n) = some n := by
  have all : ∀ k : Fin 16, hexDigit? (Nat.digitChar k) = some k.val := by decide
  exact all ⟨n, h⟩

/-- An escaped character reads back. -/
theorem stringBody_escapeChar (c : Char) (cs : List Char) :
    stringBody (escapeChar c ++ cs) = (stringBody cs).map fun r => (c :: r.1, r.2) := by
  unfold escapeChar
  split
  · next h => subst h; rfl
  split
  · next h => subst h; rfl
  split
  · next h => subst h; rfl
  split
  · next h => subst h; rfl
  split
  · next h => subst h; rfl
  split
  · next h => subst h; rfl
  split
  · next h => subst h; rfl
  split
  · next h =>
    have hx : hexUnit? '0' '0' (Nat.digitChar (c.toNat / 16)) (Nat.digitChar (c.toNat % 16)) =
        some c.toNat := by
      have h0 : hexDigit? '0' = some 0 := rfl
      simp only [hexUnit?, h0, hexDigit?_digitChar (show c.toNat / 16 < 16 by omega),
        hexDigit?_digitChar (show c.toNat % 16 < 16 by omega), Option.bind_eq_bind,
        Option.bind_some, Option.pure_def, Option.some.injEq]
      omega
    have hh : isHighUnit c.toNat = false := by
      simp only [isHighUnit, Bool.and_eq_false_iff, decide_eq_false_iff_not]; omega
    have hl : isLowUnit c.toNat = false := by
      simp only [isLowUnit, Bool.and_eq_false_iff, decide_eq_false_iff_not]; omega
    simp only [List.cons_append, List.nil_append]
    rw [stringBody]
    simp [hx, hh, hl, Char.ofNat_toNat]
  · next h1 h2 _ _ _ _ _ h8 =>
    have h8' : ¬ (c.toNat < 32) := h8
    rw [List.singleton_append, stringBody]
    · simp [h8', h2]
    · exact h1
    · intro a b c' d rest hc
      exact absurd hc h2
    · intro x rest hc
      exact absurd hc h2

/-- Can a number end before these characters? -/
def endsNumber : List Char → Bool
  | [] => true
  | c :: _ => !(c.isDigit || c == '.' || c == 'e' || c == 'E')

/-- What is not found behind a number. -/
theorem isDigit_of_endsNumber {c : Char} {cs : List Char} (h : endsNumber (c :: cs) = true) :
    c.isDigit = false ∧ c ≠ '.' ∧ c ≠ 'e' ∧ c ≠ 'E' := by
  simpa [endsNumber, and_assoc] using h

/-- The digits of a number are taken whole. -/
theorem takeDigits_toDigits (n : Nat) {rest : List Char} (h : endsNumber rest = true) :
    takeDigits (Nat.toDigits 10 n ++ rest) = (Nat.toDigits 10 n, rest) := by
  have hd : ∀ c ∈ Nat.toDigits 10 n, c.isDigit = true := fun c hc =>
    Nat.isDigit_of_mem_toDigits (by decide) (by decide) hc
  unfold takeDigits
  rw [List.takeWhile_append_of_pos hd, List.dropWhile_append_of_pos hd]
  cases rest with
  | nil => simp
  | cons c cs => simp [(isDigit_of_endsNumber h).1]

/-- A number begins with a digit. -/
theorem toDigits_eq_cons (n : Nat) :
    ∃ d ds, Nat.toDigits 10 n = d :: ds ∧ d.isDigit = true := by
  obtain ⟨d, ds, h⟩ := List.exists_cons_of_ne_nil (Nat.toDigits_ne_nil (b := 10) (n := n))
  exact ⟨d, ds, h, Nat.isDigit_of_mem_toDigits (b := 10) (n := n) (by decide) (by decide)
    (h ▸ List.mem_cons_self)⟩

/-- No number but zero is written with a zero in front. -/
theorem head?_toDigits (n : Nat) (h : (Nat.toDigits 10 n).head? = some '0') : n = 0 := by
  induction n using Nat.strongRecOn with
  | _ n ih =>
    rw [Nat.toDigits_eq_if (by decide)] at h
    split at h
    · simpa using h
    · next hn =>
      rw [List.head?_append] at h
      have hq : (Nat.toDigits 10 (n / 10)).head? ≠ none := by
        simp
      have := ih (n / 10) (by omega) (by
        cases hh : (Nat.toDigits 10 (n / 10)).head? with
        | none => exact absurd hh hq
        | some c => simpa [hh] using h)
      omega

/-- Behind a number that ends there is no fraction. -/
theorem fractionPart_of_endsNumber {rest : List Char} (h : endsNumber rest = true) :
    fractionPart rest = some (none, rest) := by
  cases rest with
  | nil => rfl
  | cons c cs =>
    unfold fractionPart
    split
    · next heq => exact absurd (List.cons.inj heq).1 (isDigit_of_endsNumber h).2.1
    · rfl

/-- Behind a number that ends there is no exponent. -/
theorem exponentPart_of_endsNumber {rest : List Char} (h : endsNumber rest = true) :
    exponentPart rest = some (none, rest) := by
  cases rest with
  | nil => rfl
  | cons c cs =>
    have hc := isDigit_of_endsNumber h
    simp [exponentPart, hc.2.2.1, hc.2.2.2]

/-- A number without fraction and exponent reads back. -/
theorem unsignedNumber_toDigits (negative : Bool) (n : Nat) {rest : List Char}
    (h : endsNumber rest = true) :
    unsignedNumber negative (Nat.toDigits 10 n ++ rest) =
      (wholeNumber negative n).map fun v => (v, rest) := by
  have hz : ¬ ((Nat.toDigits 10 n).isEmpty ||
      ((Nat.toDigits 10 n).head? = some '0' && (Nat.toDigits 10 n).length != 1)) = true := by
    by_cases hn : n = 0
    · subst hn; decide
    · have : (Nat.toDigits 10 n).head? ≠ some '0' := fun he => hn (head?_toDigits n he)
      simp [this]
  unfold unsignedNumber
  rw [takeDigits_toDigits n h]
  simp only [hz, Bool.false_eq_true, if_false, fractionPart_of_endsNumber h,
    exponentPart_of_endsNumber h, Option.bind_eq_bind, Option.bind_some, digitsValue,
    Nat.ofDigitChars_ten_toDigits]

/-- The value of digits behind a minus sign. -/
theorem wholeNumber_true {n : Nat} (h : 0 < n) (h' : n ≤ twoTo 63) :
    wholeNumber true n = some (.int (-(n : Int))) := by
  simp [wholeNumber, h, h']

/-- The value of digits without a sign. -/
theorem wholeNumber_false {n : Nat} (h : n < twoTo 64) :
    wholeNumber false n = some (.int n) := by
  simp [wholeNumber, h]

/-- An integer of 64 bits. -/
def inRange (n : Int) : Bool :=
  -(twoTo 63 : Int) ≤ n && n < twoTo 64

/-- An integer reads back. -/
theorem number_intChars {n : Int} (hn : inRange n = true) {rest : List Char}
    (h : endsNumber rest = true) : number (intChars n ++ rest) = some (.int n, rest) := by
  simp only [inRange, Bool.and_eq_true, decide_eq_true_eq] at hn
  unfold intChars
  split
  · next hneg =>
    rw [List.cons_append, number, unsignedNumber_toDigits _ _ h]
    have hr : 0 < n.natAbs ∧ n.natAbs ≤ twoTo 63 := by omega
    have he : -(n.natAbs : Int) = n := by omega
    rw [wholeNumber_true hr.1 hr.2, he]
    rfl
  · next hneg =>
    have hr : n.natAbs < twoTo 64 := by omega
    have he : (n.natAbs : Int) = n := by omega
    have hd : number (Nat.toDigits 10 n.natAbs ++ rest) =
        unsignedNumber false (Nat.toDigits 10 n.natAbs ++ rest) := by
      unfold number
      split
      · next heq =>
        obtain ⟨d, ds, hds, hd⟩ := toDigits_eq_cons n.natAbs
        rw [hds, List.cons_append] at heq
        rw [(List.cons.inj heq).1] at hd
        exact absurd hd (by decide)
      · rfl
    rw [hd, unsignedNumber_toDigits _ _ h]
    rw [wholeNumber_false hr, he]
    rfl

mutual

/-- Does a value hold only numbers that are integers of 64 bits? -/
def isExact : Json → Bool
  | .int n => inRange n
  | .real _ => false
  | .arr items => exactItems items
  | .obj members => exactMembers members
  | _ => true

/-- Do items hold only integers of 64 bits? -/
def exactItems : List Json → Bool
  | [] => true
  | v :: rest => isExact v && exactItems rest

/-- Do members hold only integers of 64 bits? -/
def exactMembers : List (String × Json) → Bool
  | [] => true
  | (_, v) :: rest => isExact v && exactMembers rest

end

/-- What a value can begin with. -/
def opensValue (c : Char) : Bool :=
  c.isDigit || ['-', 'n', 't', 'f', '"', '[', '\x7b'].contains c

/-- A value begins with one of the characters that open values. -/
theorem chars_eq_cons : ∀ {j : Json}, isExact j = true →
    ∃ c cs, chars j = c :: cs ∧ opensValue c = true
  | .null, _ => ⟨_, _, rfl, rfl⟩
  | .bool true, _ => ⟨_, _, rfl, rfl⟩
  | .bool false, _ => ⟨_, _, rfl, rfl⟩
  | .int n, _ => by
    rw [chars, intChars]
    split
    · exact ⟨_, _, rfl, rfl⟩
    · obtain ⟨d, ds, h, hd⟩ := toDigits_eq_cons n.natAbs
      exact ⟨d, ds, h, by simp [opensValue, hd]⟩
  | .real _, h => by simp [isExact] at h
  | .str _, _ => ⟨_, _, rfl, rfl⟩
  | .arr [], _ => ⟨_, _, rfl, rfl⟩
  | .arr (_ :: _), _ => ⟨_, _, by rw [chars], rfl⟩
  | .obj [], _ => ⟨_, _, rfl, rfl⟩
  | .obj ((_, _) :: _), _ => ⟨_, _, by rw [chars], rfl⟩

/-- The characters of a string read back. -/
theorem stringBody_flatMap (cs rest : List Char) :
    stringBody (cs.flatMap escapeChar ++ '"' :: rest) = some (cs, rest) := by
  induction cs with
  | nil => rfl
  | cons c cs ih =>
    rw [List.flatMap_cons, List.append_assoc, stringBody_escapeChar, ih]
    rfl

/-- No blank opens a value. -/
theorem skipSpace_of_opensValue {c : Char} (h : opensValue c = true) (cs : List Char) :
    skipSpace (c :: cs) = c :: cs := by
  have hs : isSpace c = false := by
    refine Bool.eq_false_iff.mpr fun hs => ?_
    simp only [isSpace, Bool.or_eq_true, beq_iff_eq] at hs
    rcases hs with ((rfl | rfl) | rfl) | rfl <;> exact absurd h (by decide)
  simp [skipSpace, hs]

/-- No blank is a comma. -/
theorem skipSpace_comma (cs : List Char) : skipSpace (',' :: cs) = ',' :: cs :=
  rfl

/-- What begins like a number is read as a number. -/
theorem value_eq_number {c : Char} (h : c.isDigit = true ∨ c = '-') (cs : List Char)
    (fuel : Nat) :
    value (fuel + 1) (c :: cs) = number (c :: cs) := by
  have ho : opensValue c = true := by
    rcases h with h | rfl
    · simp [opensValue, h]
    · rfl
  have hc : ∀ {d : Char} {ds : List Char}, c :: cs = d :: ds → d.isDigit = true ∨ d = '-' :=
    fun heq => (List.cons.inj heq).1 ▸ h
  rw [value, skipSpace_of_opensValue ho]
  split
  case h_7 => rfl
  all_goals
    next heq => exact absurd (hc heq) (by decide)

/-- What follows an item ends a number. -/
theorem endsNumber_itemChars (vs : List Json) (rest : List Char) :
    endsNumber (itemChars vs ++ rest) = true := by
  cases vs <;> rfl

/-- What follows a member ends a number. -/
theorem endsNumber_memberChars (ms : List (String × Json)) (rest : List Char) :
    endsNumber (memberChars ms ++ rest) = true := by
  rcases ms with _ | ⟨⟨k, v⟩, ms⟩ <;> rfl

/-- A member reads back if its value does. -/
theorem member_of_value {k : String} {v : Json} {rest : List Char} {fuel : Nat}
    (h : value fuel (chars v ++ rest) = some (v, rest)) :
    member (fuel + 1) (stringChars k ++ ':' :: (chars v ++ rest)) = some ((k, v), rest) := by
  simp [member, stringChars, skipSpace, isSpace, stringBody_flatMap, h, String.ofList_toList]

mutual

/-- A value reads back, whatever follows that does not prolong a number. -/
theorem value_chars : ∀ (j : Json), isExact j = true → ∀ rest : List Char,
    endsNumber rest = true → ∀ fuel : Nat, (chars j).length ≤ fuel →
    value fuel (chars j ++ rest) = some (j, rest)
  | j, hj, rest, hr, 0, hf => by
    obtain ⟨c, cs, hc, _⟩ := chars_eq_cons hj
    simp [hc] at hf
  | .null, _, rest, _, fuel + 1, _ => by simp [value, chars, skipSpace, isSpace]
  | .bool true, _, rest, _, fuel + 1, _ => by simp [value, chars, skipSpace, isSpace]
  | .bool false, _, rest, _, fuel + 1, _ => by simp [value, chars, skipSpace, isSpace]
  | .int n, hj, rest, hr, fuel + 1, _ => by
    have hn : ∃ c cs, intChars n = c :: cs ∧ (c.isDigit = true ∨ c = '-') := by
      unfold intChars
      split
      · exact ⟨_, _, rfl, Or.inr rfl⟩
      · obtain ⟨d, ds, h, hd⟩ := toDigits_eq_cons n.natAbs
        exact ⟨d, ds, h, Or.inl hd⟩
    obtain ⟨c, cs, hc, hd⟩ := hn
    rw [isExact] at hj
    have := number_intChars hj hr
    rw [chars]
    rw [hc, List.cons_append] at this ⊢
    rw [value_eq_number hd, this]
  | .real x, hj, _, _, _, _ => by simp [isExact] at hj
  | .str s, _, rest, _, fuel + 1, _ => by
    simp [value, chars, skipSpace, isSpace, stringChars, stringBody_flatMap, String.ofList_toList]
  | .arr [], _, rest, _, fuel + 1, _ => by simp [value, chars, skipSpace, isSpace]
  | .arr (v :: vs), hj, rest, hr, fuel + 1, hf => by
    rw [isExact, exactItems, Bool.and_eq_true] at hj
    rw [chars, List.length_cons, List.length_append] at hf
    have hv := value_chars v hj.1 _ (endsNumber_itemChars vs rest) fuel (by omega)
    have hm := moreItems_itemChars vs hj.2 rest fuel (by omega)
    obtain ⟨c, cs, hc, ho⟩ := chars_eq_cons hj.1
    have hb : c ≠ ']' := by
      rintro rfl
      exact absurd ho (by decide)
    rw [chars, List.cons_append, List.append_assoc, value, skipSpace_of_opensValue (by rfl)]
    rw [hc, List.cons_append] at hv ⊢
    simp only [skipSpace_of_opensValue ho]
    split
    · next heq => exact absurd (List.cons.inj heq).1 hb
    · simp [hv, hm]
  | .obj [], _, rest, _, fuel + 1, _ => by simp [value, chars, skipSpace, isSpace]
  | .obj ((k, v) :: ms), hj, rest, hr, fuel + 1, hf => by
    rw [isExact, exactMembers, Bool.and_eq_true] at hj
    rw [chars, List.length_cons, List.length_append, List.length_cons, List.length_append] at hf
    obtain ⟨f, rfl⟩ : ∃ f, fuel = f + 1 := ⟨fuel - 1, by omega⟩
    have hv := member_of_value (k := k)
      (value_chars v hj.1 _ (endsNumber_memberChars ms rest) f (by omega))
    have hm := moreMembers_memberChars ms hj.2 rest (f + 1) (by omega)
    rw [chars, List.cons_append, List.append_assoc, List.cons_append, List.append_assoc, value,
      skipSpace_of_opensValue (by rfl)]
    rw [stringChars, List.cons_append] at hv ⊢
    simp only [skipSpace_of_opensValue (show opensValue '"' = true from rfl)]
    split
    · next heq => exact absurd (List.cons.inj heq).1 (by decide)
    · simp only [hv, hm, Option.map_some]

/-- The items after the first one read back. -/
theorem moreItems_itemChars : ∀ (vs : List Json), exactItems vs = true → ∀ (rest : List Char)
    (fuel : Nat), (itemChars vs).length ≤ fuel →
    moreItems fuel (itemChars vs ++ rest) = some (vs, rest)
  | [], _, rest, 0, hf => by simp [itemChars] at hf
  | [], _, rest, fuel + 1, hf => by simp [moreItems, itemChars, skipSpace, isSpace]
  | v :: vs, hv, rest, 0, hf => by simp [itemChars] at hf
  | v :: vs, hv, rest, fuel + 1, hf => by
    rw [exactItems, Bool.and_eq_true] at hv
    rw [itemChars, List.length_cons, List.length_append] at hf
    have h := value_chars v hv.1 _ (endsNumber_itemChars vs rest) fuel (by omega)
    have hm := moreItems_itemChars vs hv.2 rest fuel (by omega)
    rw [itemChars, List.cons_append, List.append_assoc, moreItems, skipSpace_comma]
    simp only [h, hm, Option.map_some]

/-- The members after the first one read back. -/
theorem moreMembers_memberChars : ∀ (ms : List (String × Json)), exactMembers ms = true →
    ∀ (rest : List Char) (fuel : Nat), (memberChars ms).length ≤ fuel →
    moreMembers fuel (memberChars ms ++ rest) = some (ms, rest)
  | [], _, rest, 0, hf => by simp [memberChars] at hf
  | [], _, rest, fuel + 1, hf => by simp [moreMembers, memberChars, skipSpace, isSpace]
  | (k, v) :: ms, hv, rest, 0, hf => by simp [memberChars] at hf
  | (k, v) :: ms, hv, rest, fuel + 1, hf => by
    rw [exactMembers, Bool.and_eq_true] at hv
    rw [memberChars, List.length_cons, List.length_append, List.length_cons,
      List.length_append] at hf
    obtain ⟨f, rfl⟩ : ∃ f, fuel = f + 1 := ⟨fuel - 1, by omega⟩
    have h := member_of_value (k := k)
      (value_chars v hv.1 _ (endsNumber_memberChars ms rest) f (by omega))
    have hm := moreMembers_memberChars ms hv.2 rest (f + 1) (by omega)
    rw [memberChars, List.cons_append, List.append_assoc, List.cons_append, List.append_assoc,
      moreMembers, skipSpace_comma]
    simp only [h, hm, Option.map_some]

end

/-- The text of a value reads back. -/
theorem parse?_render {j : Json} (h : isExact j = true) : parse? (render j) = some j := by
  have hv := value_chars j h [] rfl ((chars j).length + 1) (by omega)
  rw [List.append_nil] at hv
  simp [parse?, render, hv, skipSpace]

end Json
end GrammarAssay
