/-!
# Numbers in texts

**Results.**
* `decimal`: a natural number in decimal notation.
* `decimal_inj`: different numbers are written differently.
* `decimal_append_inj`, `append_decimal_inj`: a number at an end of a text is told by the text.
-/

namespace GrammarAssay
namespace Text

/-- A natural number in decimal notation, without leading zeros. -/
def decimal (n : Nat) : String :=
  String.ofList (Nat.toDigits 10 n)

section Numbers

variable {n m : Nat} {c : Char}

theorem isDigit_of_mem_decimal (h : c ∈ (decimal n).toList) : c.isDigit = true := by
  rw [decimal, String.toList_ofList] at h
  exact Nat.isDigit_of_mem_toDigits (by decide) (by decide) h

/-- Different numbers are written differently. -/
theorem decimal_inj (h : (decimal n).toList = (decimal m).toList) : n = m := by
  rw [decimal, decimal, String.toList_ofList, String.toList_ofList] at h
  have hread := Nat.ofDigitChars_toDigits (b := 10) (n := n) (by decide) (by decide)
  rw [h, Nat.ofDigitChars_toDigits (by decide) (by decide)] at hread
  exact hread.symm

theorem takeWhile_decimal_append (hc : c.isDigit = false) (n : Nat) (back : List Char) :
    ((decimal n).toList ++ c :: back).takeWhile Char.isDigit = (decimal n).toList := by
  rw [List.takeWhile_append_of_pos fun d hd => isDigit_of_mem_decimal hd]
  simp [hc]

theorem takeWhile_reverse_append_decimal (hc : c.isDigit = false) (n : Nat) (front : List Char) :
    (front ++ c :: (decimal n).toList).reverse.takeWhile Char.isDigit =
      (decimal n).toList.reverse := by
  rw [List.reverse_append, List.reverse_cons, List.append_assoc,
    List.takeWhile_append_of_pos fun d hd => isDigit_of_mem_decimal (List.mem_reverse.mp hd)]
  simp [hc]

/-- A number at the front of a text ends before the first character that is no digit. -/
theorem decimal_append_inj {back back' : List Char} (hc : c.isDigit = false)
    (h : (decimal n).toList ++ c :: back = (decimal m).toList ++ c :: back') :
    n = m ∧ back = back' := by
  have hdigits := takeWhile_decimal_append hc n back
  rw [h, takeWhile_decimal_append hc] at hdigits
  rw [hdigits] at h
  exact ⟨decimal_inj hdigits.symm, (List.cons.inj (List.append_cancel_left h)).2⟩

/-- A number at the end of a text begins behind the last character that is no digit. -/
theorem append_decimal_inj {front front' : List Char} (hc : c.isDigit = false)
    (h : front ++ c :: (decimal n).toList = front' ++ c :: (decimal m).toList) :
    front = front' ∧ n = m := by
  have hdigits := takeWhile_reverse_append_decimal hc n front
  rw [h, takeWhile_reverse_append_decimal hc, List.reverse_inj] at hdigits
  rw [hdigits] at h
  exact ⟨List.append_cancel_right h, decimal_inj hdigits.symm⟩

end Numbers

end Text
end GrammarAssay
