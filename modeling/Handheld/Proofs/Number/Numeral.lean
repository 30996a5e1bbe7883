import Handheld.Number.Numeral

/-!
# Which texts are numerals

A whole number is written with digits, at least one, and may have a plus before them. Zeros in
front change nothing. The reader takes exactly these texts, up to its greatest value: a number
only grows with its digits, so one that was too large in between is too large at the end.

* `Numeral`: the texts of a number;
* `le_ofDigitChars`: a number grows with its digits;
* `collect_eq_ok_iff`, `unsigned?_eq_ok_iff`: the reader takes the numerals whose numbers fit.
-/

namespace Handheld.Number

/-- A text of a whole number: digits, at least one, after an optional plus. -/
def Numeral (cs : List Char) (n : Nat) : Prop :=
  ∃ digits : List Char, digits ≠ [] ∧ (∀ c ∈ digits, c.isDigit = true) ∧
    (cs = digits ∨ cs = '+' :: digits) ∧ Nat.ofDigitChars 10 digits 0 = n

/-- A number grows with its digits. -/
theorem le_ofDigitChars (digits : List Char) (n : Nat) : n ≤ Nat.ofDigitChars 10 digits n := by
  induction digits generalizing n with
  | nil => exact Nat.le_refl n
  | cons c cs ih =>
    rw [Nat.ofDigitChars_cons]
    refine Nat.le_trans ?_ (ih _)
    omega

/-- Digits are collected to the number that they stand for, if it fits. -/
theorem collect_eq_ok_iff {greatest n : Nat} (hn : n ≤ greatest) (cs : List Char) (m : Nat) :
    collect greatest n cs = .ok m ↔
      (∀ c ∈ cs, c.isDigit = true) ∧ Nat.ofDigitChars 10 cs n = m ∧ m ≤ greatest := by
  induction cs generalizing n with
  | nil =>
    simp only [collect, Except.ok.injEq, Nat.ofDigitChars_nil]
    constructor
    · rintro rfl
      exact ⟨fun c hc => absurd hc List.not_mem_nil, rfl, hn⟩
    · exact fun h => h.2.1
  | cons c cs ih =>
    rw [collect, decimalDigit?, Nat.ofDigitChars_cons, List.forall_mem_cons]
    by_cases hc : c.isDigit = true
    · have hnext : 10 * n + (c.toNat - '0'.toNat) = n * 10 + (c.toNat - 48) := by
        rw [Nat.mul_comm]
        rfl
      rw [if_pos hc, hnext]
      dsimp only
      by_cases hfits : greatest < n * 10 + (c.toNat - 48)
      · -- what does not fit now does not fit with more digits either
        have hgrows := le_ofDigitChars cs (n * 10 + (c.toNat - 48))
        rw [if_pos hfits]
        constructor
        · exact fun h => absurd h (by simp)
        · rintro ⟨-, rfl, hle⟩
          omega
      · rw [if_neg hfits, ih (Nat.le_of_not_lt hfits)]
        simp only [hc, true_and]
    · simp [hc]

/-- What follows an optional plus of a numeral are its digits. -/
theorem numeral_iff (cs : List Char) (n : Nat) :
    Numeral cs n ↔
      afterPlus cs ≠ [] ∧ (∀ c ∈ afterPlus cs, c.isDigit = true) ∧
        Nat.ofDigitChars 10 (afterPlus cs) 0 = n := by
  constructor
  · rintro ⟨digits, hsome, hdigits, rfl | rfl, hvalue⟩
    · have hplain : afterPlus cs = cs := by
        unfold afterPlus
        split
        · exact absurd (hdigits '+' List.mem_cons_self) (by decide)
        · rfl
      rw [hplain]
      exact ⟨hsome, hdigits, hvalue⟩
    · exact ⟨hsome, hdigits, hvalue⟩
  · rintro ⟨hsome, hdigits, hvalue⟩
    refine ⟨afterPlus cs, hsome, hdigits, ?_, hvalue⟩
    unfold afterPlus
    split
    · exact Or.inr rfl
    · exact Or.inl rfl

/-- The reader of whole numbers takes the numerals whose numbers fit, and nothing else. -/
theorem unsigned?_eq_ok_iff (greatest : Nat) (cs : List Char) (n : Nat) :
    unsigned? greatest cs = .ok n ↔ Numeral cs n ∧ n ≤ greatest := by
  rw [numeral_iff, unsigned?]
  by_cases hempty : afterPlus cs = []
  · -- a lone plus has no digits either
    have hnone : cs.isEmpty = true ∨ (afterPlus cs).isEmpty = true := Or.inr (by simp [hempty])
    simp only [hempty, ne_eq, not_true_eq_false, false_and, iff_false]
    split <;> simp
  · have hsome : cs.isEmpty = false := by
      rw [List.isEmpty_eq_false_iff]
      rintro rfl
      exact hempty rfl
    rw [hsome, List.isEmpty_eq_false_iff.mpr hempty, if_neg Bool.false_ne_true,
      if_neg Bool.false_ne_true, collect_eq_ok_iff (Nat.zero_le greatest)]
    simp only [hempty, ne_eq, not_false_eq_true, true_and, and_assoc]

/-- A number is written with a numeral of its own. -/
theorem numeral_repr (n : Nat) : Numeral (Nat.repr n).toList n := by
  rw [Nat.toList_repr]
  exact ⟨Nat.toDigits 10 n, Nat.toDigits_ne_nil,
    fun c hc => Nat.isDigit_of_mem_toDigits (by decide) (by decide) hc, Or.inl rfl,
    Nat.ofDigitChars_ten_toDigits⟩

end Handheld.Number
