/-!
# Rounding quotients

Every conversion in this library that loses digits, from nanoseconds to tenths, from a
double to a single, from a binary fraction to a decimal one, rounds one quotient of natural
numbers. This file holds that one rule.

## Main statements

* `two_mul_roundQuotient_le`: the result is never more than half a unit above the quotient.
* `roundQuotient_mul`: an exact quotient is returned as it is.
-/

namespace Handheld.Number

/-- Which way a quotient goes that lies exactly between two whole numbers. -/
inductive Tie
  | even
  | away
  deriving Repr, DecidableEq

/-- The whole number nearest to `num / den`. -/
def roundQuotient (tie : Tie) (num den : Nat) : Nat :=
  let low := num / den
  let rest := num % den
  if 2 * rest < den then low
  else if den < 2 * rest then low + 1
  else
    match tie with
    | .even => low + low % 2
    | .away => low + 1

/-- Rounding goes up by less than one unit. -/
theorem roundQuotient_le_succ (tie : Tie) (num den : Nat) :
    roundQuotient tie num den ≤ num / den + 1 := by
  unfold roundQuotient
  have := Nat.mod_lt (num / den) (by decide : 0 < 2)
  cases tie <;> simp only <;> split <;> try split <;> omega
  all_goals omega

/-- Rounding never goes below the quotient's whole part. -/
theorem le_roundQuotient (tie : Tie) (num den : Nat) :
    num / den ≤ roundQuotient tie num den := by
  unfold roundQuotient
  cases tie <;> simp only <;> split <;> try split <;> omega
  all_goals omega

/-- Rounding goes up by half a unit at most. -/
theorem two_mul_roundQuotient_le (tie : Tie) (num : Nat) {den : Nat} (h : 0 < den) :
    2 * (den * roundQuotient tie num den) ≤ 2 * num + den := by
  have hd := Nat.div_add_mod num den
  have hm := Nat.mod_lt num h
  have hup : den * (num / den + 1) = den * (num / den) + den := Nat.mul_succ _ _
  unfold roundQuotient
  cases tie <;> simp only <;> split
  · omega
  · split
    · omega
    · have hle : num / den % 2 ≤ 1 := by omega
      have := Nat.mul_le_mul_left den (Nat.add_le_add_left hle (num / den))
      omega
  · omega
  · split <;> omega

/-- A quotient without remainder is left alone. -/
theorem roundQuotient_mul (tie : Tie) (n : Nat) {den : Nat} (h : 0 < den) :
    roundQuotient tie (n * den) den = n := by
  simp [roundQuotient, Nat.mul_div_cancel n h, h]

end Handheld.Number
