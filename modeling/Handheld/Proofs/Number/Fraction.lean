import Handheld.Number.Binary
import Mathlib.Data.Rat.Floor
import Mathlib.Tactic.FieldSimp
import Mathlib.Tactic.Linarith
import Mathlib.Tactic.NormNum
import Mathlib.Tactic.Positivity

/-!
# Binary fractions as rational numbers

A finite double stands for a rational number. Its floor, its whole part and the whole number
nearest to it are told from the bits alone; this file tells them from the number.

* `Dyadic.toRat`, `toRat?`: the number that a fraction, or a double, stands for;
* `floor_eq`, `truncate_eq_floor`: the floor, and the whole part of what is not negative;
* `toRat_nonneg_iff`, `isWhole_iff`: the sign, and whether the number is whole;
* `roundAway`, `nearest_eq`: the nearest whole number, a half going away from zero.
-/

namespace Handheld.Number

/-- The number that a binary fraction stands for. -/
def Dyadic.toRat (d : Dyadic) : ℚ := d.signedMantissa * (2 : ℚ) ^ d.exponent

/-- The number that a double stands for; none if it is not finite. -/
def toRat? (x : Float) : Option ℚ :=
  match Parts.ofFloat x with
  | .finite d => some d.toRat
  | _ => none

/-- The whole number nearest to a rational number, a half going away from zero. -/
def roundAway (q : ℚ) : ℤ := if 0 ≤ q then ⌊q + 1 / 2⌋ else -⌊-q + 1 / 2⌋

theorem roundAway_intCast (n : ℤ) : roundAway n = n := by
  have hhalf : ∀ m : ℤ, ⌊(m : ℚ) + 1 / 2⌋ = m := fun m => by
    rw [Int.floor_eq_iff]
    constructor <;> norm_num
  unfold roundAway
  split
  · exact hhalf n
  · rw [← Int.cast_neg, hhalf, Int.neg_neg]

theorem roundAway_neg {q : ℚ} (h : 0 ≤ q) : roundAway (-q) = -roundAway q := by
  rcases h.eq_or_lt with rfl | hpos
  · rw [neg_zero, ← Int.cast_zero, roundAway_intCast]
    rfl
  · rw [roundAway, roundAway, if_neg (by linarith), if_pos h, neg_neg]

/-- Rounding a half up is taking the floor a half further on. -/
theorem roundQuotient_away_eq_div (m : ℕ) {u : ℕ} (hu : 0 < u) :
    roundQuotient .away m u = (2 * m + u) / (2 * u) := by
  have hsplit := Nat.div_add_mod m u
  have hrest := Nat.mod_lt m hu
  have hscaled : ∀ n, n * (2 * u) = 2 * (u * n) := fun n => by ring
  symm
  rw [Nat.div_eq_iff (by omega), hscaled]
  unfold roundQuotient
  simp only [ite_self]
  split
  · omega
  · rw [Nat.mul_add_one]
    omega

/-- A quotient is rounded as the number is that it stands for. -/
theorem roundQuotient_away_eq (m : ℕ) {u : ℕ} (hu : 0 < u) :
    (roundQuotient .away m u : ℤ) = roundAway (m / u) := by
  have hhalf : (m : ℚ) / u + 1 / 2 = ((2 * m + u : ℕ) : ℚ) / ((2 * u : ℕ) : ℚ) := by
    have hu' : (u : ℚ) ≠ 0 := Nat.cast_ne_zero.mpr hu.ne'
    push_cast
    field_simp
  rw [roundAway, if_pos (by positivity), hhalf, roundQuotient_away_eq_div m hu,
    Rat.floor_natCast_div_natCast]
  rfl

namespace Dyadic

variable (d : Dyadic)

theorem toRat_of_nonneg (h : 0 ≤ d.exponent) :
    d.toRat = ((d.signedMantissa * Nat.pow 2 d.exponent.toNat : ℤ) : ℚ) := by
  obtain ⟨n, hn⟩ := Int.eq_ofNat_of_zero_le h
  have hpower : Nat.pow 2 n = 2 ^ n := rfl
  rw [toRat, hn, zpow_natCast, Int.toNat_natCast, hpower]
  push_cast
  rfl

theorem toRat_of_neg (h : d.exponent < 0) :
    d.toRat = (d.signedMantissa : ℚ) / ((Nat.pow 2 (-d.exponent).toNat : ℕ) : ℚ) := by
  obtain ⟨n, hn⟩ := Int.eq_ofNat_of_zero_le (Int.neg_nonneg_of_nonpos (Int.le_of_lt h))
  have hexponent : d.exponent = -(n : ℤ) := by omega
  have hpower : Nat.pow 2 n = 2 ^ n := rfl
  rw [toRat, hn, hexponent, zpow_neg, zpow_natCast, Int.toNat_natCast, hpower, div_eq_mul_inv]
  push_cast
  rfl

theorem floor_eq : d.floor = ⌊d.toRat⌋ := by
  rcases Int.lt_or_le d.exponent 0 with hneg | hpos
  · rw [floor, if_neg (Int.not_le.mpr hneg), d.toRat_of_neg hneg, Rat.floor_intCast_div_natCast]
  · rw [floor, if_pos hpos, d.toRat_of_nonneg hpos, Int.floor_intCast]

theorem toRat_nonneg_iff : 0 ≤ d.toRat ↔ 0 ≤ d.signedMantissa := by
  have hunit : (0 : ℚ) < 2 ^ d.exponent := zpow_pos (by norm_num) _
  rw [toRat, mul_nonneg_iff_of_pos_right hunit, Int.cast_nonneg_iff]

/-- Towards zero is down for what is not negative. -/
theorem truncate_eq_floor (h : 0 ≤ d.toRat) : d.truncate = ⌊d.toRat⌋ := by
  have hsigned := d.toRat_nonneg_iff.mp h
  rw [← floor_eq, truncate, floor, Int.tdiv_eq_ediv_of_nonneg hsigned]

theorem signedMantissa_nonneg_iff :
    0 ≤ d.signedMantissa ↔ ¬(d.negative = true ∧ d.mantissa ≠ 0) := by
  unfold signedMantissa
  cases d.negative <;> simp

theorem natAbs_signedMantissa : d.signedMantissa.natAbs = d.mantissa := by
  unfold signedMantissa
  cases d.negative <;> simp

/-- A fraction without a part after the point is a whole number, and no other one is. -/
theorem isWhole_iff : d.isWhole = true ↔ ∃ n : ℤ, d.toRat = n := by
  rcases Int.lt_or_le d.exponent 0 with hneg | hpos
  · have hunit : ((Nat.pow 2 (-d.exponent).toNat : ℕ) : ℚ) ≠ 0 :=
      Nat.cast_ne_zero.mpr (Nat.ne_of_gt (Nat.pow_pos (by decide)))
    have hquotient : ∀ n : ℤ, d.toRat = n ↔
        d.signedMantissa = n * (Nat.pow 2 (-d.exponent).toNat : ℕ) := by
      intro n
      rw [d.toRat_of_neg hneg, div_eq_iff hunit]
      exact_mod_cast Iff.rfl
    have hwhole : d.isWhole = true ↔ Nat.pow 2 (-d.exponent).toNat ∣ d.mantissa := by
      simp [isWhole, Int.not_le.mpr hneg, Nat.dvd_iff_mod_eq_zero]
    rw [hwhole, ← natAbs_signedMantissa, ← Int.natCast_dvd]
    simp only [hquotient]
    exact dvd_iff_exists_eq_mul_left
  · exact iff_of_true (by simp [isWhole, hpos]) ⟨_, d.toRat_of_nonneg hpos⟩

theorem nearest_eq : d.nearest = roundAway d.toRat := by
  rcases Int.lt_or_le d.exponent 0 with hneg | hpos
  · have hunit : 0 < Nat.pow 2 (-d.exponent).toNat := Nat.pow_pos (by decide)
    have hsize : (0 : ℚ) ≤ (d.mantissa : ℚ) / (Nat.pow 2 (-d.exponent).toNat : ℕ) := by positivity
    rw [nearest, if_neg (Int.not_le.mpr hneg), d.toRat_of_neg hneg]
    simp only
    rw [roundQuotient_away_eq _ hunit, signedMantissa]
    cases d.negative with
    | true =>
      rw [if_pos rfl, if_pos rfl, Int.cast_neg, neg_div, Int.cast_natCast, roundAway_neg hsize]
    | false => rfl
  · rw [nearest, if_pos hpos, d.toRat_of_nonneg hpos, roundAway_intCast]

end Dyadic

end Handheld.Number
