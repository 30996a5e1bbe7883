import Handheld.Number.Notation
import Handheld.Number.Numeral
import Handheld.Proofs.Number.Fraction
import Mathlib.Tactic.Linarith
import Mathlib.Tactic.Positivity
import Mathlib.Tactic.Ring

/-!
# What the shortest decimal is close to

The search for the shortest decimal of a double only ever accepts a decimal that rounds back to
the double. So the decimal lies next to the double, by half of the unit of the last bit at most,
and a whole number below `2 ^ 53` is found exactly, since no other whole number is as close.

* `digitsOf`: the digits of a number stand for it, and the first is not a zero;
* `Decimal.value`, `value_ofGrid`: the number that a decimal stands for, with or without the zeros
  at its end;
* `searchGrids_cases`: the search ends at the first grid with a point in the interval;
* `shortest_le`: the decimal is not beyond the upper end of the interval;
* `shortest_whole`: a small whole number is its own shortest decimal.
-/

namespace Handheld.Number

/-! ### Digits -/

theorem digitsOf_of_lt {n : ℕ} (h : n < 10) : digitsOf n = [n] := by
  have hall : ∀ n < 10, digitsOf n = [n] := by decide
  exact hall n h

theorem digitsOf_of_le {n : ℕ} (h : 10 ≤ n) : digitsOf n = digitsOf (n / 10) ++ [n % 10] := by
  have hlast : ∀ d < 10, (Nat.digitChar d).toNat - 48 = d := by decide
  rw [digitsOf, Nat.toDigits_of_base_le (by decide) h, List.map_append, digitsOf]
  simp only [List.map_cons, List.map_nil, hlast (n % 10) (Nat.mod_lt n (by decide))]

/-- Numbers are reached digit by digit. -/
theorem digits_induction {P : ℕ → Prop} (small : ∀ n < 10, P n)
    (next : ∀ n, 10 ≤ n → P (n / 10) → P n) (n : ℕ) : P n := by
  induction n using Nat.strong_induction_on with
  | h n ih =>
    rcases Nat.lt_or_ge n 10 with hn | hn
    · exact small n hn
    · exact next n hn (ih (n / 10) (Nat.div_lt_self (by omega) (by decide)))

theorem digitsOf_lt (n : ℕ) : ∀ d ∈ digitsOf n, d < 10 := by
  induction n using digits_induction with
  | small n hn =>
    rw [digitsOf_of_lt hn]
    simpa using hn
  | next n hn ih =>
    rw [digitsOf_of_le hn]
    intro d hd
    rcases List.mem_append.mp hd with hd | hd
    · exact ih d hd
    · rw [List.mem_singleton.mp hd]
      exact Nat.mod_lt n (by decide)

theorem valueOf_append (digits : List ℕ) (d : ℕ) :
    valueOf 10 (digits ++ [d]) = valueOf 10 digits * 10 + d := by
  simp [valueOf, List.foldl_append]

/-- The digits of a number stand for it. -/
theorem valueOf_digitsOf (n : ℕ) : valueOf 10 (digitsOf n) = n := by
  induction n using digits_induction with
  | small n hn =>
    rw [digitsOf_of_lt hn]
    simp [valueOf]
  | next n hn ih =>
    rw [digitsOf_of_le hn, valueOf_append, ih]
    omega

theorem digitsOf_ne_nil (n : ℕ) : digitsOf n ≠ [] := by
  rw [digitsOf, ne_eq, List.map_eq_nil_iff]
  exact Nat.toDigits_ne_nil

/-- The first digit of a positive number is not a zero. -/
theorem head?_digitsOf {n : ℕ} (h : n ≠ 0) : (digitsOf n).head? ≠ some 0 := by
  induction n using digits_induction with
  | small n hn =>
    rw [digitsOf_of_lt hn]
    simpa using h
  | next n hn ih =>
    rw [digitsOf_of_le hn, List.head?_append_of_ne_nil _ (digitsOf_ne_nil _)]
    exact ih (by omega)

/-- A number has as many digits as the powers of ten say. -/
theorem length_digitsOf_le_iff {n k : ℕ} (hk : 0 < k) : (digitsOf n).length ≤ k ↔ n < 10 ^ k := by
  rw [digitsOf, List.length_map]
  exact Nat.length_toDigits_le_iff (by decide) hk

theorem length_digitsOf_mul {n : ℕ} (h : n ≠ 0) (k : ℕ) :
    (digitsOf (n * 10 ^ k)).length = (digitsOf n).length + k := by
  induction k with
  | zero => simp
  | succ k ih =>
    have hpos : 0 < n * 10 ^ k := by positivity
    have hnext : n * 10 ^ (k + 1) = n * 10 ^ k * 10 := by rw [pow_succ, mul_assoc]
    rw [hnext, digitsOf_of_le (by omega), Nat.mul_div_cancel _ (by decide), List.length_append, ih]
    rfl

/-! ### Decimals -/

/-- The number that a decimal stands for. -/
def Decimal.value (d : Decimal) : ℚ :=
  valueOf 10 d.digits * (10 : ℚ) ^ (d.point - d.digits.length)

/-- Dropping zeros divides by a power of ten. -/
theorem exists_dropZeros (fuel n : ℕ) : ∃ k, n = dropZeros fuel n * 10 ^ k := by
  induction fuel generalizing n with
  | zero => exact ⟨0, by simp [dropZeros]⟩
  | succ fuel ih =>
    unfold dropZeros
    split
    · rename_i h
      obtain ⟨k, hk⟩ := ih (n / 10)
      refine ⟨k + 1, ?_⟩
      calc n = n / 10 * 10 := by omega
        _ = dropZeros fuel (n / 10) * 10 ^ (k + 1) := by
          conv_lhs => rw [hk]
          rw [pow_succ, mul_assoc]
    · exact ⟨0, by simp⟩

/-- A point of a grid as a decimal: a number without the zeros that it ends in, and its place. -/
theorem ofGrid_eq {n : ℕ} (hn : n ≠ 0) (step : ℤ) :
    ∃ m k : ℕ, m ≠ 0 ∧ n = m * 10 ^ k ∧
      Decimal.ofGrid n step = ⟨digitsOf m, (digitsOf m).length + k + step⟩ := by
  obtain ⟨k, hk⟩ := exists_dropZeros (digitsOf n).length n
  have hm : dropZeros (digitsOf n).length n ≠ 0 := by
    intro hzero
    rw [hzero, Nat.zero_mul] at hk
    exact hn hk
  refine ⟨_, k, hm, hk, ?_⟩
  have hlength := length_digitsOf_mul hm k
  rw [← hk] at hlength
  have hplace : ((digitsOf n).length : ℤ)
      = (digitsOf (dropZeros (digitsOf n).length n)).length + k := by exact_mod_cast hlength
  unfold Decimal.ofGrid
  dsimp only
  rw [← hplace]

theorem value_ofGrid {n : ℕ} (hn : n ≠ 0) (step : ℤ) :
    (Decimal.ofGrid n step).value = n * (10 : ℚ) ^ step := by
  obtain ⟨m, k, -, hk, hgrid⟩ := ofGrid_eq hn step
  have hplace : ((digitsOf m).length + k + step - (digitsOf m).length : ℤ) = k + step := by ring
  rw [hgrid, Decimal.value, valueOf_digitsOf, hplace, hk, zpow_add₀ (by norm_num), zpow_natCast]
  push_cast
  ring

/-! ### The interval -/

/-- What one grid step of an interval is counted in. -/
def scaleOf (d : Dyadic) (step : ℤ) : ℕ := 10 ^ (-step).toNat * 2 ^ (d.exponent - 2).toNat

theorem scaleOf_pos (d : Dyadic) (step : ℤ) : 0 < scaleOf d step := by
  unfold scaleOf
  positivity

/-- A power is the quotient of one with its exponent's positive part and one with its negative. -/
theorem zpow_eq_toNat {b : ℚ} (hb : b ≠ 0) (e : ℤ) : b ^ e * b ^ (-e).toNat = b ^ e.toNat := by
  rw [← zpow_natCast, ← zpow_natCast, ← zpow_add₀ hb]
  congr 1
  omega

section Interval

variable (d : Dyadic) (step : ℤ)

/-- The unit of a grid, in which the ends of the interval are counted. -/
theorem unit_ofDyadic : ((Interval.ofDyadic d step).unit : ℚ)
    = scaleOf d step * (10 : ℚ) ^ step * (2 : ℚ) ^ (2 - d.exponent) := by
  have hten := zpow_eq_toNat (b := (10 : ℚ)) (by norm_num) step
  have htwo := zpow_eq_toNat (b := (2 : ℚ)) (by norm_num) (2 - d.exponent)
  have hback : -(2 - d.exponent) = d.exponent - 2 := by ring
  rw [hback] at htwo
  show ((10 ^ step.toNat * 2 ^ (2 - d.exponent).toNat : ℕ) : ℚ) = _
  unfold scaleOf
  push_cast
  rw [← hten, ← htwo]
  ring

theorem high_ofDyadic :
    (Interval.ofDyadic d step).high = (4 * d.mantissa + 2) * scaleOf d step := rfl

theorem value_ofDyadic :
    (Interval.ofDyadic d step).value = 4 * d.mantissa * scaleOf d step := rfl

theorem le_low_ofDyadic :
    (4 * d.mantissa - 2) * scaleOf d step ≤ (Interval.ofDyadic d step).low := by
  show _ ≤ (4 * d.mantissa - if _ then 1 else 2) * scaleOf d step
  refine Nat.mul_le_mul_right _ ?_
  split <;> omega

theorem low_lt_ofDyadic (hm : 0 < d.mantissa) :
    (Interval.ofDyadic d step).low < (Interval.ofDyadic d step).value := by
  show (4 * d.mantissa - if _ then 1 else 2) * scaleOf d step < 4 * d.mantissa * scaleOf d step
  refine Nat.mul_lt_mul_of_pos_right ?_ (scaleOf_pos d step)
  split <;> omega

variable {d step}

/-- A point of the grid in the units of the interval. -/
theorem mul_unit (n : ℕ) : ((n * (Interval.ofDyadic d step).unit : ℕ) : ℚ)
    = n * (10 : ℚ) ^ step * (4 * scaleOf d step / (2 : ℚ) ^ d.exponent) := by
  have htwo : (2 : ℚ) ^ (2 - d.exponent) = 4 / 2 ^ d.exponent := by
    rw [zpow_sub₀ (by norm_num)]
    norm_num
  push_cast
  rw [unit_ofDyadic, htwo]
  ring

theorem le_of_contains {i : Interval} {n : ℕ} (h : i.contains n = true) :
    i.low ≤ n * i.unit ∧ n * i.unit ≤ i.high := by
  unfold Interval.contains at h
  split at h <;> simp only [Bool.and_eq_true, decide_eq_true_eq] at h <;> omega

/-- An accepted decimal is next to the value. -/
theorem near_of_hit? (hm : 0 < d.mantissa) {n : ℕ}
    (h : (Interval.ofDyadic d step).hit? = some n) :
    (d.mantissa - 1 / 2) * (2 : ℚ) ^ d.exponent ≤ n * (10 : ℚ) ^ step ∧
      n * (10 : ℚ) ^ step ≤ (d.mantissa + 1 / 2) * (2 : ℚ) ^ d.exponent := by
  obtain ⟨hlow, hhigh⟩ := le_of_contains (Interval.hit?_spec h)
  have hscale : (0 : ℚ) < scaleOf d step := Nat.cast_pos.mpr (scaleOf_pos d step)
  have hunit : (0 : ℚ) < 2 ^ d.exponent := zpow_pos (by norm_num) _
  have hfactor : (0 : ℚ) < 4 * scaleOf d step / 2 ^ d.exponent := by positivity
  have hlow' := (le_low_ofDyadic d step).trans hlow
  rw [high_ofDyadic] at hhigh
  have hlow_cast : (((4 * d.mantissa - 2) * scaleOf d step : ℕ) : ℚ)
      ≤ ((n * (Interval.ofDyadic d step).unit : ℕ) : ℚ) := Nat.cast_le.mpr hlow'
  have hhigh_cast : ((n * (Interval.ofDyadic d step).unit : ℕ) : ℚ)
      ≤ (((4 * d.mantissa + 2) * scaleOf d step : ℕ) : ℚ) := Nat.cast_le.mpr hhigh
  have hends : ∀ c : ℚ, (4 * d.mantissa + c) * scaleOf d step
      = (d.mantissa + c / 4) * 2 ^ d.exponent * (4 * scaleOf d step / 2 ^ d.exponent) := by
    intro c
    field_simp
  rw [mul_unit] at hlow_cast hhigh_cast
  constructor
  · rw [Nat.cast_mul, Nat.cast_sub (by omega)] at hlow_cast
    push_cast at hlow_cast
    rw [sub_eq_add_neg, hends, mul_le_mul_iff_of_pos_right hfactor] at hlow_cast
    have hhalf : (-2 / 4 : ℚ) = -(1 / 2) := by norm_num
    rwa [hhalf, ← sub_eq_add_neg] at hlow_cast
  · push_cast at hhigh_cast
    rw [hends, mul_le_mul_iff_of_pos_right hfactor] at hhigh_cast
    have hhalf : (2 / 4 : ℚ) = 1 / 2 := by norm_num
    rwa [hhalf] at hhigh_cast

/-- A value on the grid is accepted. -/
theorem hit?_of_eq (hm : 0 < d.mantissa) {n : ℕ}
    (h : d.mantissa * (2 : ℚ) ^ d.exponent = n * (10 : ℚ) ^ step) :
    (Interval.ofDyadic d step).hit? = some n := by
  have hpower : (2 : ℚ) ^ d.exponent ≠ 0 := zpow_ne_zero _ (by norm_num)
  have hvalue : (Interval.ofDyadic d step).value = n * (Interval.ofDyadic d step).unit := by
    have hcast : ((Interval.ofDyadic d step).value : ℚ)
        = ((n * (Interval.ofDyadic d step).unit : ℕ) : ℚ) := by
      rw [mul_unit, ← h, value_ofDyadic]
      push_cast
      field_simp
    exact_mod_cast hcast
  have hlow := low_lt_ofDyadic d step hm
  have hhigh : (Interval.ofDyadic d step).value < (Interval.ofDyadic d step).high := by
    rw [value_ofDyadic, high_ofDyadic]
    exact Nat.mul_lt_mul_of_pos_right (by omega) (scaleOf_pos d step)
  generalize Interval.ofDyadic d step = i at hvalue hlow hhigh
  have hpos : 0 < i.unit := by
    rcases Nat.eq_zero_or_pos i.unit with hzero | hpos
    · rw [hvalue, hzero] at hlow
      omega
    · exact hpos
  have hcontains : i.contains n = true := by
    rw [hvalue] at hlow hhigh
    unfold Interval.contains
    split <;> simp only [Bool.and_eq_true, decide_eq_true_eq] <;> omega
  have hbelow : i.value / i.unit = n := by rw [hvalue, Nat.mul_div_cancel n hpos]
  have hrest : i.value % i.unit = 0 := by rw [hvalue, Nat.mul_mod_left]
  unfold Interval.hit?
  simp only [hbelow, hrest, Nat.mul_zero, hpos, if_true, hcontains]

end Interval

/-! ### The search -/

/-- The search ends at the first grid with an accepted point, or without one. -/
theorem searchGrids_cases (d : Dyadic) (top : ℤ) (tries count : ℕ) :
    (searchGrids d top tries count = ⟨[0], 0⟩ ∧
        ∀ s, top - count - tries + 2 ≤ s → s ≤ top - count + 1 →
          (Interval.ofDyadic d s).hit? = none) ∨
      ∃ n step, searchGrids d top tries count = .ofGrid n step ∧
        (Interval.ofDyadic d step).hit? = some n ∧
        ∀ s, step < s → s ≤ top - count + 1 → (Interval.ofDyadic d s).hit? = none := by
  induction tries generalizing count with
  | zero => exact .inl ⟨rfl, fun s hlow hhigh => absurd hhigh (by push_cast at hlow; omega)⟩
  | succ tries ih =>
    rw [searchGrids]
    cases hhit : (Interval.ofDyadic d (top - count + 1)).hit? with
    | some n => exact .inr ⟨n, _, rfl, hhit, fun s hlow hhigh => absurd hhigh (by omega)⟩
    | none =>
      -- the first grid has no point, and the others are searched
      rcases ih (count + 1) with ⟨hend, hnone⟩ | ⟨n, step, hgrid, hfound, hnone⟩
      · refine .inl ⟨hend, fun s hlow hhigh => ?_⟩
        rcases eq_or_ne s (top - count + 1) with rfl | hne
        · exact hhit
        · exact hnone s (by push_cast at hlow ⊢; omega) (by push_cast; omega)
      · refine .inr ⟨n, step, hgrid, hfound, fun s hlow hhigh => ?_⟩
        rcases eq_or_ne s (top - count + 1) with rfl | hne
        · exact hhit
        · exact hnone s hlow (by push_cast; omega)

variable {d : Dyadic}

/-- The shortest decimal, if the search finds one, is not beyond the upper end of the interval. -/
theorem shortest_le (hm : 0 < d.mantissa) :
    d.shortest = ⟨[0], 0⟩ ∨ ∃ n step, n ≠ 0 ∧ d.shortest = .ofGrid n step ∧
      n * (10 : ℚ) ^ step ≤ (d.mantissa + 1 / 2) * (2 : ℚ) ^ d.exponent := by
  rcases searchGrids_cases d d.decimalExponent 18 1 with ⟨hend, -⟩ | ⟨n, step, hgrid, hhit, -⟩
  · exact .inl hend
  · obtain ⟨hlow, hhigh⟩ := near_of_hit? hm hhit
    refine .inr ⟨n, step, ?_, hgrid, hhigh⟩
    rintro rfl
    have hunit : (0 : ℚ) < 2 ^ d.exponent := zpow_pos (by norm_num) _
    have hmantissa : (1 : ℚ) ≤ d.mantissa := by exact_mod_cast hm
    have hpos : (0 : ℚ) < (d.mantissa - 1 / 2) * 2 ^ d.exponent := mul_pos (by linarith) hunit
    rw [Nat.cast_zero, zero_mul] at hlow
    linarith

theorem raiseExponent_bounds (num den tries : ℕ) (e : ℤ) :
    e ≤ raiseExponent num den tries e ∧ raiseExponent num den tries e ≤ e + tries := by
  induction tries generalizing e with
  | zero => exact ⟨le_rfl, by simp [raiseExponent]⟩
  | succ tries ih =>
    rw [raiseExponent]
    split
    · have := ih (e + 1)
      push_cast
      omega
    · push_cast
      omega

/-- The decimal exponent of a whole number below `2 ^ 53`. -/
theorem decimalExponent_whole {v : ℕ} (hv : v ≠ 0) (hsmall : v < 2 ^ 53)
    (hvalue : d.mantissa * (2 : ℚ) ^ d.exponent = v) :
    0 ≤ d.decimalExponent ∧ d.decimalExponent ≤ 17 := by
  have hm : d.mantissa ≠ 0 := by
    intro hzero
    rw [hzero, Nat.cast_zero, zero_mul] at hvalue
    exact hv (by exact_mod_cast hvalue.symm)
  -- the bit length is that of a whole number
  have hone : (1 : ℚ) ≤ v := by exact_mod_cast Nat.pos_of_ne_zero hv
  have hbound : (v : ℚ) < 2 ^ (53 : ℤ) := by exact_mod_cast hsmall
  have hunit : (0 : ℚ) < 2 ^ d.exponent := zpow_pos (by norm_num) _
  have hlog_low : (2 : ℚ) ^ ((d.mantissa.log2 : ℤ) + d.exponent) ≤ v := by
    rw [← hvalue, zpow_add₀ (by norm_num), zpow_natCast]
    refine mul_le_mul_of_nonneg_right ?_ hunit.le
    exact_mod_cast Nat.log2_self_le hm
  have hlog_high : (v : ℚ) < 2 ^ ((d.mantissa.log2 : ℤ) + 1 + d.exponent) := by
    rw [← hvalue, zpow_add₀ (by norm_num)]
    refine mul_lt_mul_of_pos_right ?_ hunit
    exact_mod_cast Nat.lt_log2_self (n := d.mantissa)
  have hbits_low : 0 ≤ (d.mantissa.log2 : ℤ) + d.exponent := by
    have := hone.trans_lt hlog_high
    rw [← zpow_zero (2 : ℚ), zpow_lt_zpow_iff_right₀ (by norm_num)] at this
    omega
  have hbits_high : (d.mantissa.log2 : ℤ) + d.exponent ≤ 52 := by
    have := hlog_low.trans_lt hbound
    rw [zpow_lt_zpow_iff_right₀ (by norm_num)] at this
    omega
  unfold Dyadic.decimalExponent
  dsimp only
  generalize hbits : (d.mantissa.log2 : ℤ) + d.exponent = bits at hbits_low hbits_high
  have hbounds := raiseExponent_bounds (d.mantissa * Nat.pow 2 d.exponent.toNat)
    (Nat.pow 2 (-d.exponent).toNat) 3 (bits * 30103 / 100000 - 1)
  refine ⟨?_, by omega⟩
  rcases eq_or_ne (bits * 30103 / 100000) 0 with hzero | hpos
  · -- the bound starts one too low and is raised, since the number is not below one
    have hnum : Nat.pow 2 (-d.exponent).toNat ≤ d.mantissa * Nat.pow 2 d.exponent.toNat := by
      have htwo := zpow_eq_toNat (b := (2 : ℚ)) (by norm_num) d.exponent
      have hden : (0 : ℚ) < 2 ^ (-d.exponent).toNat := by positivity
      have hcast : (2 : ℚ) ^ (-d.exponent).toNat ≤ d.mantissa * 2 ^ d.exponent.toNat := by
        rw [← htwo, ← mul_assoc, hvalue]
        exact le_mul_of_one_le_left hden.le hone
      show 2 ^ (-d.exponent).toNat ≤ d.mantissa * 2 ^ d.exponent.toNat
      exact_mod_cast hcast
    rw [hzero]
    have hraised : raiseExponent (d.mantissa * Nat.pow 2 d.exponent.toNat)
        (Nat.pow 2 (-d.exponent).toNat) 3 (0 - 1)
        = raiseExponent (d.mantissa * Nat.pow 2 d.exponent.toNat)
          (Nat.pow 2 (-d.exponent).toNat) 2 0 := by
      rw [raiseExponent, if_pos]
      · rfl
      · simpa using hnum
    rw [hraised]
    exact (raiseExponent_bounds _ _ 2 0).1
  · omega

/-- A whole number below `2 ^ 53` is its own shortest decimal. -/
theorem shortest_whole {v : ℕ} (hv : v ≠ 0) (hsmall : v < 2 ^ 53)
    (hvalue : d.mantissa * (2 : ℚ) ^ d.exponent = v) (hexponent : d.exponent ≤ 0) :
    ∃ n k : ℕ, n ≠ 0 ∧ d.shortest = .ofGrid n k ∧ n * 10 ^ k = v := by
  have hm : 0 < d.mantissa := by
    rcases Nat.eq_zero_or_pos d.mantissa with hzero | hpos
    · rw [hzero, Nat.cast_zero, zero_mul] at hvalue
      exact absurd (by exact_mod_cast hvalue.symm) hv
    · exact hpos
  obtain ⟨htop_low, htop_high⟩ := decimalExponent_whole hv hsmall hvalue
  have hhit : (Interval.ofDyadic d 0).hit? = some v := hit?_of_eq hm (by simpa using hvalue)
  rcases searchGrids_cases d d.decimalExponent 18 1 with
    ⟨-, hnone⟩ | ⟨n, step, hgrid, hfound, hnone⟩
  · -- the grid of the whole numbers is among those that are searched
    have := hnone 0 (by push_cast; omega) (by push_cast; omega)
    rw [hhit] at this
    cases this
  · have hstep : 0 ≤ step := by
      by_contra hneg
      have := hnone 0 (by omega) (by push_cast; omega)
      rw [hhit] at this
      cases this
    obtain ⟨k, rfl⟩ := Int.eq_ofNat_of_zero_le hstep
    obtain ⟨hlow, hhigh⟩ := near_of_hit? hm hfound
    -- two whole numbers that are half a unit apart at most are the same
    have hunit : (2 : ℚ) ^ d.exponent ≤ 1 := zpow_le_one_of_nonpos₀ (by norm_num) hexponent
    rw [sub_mul, hvalue, zpow_natCast] at hlow
    rw [add_mul, hvalue, zpow_natCast] at hhigh
    have hlow' : ((v : ℤ) : ℚ) - 1 < ((n * 10 ^ k : ℤ) : ℚ) := by push_cast; linarith
    have hhigh' : ((n * 10 ^ k : ℤ) : ℚ) < ((v : ℤ) : ℚ) + 1 := by push_cast; linarith
    have hlow_int : (v : ℤ) - 1 < n * 10 ^ k := by exact_mod_cast hlow'
    have hhigh_int : (n : ℤ) * 10 ^ k < v + 1 := by exact_mod_cast hhigh'
    have heq : n * 10 ^ k = v := by
      have : ((n * 10 ^ k : ℕ) : ℤ) = v := by push_cast; omega
      exact_mod_cast this
    refine ⟨n, k, ?_, hgrid, heq⟩
    rintro rfl
    rw [Nat.zero_mul] at heq
    exact hv heq.symm

end Handheld.Number
