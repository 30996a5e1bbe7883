import Handheld.Proofs.Number.Unpacked

/-!
# Rounding of sums and products

The sum and the product of two doubles are the numbers that they should be, rounded. How a tie
is broken never matters to this library. What matters is that rounding keeps the order: no
number that a double could stand for lies strictly between a result and its rounding.

* `Grid`, `Rounds`: the numbers that doubles stand for, without a bound to their size, and what it
  is to be rounded to one of them;
* `rounds_of_quotient`, `settled_eq`, `roundedFrom_roundWithAccuracy`: a mantissa is rounded, and
  has the form of a double then;
* `rounds_mul`, `rounds_add`: a finite product or sum is the product or sum of two finite numbers,
  rounded;
* `exists_toRat?_mul`: a product that is not beyond the greatest double is finite;
* `isNegative_mul`, `isNegative_div`: no sign comes from nowhere.
-/

namespace Handheld.Number

open Float.Model (Format UnpackedFloat)
open Float.Model.UnpackedFloat (Sign ExtendedMantissa)

/-! ### The numbers that doubles stand for -/

/-- The numbers of 53 bits at an exponent that doubles have: what a double stands for, and what
it would stand for if its exponents went on. -/
def Grid (q : ℚ) : Prop :=
  ∃ (n e : ℤ), n.natAbs < 2 ^ 53 ∧ -1074 ≤ e ∧ q = n * (2 : ℚ) ^ e

theorem grid_intCast {n : ℤ} (h : n.natAbs < 2 ^ 53) : Grid n :=
  ⟨n, 0, h, by decide, by simp⟩

theorem Grid.neg {q : ℚ} (h : Grid q) : Grid (-q) := by
  obtain ⟨n, e, hn, he, rfl⟩ := h
  exact ⟨-n, e, by rwa [Int.natAbs_neg], he, by push_cast; ring⟩

/-- A number of the grid times a power of two is in the grid. -/
theorem Grid.mul_two_pow {q : ℚ} (h : Grid q) (k : ℕ) : Grid (q * 2 ^ k) := by
  obtain ⟨n, e, hn, he, rfl⟩ := h
  refine ⟨n, e + k, hn, by omega, ?_⟩
  rw [zpow_add₀ (by norm_num), zpow_natCast, mul_assoc]

theorem Canonical.grid {u : UnpackedFloat} (h : Canonical u) {q : ℚ} (hq : value? u = some q) :
    Grid q := by
  cases u with
  | notANumber => cases hq
  | infinity s => cases hq
  | zero s =>
    cases hq
    exact_mod_cast grid_intCast (n := 0) (by decide)
  | finite s m e hm =>
    cases hq
    refine ⟨s.apply m, e, ?_, h.2.1, rfl⟩
    have hsize : (s.apply (m : ℤ)).natAbs = m := by
      cases s
      · exact (Int.natAbs_neg _).trans (Int.natAbs_natCast m)
      · exact Int.natAbs_natCast m
    rw [hsize]
    exact h.1

/-- A finite double stands for a number of the grid. -/
theorem grid_of_toRat? {x : Float} {q : ℚ} (h : toRat? x = some q) : Grid q :=
  (canonical_unpack h).grid (toRat?_eq x ▸ h)

/-- `z` is `q` rounded: no number of the grid lies between them. -/
structure Rounds (q z : ℚ) : Prop where
  low : ∀ g, Grid g → g ≤ q → g ≤ z
  high : ∀ g, Grid g → q ≤ g → z ≤ g

theorem Rounds.refl (q : ℚ) : Rounds q q := ⟨fun _ _ h => h, fun _ _ h => h⟩

theorem Rounds.neg {q z : ℚ} (h : Rounds q z) : Rounds (-q) (-z) where
  low g hg hle := by
    have := h.high (-g) hg.neg (by linarith)
    linarith
  high g hg hle := by
    have := h.low (-g) hg.neg (by linarith)
    linarith

/-- A number of the grid stays where it is. -/
theorem Rounds.eq {q z : ℚ} (h : Rounds q z) (hq : Grid q) : z = q :=
  le_antisymm (h.high q hq le_rfl) (h.low q hq le_rfl)

/-- A whole number that is rounded to one of few bits was that number. -/
theorem Rounds.floor_eq {s : ℤ} {z : ℚ} (h : Rounds s z) (hz : ⌊z⌋.natAbs < 2 ^ 52) :
    ⌊z⌋ = s := by
  have hceil : z < ⌊z⌋ + 1 := Int.lt_floor_add_one z
  have hfloor : (⌊z⌋ : ℚ) ≤ z := Int.floor_le z
  rcases Nat.lt_or_ge s.natAbs (2 ^ 53) with hs | hs
  · rw [h.eq (grid_intCast hs), Int.floor_intCast]
  · exfalso
    rcases Int.lt_or_le 0 s with hpos | hneg
    · have hle := h.low ((2 ^ 53 - 1 : ℤ) : ℚ) (grid_intCast (by decide))
        (by exact_mod_cast (by omega : (2 ^ 53 - 1 : ℤ) ≤ s))
      have : ((2 ^ 53 - 1 : ℤ) : ℚ) < ((⌊z⌋ + 1 : ℤ) : ℚ) := by push_cast at hle ⊢; linarith
      have := Int.cast_lt.mp this
      omega
    · have hle := h.high ((-(2 ^ 53 - 1) : ℤ) : ℚ) (grid_intCast (by decide))
        (by exact_mod_cast (by omega : s ≤ -(2 ^ 53 - 1 : ℤ)))
      have : ((⌊z⌋ : ℤ) : ℚ) ≤ ((-(2 ^ 53 - 1) : ℤ) : ℚ) := hfloor.trans hle
      have := Int.cast_le.mp this
      omega

/-! ### Rounding a mantissa -/

/-- A mantissa that is shifted keeps the last bit that it loses, and whether there was a bit
before that one. -/
theorem shiftRight_succ (m k : ℕ) :
    (⟨m, false, false⟩ : ExtendedMantissa) >>> (k + 1)
      = ⟨m / 2 ^ (k + 1), m / 2 ^ k % 2 != 0, decide (m % 2 ^ k ≠ 0)⟩ := by
  induction k with
  | zero =>
    show (⟨m / 2, m % 2 != 0, false⟩ : ExtendedMantissa) = _
    simp [Nat.mod_one]
  | succ k ih =>
    have hstep : (⟨m, false, false⟩ : ExtendedMantissa) >>> (k + 1 + 1)
        = ((⟨m, false, false⟩ : ExtendedMantissa) >>> (k + 1)).shiftRightOne := rfl
    have hmod : m % 2 ^ (k + 1) = m % 2 ^ k + 2 ^ k * (m / 2 ^ k % 2) := by
      rw [Nat.pow_succ, Nat.mod_mul]
    have hhalf : m / 2 ^ (k + 1) / 2 = m / 2 ^ (k + 1 + 1) := by
      rw [Nat.div_div_eq_div_mul, ← Nat.pow_succ]
    rw [hstep, ih, ExtendedMantissa.shiftRightOne, hhalf]
    congr 1
    -- there was a bit before the last one if there was one before, or if the last one was
    rcases Nat.mod_two_eq_zero_or_one (m / 2 ^ k) with hzero | hone
    · rw [hmod, hzero, Nat.mul_zero, Nat.add_zero]
      rfl
    · have hunit : 0 < 2 ^ k := Nat.two_pow_pos k
      have hrest : m % 2 ^ (k + 1) ≠ 0 := by rw [hmod, hone]; omega
      rw [hone, decide_eq_true hrest]
      rfl

theorem mantissa_shiftRight (m k : ℕ) :
    ((⟨m, false, false⟩ : ExtendedMantissa) >>> k).mantissa = m / 2 ^ k := by
  cases k with
  | zero => exact (Nat.div_one m).symm
  | succ k => rw [shiftRight_succ]

/-- A rounded mantissa is the nearest quotient, and the even one of two. -/
theorem roundedMantissa_shiftRight (m k : ℕ) :
    ((⟨m, false, false⟩ : ExtendedMantissa) >>> k).roundedMantissa
      = roundQuotient .even m (2 ^ k) := by
  cases k with
  | zero =>
    have hone := roundQuotient_mul .even m Nat.one_pos
    rw [Nat.mul_one] at hone
    exact hone.symm
  | succ k =>
    have hunit : 0 < 2 ^ k := Nat.two_pow_pos k
    have hrest : m % 2 ^ k < 2 ^ k := Nat.mod_lt _ hunit
    have hmod : m % 2 ^ (k + 1) = m % 2 ^ k + 2 ^ k * (m / 2 ^ k % 2) := by
      rw [Nat.pow_succ, Nat.mod_mul]
    have hden : 2 ^ (k + 1) = 2 ^ k * 2 := Nat.pow_succ 2 k
    rw [shiftRight_succ]
    unfold roundQuotient
    dsimp only
    rcases Nat.mod_two_eq_zero_or_one (m / 2 ^ k) with hzero | hone
    · rw [if_pos (by rw [hmod, hzero]; omega), hzero]
      cases decide (m % 2 ^ k ≠ 0) <;> rfl
    · rw [if_neg (by rw [hmod, hone]; omega), hone]
      by_cases htie : m % 2 ^ k = 0
      · -- a tie goes to the even neighbour
        rw [if_neg (by rw [hmod, hone]; omega), htie]
        rfl
      · rw [if_pos (by rw [hmod, hone]; omega), decide_eq_true htie]
        rfl

/-- The nearest quotient is less than a unit away. -/
theorem roundQuotient_mul_lt (m k : ℕ) : roundQuotient .even m (2 ^ k) * 2 ^ k < m + 2 ^ k := by
  have hunit : 0 < 2 ^ k := Nat.two_pow_pos k
  have hnear := two_mul_roundQuotient_le .even m hunit
  rw [Nat.mul_comm (2 ^ k)] at hnear
  omega

/-- A quotient or one more, with all of its 53 bits or at the least exponent, is a number
rounded. -/
theorem rounds_of_quotient {m r k : ℕ} {t : ℤ} (hlow : m / 2 ^ k ≤ r)
    (hhigh : r * 2 ^ k < m + 2 ^ k) (hbits : 2 ^ 52 ≤ m / 2 ^ k ∨ t = -1074) :
    Rounds (m * (2 : ℚ) ^ (t - k)) (r * (2 : ℚ) ^ t) := by
  have hunit : (0 : ℚ) < 2 ^ t := zpow_pos (by norm_num) t
  have hfine : (2 : ℚ) ^ t = 2 ^ k * 2 ^ (t - k) := by
    rw [← zpow_natCast, ← zpow_add₀ (by norm_num)]
    congr 1
    omega
  have hfine_pos : (0 : ℚ) < 2 ^ (t - k) := zpow_pos (by norm_num) _
  have hquotient : ((m / 2 ^ k : ℕ) : ℚ) * 2 ^ t ≤ m * 2 ^ (t - k) := by
    have hle : ((m / 2 ^ k * 2 ^ k : ℕ) : ℚ) ≤ m := Nat.cast_le.mpr (Nat.div_mul_le_self m (2 ^ k))
    push_cast at hle
    calc ((m / 2 ^ k : ℕ) : ℚ) * 2 ^ t = (m / 2 ^ k : ℕ) * 2 ^ k * 2 ^ (t - k) := by
          rw [hfine, mul_assoc]
      _ ≤ m * 2 ^ (t - k) := mul_le_mul_of_nonneg_right hle hfine_pos.le
  have hresult : ((m / 2 ^ k : ℕ) : ℚ) * 2 ^ t ≤ r * 2 ^ t :=
    mul_le_mul_of_nonneg_right (Nat.cast_le.mpr hlow) hunit.le
  -- a number of the grid at an exponent below lies below all of the 53 bits
  have hbelow : ∀ (n f : ℤ), n.natAbs < 2 ^ 53 → -1074 ≤ f → f < t →
      n * (2 : ℚ) ^ f < (m / 2 ^ k : ℕ) * 2 ^ t := by
    intro n f hn hf hft
    have hfull : 2 ^ 52 ≤ m / 2 ^ k := hbits.resolve_right (by omega)
    have hhalf : (2 : ℚ) ^ f ≤ 2 ^ (t - 1) := zpow_le_zpow_right₀ (by norm_num) (by omega)
    have hstep : (2 : ℚ) ^ t = 2 * 2 ^ (t - 1) := by
      rw [zpow_sub_one₀ (by norm_num)]
      ring
    have hsize : (n : ℚ) < 2 ^ 53 := by exact_mod_cast (by omega : n < 2 ^ 53)
    have hfull' : (2 : ℚ) ^ 52 ≤ (m / 2 ^ k : ℕ) := by exact_mod_cast hfull
    have hf_pos : (0 : ℚ) < 2 ^ f := zpow_pos (by norm_num) f
    calc n * (2 : ℚ) ^ f < 2 ^ 53 * 2 ^ f := mul_lt_mul_of_pos_right hsize hf_pos
      _ ≤ 2 ^ 53 * 2 ^ (t - 1) := mul_le_mul_of_nonneg_left hhalf (by positivity)
      _ = 2 ^ 52 * 2 ^ t := by rw [hstep]; ring
      _ ≤ (m / 2 ^ k : ℕ) * 2 ^ t := mul_le_mul_of_nonneg_right hfull' hunit.le
  -- a number of the grid at an exponent from `t` on is a multiple of the unit
  have habove : ∀ (n f : ℤ), t ≤ f → ∃ n' : ℤ, n * (2 : ℚ) ^ f = n' * 2 ^ t := by
    intro n f htf
    refine ⟨n * 2 ^ (f - t).toNat, ?_⟩
    have hf : f = (f - t).toNat + t := by omega
    conv_lhs => rw [hf, zpow_add₀ (by norm_num), zpow_natCast]
    push_cast
    ring
  have hscaled : ∀ n' : ℤ, (n' : ℚ) * 2 ^ t = (n' * 2 ^ k : ℤ) * 2 ^ (t - k) := by
    intro n'
    rw [hfine]
    push_cast
    ring
  constructor
  case low =>
    rintro g ⟨n, f, hn, hf, rfl⟩ hle
    rcases lt_or_ge f t with hft | htf
    · exact (hbelow n f hn hf hft).le.trans hresult
    · obtain ⟨n', hn'⟩ := habove n f htf
      rw [hn'] at hle ⊢
      rw [hscaled, mul_le_mul_iff_of_pos_right hfine_pos] at hle
      have hint : n' * 2 ^ k ≤ (m : ℤ) := by exact_mod_cast hle
      have hdiv : n' ≤ (m : ℤ) / 2 ^ k := (Int.le_ediv_iff_mul_le (by positivity)).mpr hint
      have hr : n' ≤ (r : ℤ) := hdiv.trans (by exact_mod_cast hlow)
      exact mul_le_mul_of_nonneg_right (by exact_mod_cast hr) hunit.le
  case high =>
    rintro g ⟨n, f, hn, hf, rfl⟩ hle
    rcases lt_or_ge f t with hft | htf
    · exact absurd (hle.trans_lt (hbelow n f hn hf hft)) (not_lt.mpr hquotient)
    · obtain ⟨n', hn'⟩ := habove n f htf
      rw [hn'] at hle ⊢
      rw [hscaled, mul_le_mul_iff_of_pos_right hfine_pos] at hle
      have hint : (m : ℤ) ≤ n' * 2 ^ k := by exact_mod_cast hle
      have hless : (r : ℤ) * 2 ^ k < (n' + 1) * 2 ^ k := by
        calc (r : ℤ) * 2 ^ k < m + 2 ^ k := by exact_mod_cast hhigh
          _ ≤ n' * 2 ^ k + 2 ^ k := by omega
          _ = (n' + 1) * 2 ^ k := by ring
      have hr : (r : ℤ) < n' + 1 := lt_of_mul_lt_mul_right hless (by positivity)
      exact mul_le_mul_of_nonneg_right (by exact_mod_cast (by omega : (r : ℤ) ≤ n')) hunit.le

/-! ### Rounding to the form of a double -/

/-- The least exponent with which the bits of `m · 2 ^ e` fit a double. -/
def target (m : ℕ) (e : ℤ) : ℤ := max (m.log2 + e - 52) (-1074)

theorem targetExponent_eq (m : ℕ) (e : ℤ) :
    Format.binary64.targetExponent (Float.Model.totalExponent m e) = target m e := by
  show max ((m.log2 : ℤ) + 1 + e - 53) (-1074) = _
  unfold target
  omega

/-- What is made of a rounded mantissa, which may have become one bit too long. -/
def settled (s : Sign) (r : ℕ) (t : ℤ) : UnpackedFloat :=
  if h : r / 2 ^ (target r t - t).toNat = 0 then .zero s
  else .finite s (r / 2 ^ (target r t - t).toNat) (t + (target r t - t).toNat)
    (Nat.pos_of_ne_zero h)

theorem roundWithAccuracy_eq (s : Sign) (m : ℕ) (e : ℤ) :
    UnpackedFloat.roundWithAccuracy .binary64 s m e .exact =
      settled s ((⟨m, false, false⟩ : ExtendedMantissa) >>> (target m e - e).toNat).roundedMantissa
        (e + (target m e - e).toNat) := by
  unfold UnpackedFloat.roundWithAccuracy UnpackedFloat.shiftToTargetExponent
    UnpackedFloat.shiftToExponent ExtendedMantissa.ofMantissaAndAccuracy settled
  simp only [targetExponent_eq, mantissa_shiftRight]

theorem settled_eq (s : Sign) {r : ℕ} {t : ℤ} (hr : r ≤ 2 ^ 53) (ht : -1074 ≤ t)
    (hbits : 2 ^ 52 ≤ r ∨ t = -1074) :
    Canonical (settled s r t) ∧ value? (settled s r t) = some (s.apply r * (2 : ℚ) ^ t) := by
  rcases Nat.lt_or_ge r (2 ^ 53) with hlt | hge
  · have hlog : r.log2 ≤ 52 := by
      rcases Nat.eq_zero_or_pos r with rfl | hpos
      · decide
      · exact Nat.le_of_lt_succ ((Nat.log2_lt hpos.ne').mpr hlt)
    have hshift : (target r t - t).toNat = 0 := by
      unfold target
      omega
    unfold settled
    simp only [hshift, Nat.pow_zero, Nat.div_one]
    split
    · rename_i hzero
      subst hzero
      refine ⟨trivial, ?_⟩
      cases s <;> simp [value?, Sign.apply]
    · refine ⟨⟨hlt, by omega, by omega⟩, ?_⟩
      simp [value?]
  · -- the mantissa has become a power of two, which loses its last zero
    have hr : r = 2 ^ 53 := by omega
    subst hr
    have hshift : (target (2 ^ 53) t - t).toNat = 1 := by
      unfold target
      rw [Nat.log2_two_pow]
      omega
    unfold settled
    simp only [hshift]
    refine ⟨⟨by decide, by omega, .inl (by decide)⟩, ?_⟩
    have hhalf : ((2 ^ 53 / 2 ^ 1 : ℕ) : ℤ) = 2 ^ 52 := by decide
    have hwhole : ((2 ^ 53 : ℕ) : ℤ) = 2 * 2 ^ 52 := by decide
    have hdouble : ∀ n : ℤ, s.apply (2 * n) = 2 * s.apply n := by
      intro n
      cases s
      · exact (mul_neg 2 n).symm
      · rfl
    show some (((s.apply ((2 ^ 53 / 2 ^ 1 : ℕ) : ℤ) : ℤ) : ℚ) * 2 ^ (t + (1 : ℕ))) = _
    rw [hhalf, hwhole, hdouble, zpow_add₀ (by norm_num)]
    push_cast
    congr 1
    ring

/-- An unpacked double in the form of a double that is a number rounded. -/
structure RoundedFrom (q : ℚ) (u : UnpackedFloat) : Prop where
  canonical : Canonical u
  value : ∃ z, value? u = some z ∧ Rounds q z

theorem rounds_apply {q z : ℚ} (h : Rounds q z) (s : Sign) :
    Rounds (s.apply 1 * q) (s.apply 1 * z) := by
  cases s
  · simpa [Sign.apply] using h.neg
  · simpa [Sign.apply] using h

theorem apply_mul (s : Sign) (n : ℤ) (q : ℚ) :
    (s.apply n : ℚ) * q = s.apply 1 * (n * q) := by
  cases s <;> simp [Sign.apply]

/-- Rounding a mantissa whose exponent is not too large, as a quotient of it. -/
theorem canonical_roundWithAccuracy (s : Sign) {m k : ℕ} {e : ℤ} (hm : m ≠ 0)
    (hk : e + k = target m e) :
    Canonical (UnpackedFloat.roundWithAccuracy .binary64 s m e .exact) ∧
      value? (UnpackedFloat.roundWithAccuracy .binary64 s m e .exact)
        = some (s.apply (roundQuotient .even m (2 ^ k)) * (2 : ℚ) ^ target m e) ∧
      (2 ^ 52 ≤ m / 2 ^ k ∨ target m e = -1074) := by
  have hleast : -1074 ≤ target m e := le_max_right _ _
  have hlong : m.log2 ≤ 52 + k := by
    have : (m.log2 : ℤ) + e - 52 ≤ target m e := le_max_left _ _
    omega
  have hbits : 2 ^ 52 ≤ m / 2 ^ k ∨ target m e = -1074 := by
    rcases le_or_gt ((m.log2 : ℤ) + e - 52) (-1074) with hsmall | hlarge
    · exact .inr (max_eq_right hsmall)
    · left
      have htarget : target m e = m.log2 + e - 52 := max_eq_left hlarge.le
      have hlog : m.log2 = 52 + k := by omega
      rw [Nat.le_div_iff_mul_le (Nat.two_pow_pos k), ← Nat.pow_add, ← hlog]
      exact Nat.log2_self_le hm
  have hplaces : (target m e - e).toNat = k := by omega
  rw [roundWithAccuracy_eq, hplaces, hk, roundedMantissa_shiftRight]
  have hlow := le_roundQuotient .even m (2 ^ k)
  have hhigh := roundQuotient_mul_lt m k
  generalize roundQuotient .even m (2 ^ k) = r at hlow hhigh ⊢
  have hr : r ≤ 2 ^ 53 := by
    have hm' : m < 2 ^ 53 * 2 ^ k := by
      calc m < 2 ^ (m.log2 + 1) := Nat.lt_log2_self
        _ ≤ 2 ^ (53 + k) := Nat.pow_le_pow_right (by decide) (by omega)
        _ = 2 ^ 53 * 2 ^ k := Nat.pow_add 2 53 k
    have hless : r * 2 ^ k < (2 ^ 53 + 1) * 2 ^ k := by
      rw [Nat.add_mul]
      omega
    exact Nat.le_of_lt_succ (Nat.lt_of_mul_lt_mul_right hless)
  obtain ⟨hcanonical, hvalue⟩ := settled_eq s hr hleast (hbits.imp_left (·.trans hlow))
  exact ⟨hcanonical, hvalue, hbits⟩

/-- Rounding a mantissa whose exponent is not too large. -/
theorem roundedFrom_roundWithAccuracy (s : Sign) {m : ℕ} {e : ℤ} (hm : m ≠ 0)
    (he : e ≤ target m e) :
    RoundedFrom (s.apply m * (2 : ℚ) ^ e)
      (UnpackedFloat.roundWithAccuracy .binary64 s m e .exact) := by
  obtain ⟨k, hk⟩ := Int.eq_ofNat_of_zero_le (sub_nonneg.mpr he)
  have hplaces : e + k = target m e := by omega
  obtain ⟨hcanonical, hvalue, hbits⟩ := canonical_roundWithAccuracy s hm hplaces
  refine ⟨hcanonical, _, hvalue, ?_⟩
  have hrounds := rounds_apply
    (rounds_of_quotient (le_roundQuotient .even m (2 ^ k)) (roundQuotient_mul_lt m k) hbits) s
  have hback : target m e - k = e := by omega
  rw [hback] at hrounds
  rw [apply_mul, apply_mul s (roundQuotient .even m (2 ^ k))]
  exact_mod_cast hrounds

theorem log2_shiftLeft {m : ℕ} (hm : m ≠ 0) (k : ℕ) : (m <<< k).log2 = m.log2 + k := by
  have hunit : 0 < 2 ^ k := Nat.two_pow_pos k
  have hlow := Nat.log2_self_le hm
  have hhigh : m < 2 ^ (m.log2 + 1) := Nat.lt_log2_self
  rw [Nat.shiftLeft_eq, Nat.log2_eq_iff (Nat.mul_ne_zero hm hunit.ne')]
  constructor
  · rw [Nat.pow_add]
    exact Nat.mul_le_mul_right _ hlow
  · rw [Nat.add_right_comm, Nat.pow_add]
    exact Nat.mul_lt_mul_of_pos_right hhigh hunit

/-- Rounding a number, whatever its exponent. -/
theorem roundedFrom_round (s : Sign) {m : ℕ} (hm : m ≠ 0) (e : ℤ) :
    RoundedFrom (s.apply m * (2 : ℚ) ^ e) (UnpackedFloat.round .binary64 s m e) := by
  unfold UnpackedFloat.round UnpackedFloat.decreaseExponent
  rw [targetExponent_eq]
  show RoundedFrom _ (UnpackedFloat.roundWithAccuracy .binary64 s
    (m <<< (e - target m e).toNat) (e - (e - target m e).toNat) .exact)
  generalize hk : (e - target m e).toNat = k
  have hne : m <<< k ≠ 0 := by
    rw [Nat.shiftLeft_eq]
    exact Nat.mul_ne_zero hm (Nat.two_pow_pos k).ne'
  have hexponent : e - k ≤ target (m <<< k) (e - k) := by
    have : e - target m e ≤ k := by omega
    have hlog := log2_shiftLeft hm k
    unfold target at this ⊢
    omega
  have hvalue : (s.apply m : ℚ) * 2 ^ e = s.apply (m <<< k : ℕ) * (2 : ℚ) ^ (e - k) := by
    have he : (2 : ℚ) ^ e = 2 ^ k * 2 ^ (e - k) := by
      rw [← zpow_natCast, ← zpow_add₀ (by norm_num)]
      congr 1
      omega
    rw [apply_mul, apply_mul s (m <<< k : ℕ), he, Nat.shiftLeft_eq]
    push_cast
    ring
  rw [hvalue]
  exact roundedFrom_roundWithAccuracy s hne hexponent

theorem roundedFrom_normalize (n : ℤ) (e : ℤ) (s : Sign) :
    RoundedFrom (n * (2 : ℚ) ^ e) (UnpackedFloat.normalize .binary64 n e s) := by
  unfold UnpackedFloat.normalize
  split
  · rename_i h
    have hneg : n < 0 := Int.compare_eq_lt.mp h
    have hround := roundedFrom_round .negative (m := (-n).toNat) (by omega) e
    have hback : Sign.negative.apply ((-n).toNat : ℤ) = n := by
      show -((-n).toNat : ℤ) = n
      omega
    rwa [hback] at hround
  · rename_i h
    have hzero : n = 0 := Int.compare_eq_eq.mp h
    subst hzero
    exact ⟨trivial, 0, rfl, by simpa using Rounds.refl 0⟩
  · rename_i h
    have hpos : 0 < n := Int.compare_eq_gt.mp h
    have hround := roundedFrom_round .positive (m := n.toNat) (by omega) e
    have hback : Sign.positive.apply (n.toNat : ℤ) = n := by
      show (n.toNat : ℤ) = n
      omega
    rwa [hback] at hround

/-- The double of a result that is a number rounded is that number rounded. -/
theorem RoundedFrom.rounds_of_pack {u : UnpackedFloat} {q z : ℚ} (h : RoundedFrom q u)
    (hz : value? (Float.Model.pack u).unpack = some z) : Rounds q z := by
  obtain ⟨z', hz', hrounds⟩ := h.value
  have hsame := value?_pack h.canonical hz
  rw [hz'] at hsame
  exact Option.some.inj hsame ▸ hrounds

/-- The greatest double. -/
def greatestDouble : ℚ := (2 ^ 53 - 1 : ℤ) * (2 : ℚ) ^ (971 : ℤ)

theorem grid_greatestDouble : Grid greatestDouble :=
  ⟨2 ^ 53 - 1, 971, by decide, by decide, rfl⟩

theorem greatestDouble_lt : greatestDouble < 2 ^ 52 * (2 : ℚ) ^ (972 : ℤ) := by
  have hstep : (2 : ℚ) ^ (972 : ℤ) = 2 ^ (971 : ℤ) * 2 := zpow_add_one₀ (by norm_num) 971
  have hunit : (0 : ℚ) < 2 ^ (971 : ℤ) := zpow_pos (by norm_num) _
  rw [greatestDouble, hstep]
  generalize (2 : ℚ) ^ (971 : ℤ) = unit at hunit
  push_cast
  linarith

/-- A result in the form of a double is finite if it is not beyond the greatest double. -/
theorem exists_value?_pack {u : UnpackedFloat} (h : Canonical u) {z : ℚ} (hz : value? u = some z)
    (hle : |z| ≤ greatestDouble) : value? (Float.Model.pack u).unpack = some z := by
  have hback : (Float.Model.pack u).unpack
      = UnpackedFloat.unpack .binary64 (UnpackedFloat.pack .binary64 u) := rfl
  rw [hback]
  cases u with
  | notANumber => exact h.elim
  | infinity s => exact h.elim
  | zero s =>
    rw [← hz]
    exact congrArg value? UnpackedFloat.unpack_packedZero
  | finite s m e hm =>
    rw [unpack_pack_finite s hm h, ← hz, if_pos]
    by_contra hlarge
    obtain ⟨-, -, hbits⟩ := h
    have hm52 : 2 ^ 52 ≤ m := hbits.resolve_right (by omega)
    have hsize : |z| = m * (2 : ℚ) ^ e := by
      cases hz
      rw [abs_mul, abs_of_pos (zpow_pos (by norm_num : (0 : ℚ) < 2) e)]
      cases s <;> simp [Sign.apply]
    have hpower : (2 : ℚ) ^ (972 : ℤ) ≤ 2 ^ e := zpow_le_zpow_right₀ (by norm_num) (by omega)
    have hm52' : (2 : ℚ) ^ 52 ≤ m := by exact_mod_cast hm52
    have hbeyond : (2 : ℚ) ^ 52 * 2 ^ (972 : ℤ) ≤ m * 2 ^ e :=
      mul_le_mul hm52' hpower (zpow_nonneg (by norm_num) _) (Nat.cast_nonneg m)
    exact absurd (hbeyond.trans (hsize ▸ hle)) (not_le.mpr greatestDouble_lt)

/-! ### Products and sums -/

theorem toModel_mul (x y : Float) : (x * y).toModel =
    .pack (UnpackedFloat.mul .binary64 x.toModel.unpack y.toModel.unpack) := rfl

theorem toModel_add (x y : Float) : (x + y).toModel =
    .pack (UnpackedFloat.add .binary64 x.toModel.unpack y.toModel.unpack) := rfl

/-- The bits of a product are not fewer than its exponent allows for. -/
theorem le_target_mul {m₁ m₂ : ℕ} {e₁ e₂ : ℤ} (hm₁ : 0 < m₁) (hm₂ : 0 < m₂)
    (h₁ : 2 ^ 52 ≤ m₁ ∨ e₁ = -1074) (h₂ : 2 ^ 52 ≤ m₂ ∨ e₂ = -1074) :
    e₁ + e₂ ≤ target (m₁ * m₂) (e₁ + e₂) := by
  have hlong : 2 ^ 52 ≤ m₁ * m₂ → e₁ + e₂ ≤ target (m₁ * m₂) (e₁ + e₂) := by
    intro h
    have hlog := (Nat.le_log2 (Nat.mul_pos hm₁ hm₂).ne').mpr h
    unfold target
    omega
  rcases h₁ with h₁ | h₁
  · exact hlong (h₁.trans (Nat.le_mul_of_pos_right m₁ hm₂))
  · rcases h₂ with h₂ | h₂
    · exact hlong (h₂.trans (Nat.le_mul_of_pos_left m₂ hm₁))
    · unfold target
      omega

/-- The product of two finite numbers, before it is stored. -/
theorem roundedFrom_mul {u v : UnpackedFloat} (hu : Canonical u) (hv : Canonical v) {a b : ℚ}
    (ha : value? u = some a) (hb : value? v = some b) :
    RoundedFrom (a * b) (UnpackedFloat.mul .binary64 u v) := by
  cases u with
  | notANumber => cases ha
  | infinity s => cases ha
  | zero s =>
    cases ha
    cases v <;> first | (cases hb; done) | exact ⟨trivial, 0, rfl, by simpa using Rounds.refl 0⟩
  | finite s₁ m₁ e₁ hm₁ =>
    cases v with
    | notANumber => cases hb
    | infinity s => cases hb
    | zero s =>
      cases hb
      exact ⟨trivial, 0, rfl, by simpa using Rounds.refl 0⟩
    | finite s₂ m₂ e₂ hm₂ =>
      cases ha
      cases hb
      have hround := roundedFrom_roundWithAccuracy (s₁ * s₂)
        (Nat.mul_pos hm₁ hm₂).ne' (le_target_mul hm₁ hm₂ hu.2.2 hv.2.2)
      have hsigns : ((s₁ * s₂).apply ((m₁ * m₂ : ℕ) : ℤ) : ℤ) = s₁.apply m₁ * s₂.apply m₂ := by
        push_cast
        cases s₁ <;> cases s₂
        · exact (neg_mul_neg (m₁ : ℤ) m₂).symm
        · exact (neg_mul (m₁ : ℤ) m₂).symm
        · exact (mul_neg (m₁ : ℤ) m₂).symm
        · rfl
      have hvalue : (s₁.apply m₁ : ℚ) * 2 ^ e₁ * (s₂.apply m₂ * 2 ^ e₂)
          = ((s₁ * s₂).apply ((m₁ * m₂ : ℕ) : ℤ) : ℤ) * 2 ^ (e₁ + e₂) := by
        rw [hsigns, zpow_add₀ (by norm_num)]
        push_cast
        ring
      rw [hvalue]
      exact hround

/-- A product that is not beyond the greatest double is finite. -/
theorem exists_toRat?_mul {x y : Float} {a b : ℚ} (ha : toRat? x = some a)
    (hb : toRat? y = some b) (hle : |a * b| ≤ greatestDouble) :
    ∃ z, toRat? (x * y) = some z := by
  have hround := roundedFrom_mul (canonical_unpack ha) (canonical_unpack hb)
    (toRat?_eq x ▸ ha) (toRat?_eq y ▸ hb)
  obtain ⟨z, hz, hrounds⟩ := hround.value
  have hsize : |z| ≤ greatestDouble := by
    obtain ⟨hlow, hhigh⟩ := abs_le.mp hle
    exact abs_le.mpr ⟨hrounds.low _ grid_greatestDouble.neg hlow,
      hrounds.high _ grid_greatestDouble hhigh⟩
  refine ⟨z, ?_⟩
  rw [toRat?_eq, toModel_mul]
  exact exists_value?_pack hround.canonical hz hsize

/-- The sum of two finite numbers, before it is stored. -/
theorem roundedFrom_add {u v : UnpackedFloat} (hu : Canonical u) (hv : Canonical v) {a b : ℚ}
    (ha : value? u = some a) (hb : value? v = some b) :
    RoundedFrom (a + b) (UnpackedFloat.add .binary64 u v) := by
  cases u with
  | notANumber => cases ha
  | infinity s => cases ha
  | zero s =>
    cases ha
    cases v with
    | notANumber => cases hb
    | infinity s => cases hb
    | zero s' =>
      cases hb
      have hzero : UnpackedFloat.add .binary64 (.zero s) (.zero s')
          = .zero (if s == s' then s else .positive) := by cases s <;> cases s' <;> rfl
      rw [hzero]
      exact ⟨trivial, 0, rfl, by simpa using Rounds.refl 0⟩
    | finite s' m e hm => exact ⟨hv, b, hb, by simpa using Rounds.refl b⟩
  | finite s₁ m₁ e₁ hm₁ =>
    cases v with
    | notANumber => cases hb
    | infinity s => cases hb
    | zero s =>
      cases hb
      exact ⟨hu, a, ha, by simpa using Rounds.refl a⟩
    | finite s₂ m₂ e₂ hm₂ =>
      cases ha
      cases hb
      have hround := roundedFrom_normalize
        (s₁.apply (m₁ <<< (e₁ - min e₁ e₂).toNat : ℕ)
          + s₂.apply (m₂ <<< (e₂ - min e₁ e₂).toNat : ℕ)) (min e₁ e₂) .positive
      -- both numbers over the smaller of the two units
      have hshift : ∀ (s : Sign) (m : ℕ) (e f : ℤ), f ≤ e →
          (s.apply m : ℚ) * 2 ^ e = s.apply (m <<< (e - f).toNat : ℕ) * 2 ^ f := by
        intro s m e f hf
        have he : (2 : ℚ) ^ e = 2 ^ (e - f).toNat * 2 ^ f := by
          rw [← zpow_natCast, ← zpow_add₀ (by norm_num)]
          congr 1
          omega
        rw [apply_mul, apply_mul s (m <<< (e - f).toNat : ℕ), he, Nat.shiftLeft_eq]
        push_cast
        ring
      rw [hshift s₁ m₁ e₁ _ (min_le_left e₁ e₂), hshift s₂ m₂ e₂ _ (min_le_right e₁ e₂), ← add_mul]
      exact_mod_cast hround

theorem value?_add_eq_none {u v : UnpackedFloat} (h : value? u = none ∨ value? v = none) :
    value? (UnpackedFloat.add .binary64 u v) = none := by
  cases u with
  | notANumber => cases v <;> rfl
  | infinity s =>
    cases v with
    | infinity s' => cases s <;> cases s' <;> rfl
    | _ => rfl
  | zero s =>
    cases v with
    | notANumber => rfl
    | infinity s' => rfl
    | _ => rcases h with h | h <;> cases h
  | finite s m e hm =>
    cases v with
    | notANumber => rfl
    | infinity s' => rfl
    | _ => rcases h with h | h <;> cases h

theorem value?_mul_eq_none {u v : UnpackedFloat} (h : value? u = none ∨ value? v = none) :
    value? (UnpackedFloat.mul .binary64 u v) = none := by
  cases u with
  | notANumber => cases v <;> rfl
  | infinity s => cases v <;> rfl
  | zero s =>
    cases v with
    | notANumber => rfl
    | infinity s' => rfl
    | _ => rcases h with h | h <;> cases h
  | finite s m e hm =>
    cases v with
    | notANumber => rfl
    | infinity s' => rfl
    | _ => rcases h with h | h <;> cases h

/-- An operation that gives no number where an argument is none gives a number only of two. -/
theorem exists_of_value?_pack {u v w : UnpackedFloat} {z : ℚ}
    (hnone : value? u = none ∨ value? v = none → value? w = none)
    (hz : value? (Float.Model.pack w).unpack = some z) :
    (∃ a, value? u = some a) ∧ ∃ b, value? v = some b := by
  have hboth : ¬(value? u = none ∨ value? v = none) := by
    intro h
    rw [value?_pack_eq_none (hnone h)] at hz
    cases hz
  rw [not_or] at hboth
  exact ⟨Option.ne_none_iff_exists'.mp hboth.1, Option.ne_none_iff_exists'.mp hboth.2⟩

/-- A finite product is the product of two finite numbers, rounded. -/
theorem rounds_mul {x y : Float} {z : ℚ} (hz : toRat? (x * y) = some z) :
    ∃ a b, toRat? x = some a ∧ toRat? y = some b ∧ Rounds (a * b) z := by
  rw [toRat?_eq, toModel_mul] at hz
  obtain ⟨⟨a, ha⟩, b, hb⟩ := exists_of_value?_pack value?_mul_eq_none hz
  rw [← toRat?_eq] at ha hb
  have hround := roundedFrom_mul (canonical_unpack ha) (canonical_unpack hb)
    (toRat?_eq x ▸ ha) (toRat?_eq y ▸ hb)
  exact ⟨a, b, ha, hb, hround.rounds_of_pack hz⟩

/-- A finite sum is the sum of two finite numbers, rounded. -/
theorem rounds_add {x y : Float} {z : ℚ} (hz : toRat? (x + y) = some z) :
    ∃ a b, toRat? x = some a ∧ toRat? y = some b ∧ Rounds (a + b) z := by
  rw [toRat?_eq, toModel_add] at hz
  obtain ⟨⟨a, ha⟩, b, hb⟩ := exists_of_value?_pack value?_add_eq_none hz
  rw [← toRat?_eq] at ha hb
  have hround := roundedFrom_add (canonical_unpack ha) (canonical_unpack hb)
    (toRat?_eq x ▸ ha) (toRat?_eq y ▸ hb)
  exact ⟨a, b, ha, hb, hround.rounds_of_pack hz⟩

/-! ### Signs of results -/

theorem leansDown_roundWithAccuracy (s : Sign) (m : ℕ) (e : ℤ) (a : UnpackedFloat.Accuracy) :
    leansDown (UnpackedFloat.roundWithAccuracy .binary64 s m e a) = (s == .negative) := by
  unfold UnpackedFloat.roundWithAccuracy
  dsimp only
  split <;> rfl

/-- A product of numbers that are not negative is not. -/
theorem isNegative_mul {x y : Float} (hx : isNegative x = false) (hy : isNegative y = false) :
    isNegative (x * y) = false := by
  rw [isNegative_eq] at hx hy
  rw [isNegative_eq, toModel_mul, leansDown_pack]
  cases hu : x.toModel.unpack with
  | notANumber => cases y.toModel.unpack <;> rfl
  | infinity s | zero s | finite s m e hm =>
    rw [hu] at hx
    obtain rfl := eq_positive hx
    cases hv : y.toModel.unpack with
    | notANumber => rfl
    | infinity t | zero t | finite t n f hn =>
      rw [hv] at hy
      obtain rfl := eq_positive hy
      first | rfl | exact leansDown_roundWithAccuracy _ _ _ _

/-- A quotient of numbers that are not negative is not. -/
theorem isNegative_div {x y : Float} (hx : isNegative x = false) (hy : isNegative y = false) :
    isNegative (x / y) = false := by
  have hquotient : (x / y).toModel =
      .pack (UnpackedFloat.div .binary64 x.toModel.unpack y.toModel.unpack) := rfl
  rw [isNegative_eq] at hx hy
  rw [isNegative_eq, hquotient, leansDown_pack]
  cases hu : x.toModel.unpack with
  | notANumber => cases y.toModel.unpack <;> rfl
  | infinity s | zero s | finite s m e hm =>
    rw [hu] at hx
    obtain rfl := eq_positive hx
    cases hv : y.toModel.unpack with
    | notANumber => rfl
    | infinity t | zero t | finite t n f hn =>
      rw [hv] at hy
      obtain rfl := eq_positive hy
      first | rfl | exact leansDown_roundWithAccuracy _ _ _ _

end Handheld.Number
