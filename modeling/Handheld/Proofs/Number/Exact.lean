import Handheld.Proofs.Number.Rounding
import Handheld.Proofs.Number.Whole

/-!
# Which number the double of a whole number is

Below `2 ^ 53` the double of a whole number is the number, with either sign. Beyond it is the
number rounded to 53 bits, and greater numbers are not rounded to smaller ones.

* `toRat?_ofWhole`, `toRat?_ofWhole_negative`: the number that the double stands for;
* `toRat?_ofWhole_of_lt`: small numbers are exact;
* `toRat?_ofWhole_mono`: rounding keeps the order;
* `isNegative_ofWhole`: no sign comes from nowhere;
* `floor?_eq`, `exists_toRat?_floorFloat`: floors are whole numbers.
-/

namespace Handheld.Number

/-! ### Numbers that are not negative -/

theorem bitsOf_le (n : ℕ) : bitsOf n ≤ 2 ^ 53 := by
  rcases Nat.lt_or_ge n (2 ^ 53) with hn | hn
  · exact (bitsOf_lt hn).le
  · have hne : n ≠ 0 := by omega
    have hlog : 53 ≤ n.log2 := (Nat.le_log2 hne).mpr hn
    rw [bitsOf, if_neg (by omega)]
    refine (roundQuotient_le_succ _ _ _).trans (Nat.succ_le_of_lt ?_)
    rw [Nat.div_lt_iff_lt_mul (Nat.two_pow_pos _), ← Nat.pow_add]
    calc n < 2 ^ (n.log2 + 1) := Nat.lt_log2_self
      _ = 2 ^ (53 + (n.log2 - 52)) := by congr 1; omega

theorem toRat_positive (m : ℕ) (e : ℤ) : Dyadic.toRat ⟨false, m, e⟩ = m * (2 : ℚ) ^ e := rfl

/-- The double of a whole number stands for its 53 bits at the exponent of its size. -/
theorem toRat?_ofWhole {n : ℕ} (hn : n ≠ 0) (hlog : n.log2 ≤ 1022) :
    toRat? (ofWhole n) = some (bitsOf n * (2 : ℚ) ^ ((n.log2 : ℤ) - 52)) := by
  have hlow := le_bitsOf hn
  have hhigh := bitsOf_le n
  unfold toRat?
  rw [parts_ofWhole hn, Nat.min_eq_left (by omega), decode_of_finite (by omega) (by omega)]
  show some (Dyadic.toRat ⟨false, ((n.log2 + 1022) * 2 ^ 52 + bitsOf n) % 2 ^ 52 + 2 ^ 52,
    (((n.log2 + 1022) * 2 ^ 52 + bitsOf n) / 2 ^ 52 : ℕ) - 1075⟩) = _
  rw [toRat_positive]
  rcases hhigh.lt_or_eq with hlt | heq
  · have hmantissa : ((n.log2 + 1022) * 2 ^ 52 + bitsOf n) % 2 ^ 52 + 2 ^ 52 = bitsOf n := by omega
    have hexponent : ((((n.log2 + 1022) * 2 ^ 52 + bitsOf n) / 2 ^ 52 : ℕ) - 1075 : ℤ)
        = (n.log2 : ℤ) - 52 := by omega
    rw [hmantissa, hexponent]
  · -- one bit too many: the carry lands on the next exponent
    rw [heq]
    have hmantissa : ((n.log2 + 1022) * 2 ^ 52 + 2 ^ 53) % 2 ^ 52 + 2 ^ 52 = 2 ^ 52 := by omega
    have hexponent : ((((n.log2 + 1022) * 2 ^ 52 + 2 ^ 53) / 2 ^ 52 : ℕ) - 1075 : ℤ)
        = (n.log2 : ℤ) - 52 + 1 := by omega
    rw [hmantissa, hexponent, zpow_add_one₀ (by norm_num)]
    congr 1
    push_cast
    ring

/-- Rounding a quotient keeps the order of its numerators. -/
theorem roundQuotient_mono (tie : Tie) {a b : ℕ} (hab : a ≤ b) (den : ℕ) :
    roundQuotient tie a den ≤ roundQuotient tie b den := by
  rcases Nat.lt_or_ge (a / den) (b / den) with hlt | hge
  · exact (roundQuotient_le_succ tie a den).trans
      ((Nat.succ_le_of_lt hlt).trans (le_roundQuotient tie b den))
  · have hquotient : a / den = b / den := Nat.le_antisymm (Nat.div_le_div_right hab) hge
    have hrest : a % den ≤ b % den := by
      have ha := Nat.div_add_mod a den
      have hb := Nat.div_add_mod b den
      rw [hquotient] at ha
      omega
    unfold roundQuotient
    rw [hquotient]
    cases tie <;> dsimp only <;> split_ifs <;> omega

/-- The doubles of whole numbers are in the order of the numbers. -/
theorem toRat?_ofWhole_mono {a b : ℕ} (ha : a ≠ 0) (hab : a ≤ b) (hlog : b.log2 ≤ 1022) {p q : ℚ}
    (hp : toRat? (ofWhole a) = some p) (hq : toRat? (ofWhole b) = some q) : p ≤ q := by
  have hb : b ≠ 0 := by omega
  have hlogs : a.log2 ≤ b.log2 := (Nat.le_log2 hb).mpr ((Nat.log2_self_le ha).trans hab)
  rw [toRat?_ofWhole ha (hlogs.trans hlog)] at hp
  rw [toRat?_ofWhole hb hlog] at hq
  cases hp
  cases hq
  rcases hlogs.lt_or_eq with hlt | heq
  · have hle : ((bitsOf a : ℕ) : ℚ) ≤ 2 * (bitsOf b : ℕ) := by
      have hhigh := bitsOf_le a
      have hlow := le_bitsOf hb
      exact_mod_cast (by omega : bitsOf a ≤ 2 * bitsOf b)
    have hunit : (2 : ℚ) * 2 ^ ((a.log2 : ℤ) - 52) ≤ 2 ^ ((b.log2 : ℤ) - 52) := by
      rw [← zpow_one_add₀ (by norm_num)]
      exact zpow_le_zpow_right₀ (by norm_num) (by omega)
    have hunit_nonneg : (0 : ℚ) ≤ 2 ^ ((a.log2 : ℤ) - 52) := zpow_nonneg (by norm_num) _
    calc (bitsOf a : ℚ) * 2 ^ ((a.log2 : ℤ) - 52)
        ≤ 2 * bitsOf b * 2 ^ ((a.log2 : ℤ) - 52) := mul_le_mul_of_nonneg_right hle hunit_nonneg
      _ = bitsOf b * (2 * 2 ^ ((a.log2 : ℤ) - 52)) := by ring
      _ ≤ bitsOf b * 2 ^ ((b.log2 : ℤ) - 52) := mul_le_mul_of_nonneg_left hunit (Nat.cast_nonneg _)
  · have hbits : bitsOf a ≤ bitsOf b := by
      unfold bitsOf
      rw [heq]
      split
      · exact Nat.mul_le_mul_right _ hab
      · exact roundQuotient_mono _ hab _
    rw [heq]
    exact mul_le_mul_of_nonneg_right (Nat.cast_le.mpr hbits) (zpow_nonneg (by norm_num) _)

/-- The pattern of a number that is not negative has no sign. -/
theorem isNegative_decode {p : ℕ} (hp : p ≤ 2047 * 2 ^ 52) :
    (match Parts.decode .double p with
      | .finite d => d.negative
      | .infinite negative => negative
      | .nan => false) = false := by
  have hsign : p / 2 ^ 63 = 0 := by omega
  rw [decode_double, hsign]
  split
  · rename_i hparts
    split at hparts
    · split at hparts <;> cases hparts
    · split at hparts <;> cases hparts <;> rfl
  · rename_i hparts
    split at hparts
    · split at hparts <;> cases hparts
      rfl
    · split at hparts <;> cases hparts
  · rfl

theorem isNegative_ofWhole (n : ℕ) : isNegative (ofWhole n) = false := by
  rcases Nat.eq_zero_or_pos n with rfl | hpos
  · decide +kernel
  · unfold isNegative
    rw [parts_ofWhole hpos.ne']
    exact isNegative_decode (Nat.min_le_right _ _)

/-! ### Numbers of either sign -/

theorem encode_negative (m : ℕ) (e : ℤ) :
    Width.double.encode ⟨true, m, e⟩ = 2 ^ 63 + Width.double.encode ⟨false, m, e⟩ := by
  have hsign : Nat.pow 2 (Width.double.fraction + Width.double.exponent) = 2 ^ 63 := by decide
  unfold Width.encode
  simp only [hsign, if_true, Bool.false_eq_true, if_false, Nat.zero_add]
  split
  · rw [Nat.add_zero]
  · rfl

theorem decode_negative {p : ℕ} (hp : p < 2 ^ 63) {d : Dyadic}
    (hd : Parts.decode .double p = .finite d) :
    Parts.decode .double (2 ^ 63 + p) = .finite { d with negative := true } := by
  have hfraction : (2 ^ 63 + p) % 2 ^ 52 = p % 2 ^ 52 := by omega
  have hfield : (2 ^ 63 + p) / 2 ^ 52 % 2 ^ 11 = p / 2 ^ 52 % 2 ^ 11 := by omega
  have hsign : (2 ^ 63 + p) / 2 ^ 63 % 2 = 1 := by omega
  rw [decode_double] at hd ⊢
  rw [hfraction, hfield, hsign]
  split at hd
  · split at hd <;> cases hd
  · split at hd <;>
      (rename_i hfull hempty
       cases hd
       rw [if_neg hfull])
    · rw [if_pos hempty]
      rfl
    · rw [if_neg hempty]
      rfl

theorem toRat_negative (m : ℕ) (e : ℤ) :
    Dyadic.toRat ⟨true, m, e⟩ = -Dyadic.toRat ⟨false, m, e⟩ := by
  simp [Dyadic.toRat, Dyadic.signedMantissa]

/-- The double of a negative whole number stands for the negated number. -/
theorem toRat?_ofWhole_negative {n : ℕ} (hn : n ≠ 0) (hlog : n.log2 ≤ 1022) :
    toRat? (ofWhole (-n)) = (toRat? (ofWhole n)).map (-·) := by
  have hlow := le_bitsOf hn
  have hhigh := bitsOf_le n
  have hnegative : decide (-(n : ℤ) < 0) = true := decide_eq_true (by omega)
  have hpositive := parts_ofWhole hn
  have hencode : ofWhole (-n) = .ofBits (UInt64.ofNat
      (2 ^ 63 + min ((n.log2 + 1022) * 2 ^ 52 + bitsOf n) (2047 * 2 ^ 52))) := by
    unfold ofWhole
    rw [hnegative, Int.natAbs_neg, Int.natAbs_natCast, encode_negative, encode_whole hn]
  obtain ⟨p, hp⟩ : ∃ p, p = (n.log2 + 1022) * 2 ^ 52 + bitsOf n := ⟨_, rfl⟩
  rw [← hp] at hpositive hencode
  have hfits : p < 2047 * 2 ^ 52 := by omega
  have hnormal : 2 ^ 52 ≤ p := by omega
  rw [Nat.min_eq_left hfits.le] at hpositive hencode
  have hnegated : Parts.ofFloat (ofWhole (-n))
      = .finite ⟨true, p % 2 ^ 52 + 2 ^ 52, (p / 2 ^ 52 : ℕ) - 1075⟩ := by
    rw [hencode, Parts.ofFloat, toNat_toBits_ofBits_of_lt (by omega) (by omega)]
    exact decode_negative (by omega) (decode_of_finite hnormal hfits)
  unfold toRat?
  rw [hnegated, hpositive, decode_of_finite hnormal hfits]
  exact congrArg some (toRat_negative _ _)

/-- Below `2 ^ 53` the double of a whole number stands for it. -/
theorem toRat?_ofWhole_of_lt {n : ℤ} (hn : n.natAbs < 2 ^ 53) :
    toRat? (ofWhole n) = some (n : ℚ) := by
  have hnat : ∀ m : ℕ, m < 2 ^ 53 → m ≠ 0 → toRat? (ofWhole m) = some (m : ℚ) := by
    intro m hm hne
    have hlog : m.log2 ≤ 52 := Nat.le_of_lt_succ ((Nat.log2_lt hne).mpr hm)
    rw [toRat?_ofWhole hne (by omega), bitsOf, if_pos hlog]
    congr 1
    have hunit : (2 : ℚ) ^ (52 - m.log2) * 2 ^ ((m.log2 : ℤ) - 52) = 1 := by
      rw [← zpow_natCast, ← zpow_add₀ (by norm_num), Nat.cast_sub hlog]
      norm_num
    push_cast
    rw [mul_assoc, hunit, mul_one]
  rcases Int.lt_trichotomy n 0 with hneg | rfl | hpos
  · obtain ⟨m, rfl⟩ : ∃ m : ℕ, n = -m := ⟨n.natAbs, by omega⟩
    have hm : m < 2 ^ 53 := by omega
    have hne : m ≠ 0 := by omega
    have hlog : m.log2 ≤ 52 := Nat.le_of_lt_succ ((Nat.log2_lt hne).mpr hm)
    rw [toRat?_ofWhole_negative hne (by omega), hnat m hm hne]
    simp
  · decide +kernel
  · obtain ⟨m, rfl⟩ := Int.eq_ofNat_of_zero_le hpos.le
    exact_mod_cast hnat m (by omega) (by omega)

/-! ### Floors -/

/-- The floor of a double is the floor of the number that it stands for. -/
theorem floor?_eq (x : Float) : floor? x = (toRat? x).map Int.floor := by
  unfold floor? toRat?
  cases Parts.ofFloat x with
  | finite d => exact congrArg some d.floor_eq
  | infinite s => rfl
  | nan => rfl

/-- A number of the grid that is not whole is small, and so is its floor. -/
theorem natAbs_floor_lt {q : ℚ} (hgrid : Grid q) (hwhole : ¬∃ n : ℤ, q = n) :
    ⌊q⌋.natAbs < 2 ^ 53 := by
  obtain ⟨n, e, hn, -, rfl⟩ := hgrid
  have he : e < 0 := by
    by_contra hpos
    obtain ⟨k, rfl⟩ := Int.eq_ofNat_of_zero_le (not_lt.mp hpos)
    exact hwhole ⟨n * 2 ^ k, by push_cast; rfl⟩
  have hunit_pos : (0 : ℚ) < 2 ^ e := zpow_pos (by norm_num) e
  have hunit : (2 : ℚ) ^ e ≤ 2 ^ (-1 : ℤ) := zpow_le_zpow_right₀ (by norm_num) (by omega)
  have hhalf : (2 : ℚ) ^ (-1 : ℤ) = 1 / 2 := by norm_num
  rw [hhalf] at hunit
  have hlow : (-2 ^ 53 : ℚ) < n := by exact_mod_cast (by omega : (-2 ^ 53 : ℤ) < n)
  have hhigh : (n : ℚ) < 2 ^ 53 := by exact_mod_cast (by omega : n < 2 ^ 53)
  have hlow' : (-2 ^ 52 : ℚ) ≤ n * 2 ^ e := by nlinarith
  have hhigh' : n * (2 : ℚ) ^ e < 2 ^ 52 := by nlinarith
  have hfloor_low : -2 ^ 52 ≤ ⌊n * (2 : ℚ) ^ e⌋ := Int.le_floor.mpr (by exact_mod_cast hlow')
  have hfloor_high : ⌊n * (2 : ℚ) ^ e⌋ < 2 ^ 52 := Int.floor_lt.mpr (by exact_mod_cast hhigh')
  omega

/-- A floor that is finite is a whole number. -/
theorem exists_toRat?_floorFloat {x : Float} {q : ℚ} (h : toRat? (floorFloat x) = some q) :
    ∃ n : ℤ, q = n := by
  unfold floorFloat at h
  cases hx : Parts.ofFloat x with
  | infinite s => rw [hx] at h; simp [toRat?, hx] at h
  | nan => rw [hx] at h; simp [toRat?, hx] at h
  | finite d =>
    rw [hx] at h
    dsimp only at h
    by_cases hwhole : d.isWhole = true
    · rw [if_pos hwhole] at h
      have hq : q = d.toRat := by
        simp only [toRat?, hx] at h
        exact (Option.some.inj h).symm
      obtain ⟨n, hn⟩ := d.isWhole_iff.mp hwhole
      exact ⟨n, hq.trans hn⟩
    · have hgrid : Grid d.toRat := grid_of_toRat? (x := x) (by simp only [toRat?, hx])
      have hsmall := natAbs_floor_lt hgrid (mt d.isWhole_iff.mpr hwhole)
      rw [if_neg hwhole, d.floor_eq, toRat?_ofWhole_of_lt hsmall] at h
      exact ⟨_, (Option.some.inj h).symm⟩

end Handheld.Number
