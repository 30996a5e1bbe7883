import Handheld.Json.Decimal
import Handheld.Proofs.Number.Exact
import Handheld.Proofs.Number.Shortest

/-!
# Collecting and scaling significands

The digits of a decimal are collected into one register and the double of the register is scaled
by a power of ten. A negative power never fails. A positive one fails if the product is infinite,
which a decimal next to a finite double is too small for, the greatest double apart: there the
two roundings of the register and of the power would have to be looked at for the number itself.

* `foldl_pushWhole_exact`, `foldl_pushWhole_bounds`, `exists_foldl_pushFraction`: what the
  registers hold after digits before the point and after it;
* `exists_powerOfTen`: the doubles of the powers of ten, a table and then rounded mantissas;
* `greatestDecimal`, `isFinite_mul_powerOfTen`: the bound below which no product is infinite;
* `isSome_scaled?`, `isSome_scaled?_of_le`: where scaling does not fail;
* `isNegative_scaleFloat?`: scaling keeps the sign.
-/

namespace Handheld.Json

open Float.Model (Format UnpackedFloat)
open Handheld.Number (greatestRegister isFinite isNegative toRat? ofWhole)

/-! ### Registers -/

/-- Digits behind a number. -/
def behind (n : ℕ) (digits : List ℕ) : ℕ := digits.foldl (fun n d => n * 10 + d) n

@[simp] theorem behind_cons (n d : ℕ) (digits : List ℕ) :
    behind n (d :: digits) = behind (n * 10 + d) digits := rfl

theorem mul_pow_le_behind (n : ℕ) (digits : List ℕ) :
    n * 10 ^ digits.length ≤ behind n digits := by
  induction digits generalizing n with
  | nil => simp [behind]
  | cons d ds ih =>
    rw [behind_cons, List.length_cons, pow_succ', ← mul_assoc]
    exact (Nat.mul_le_mul_right _ (Nat.le_add_right _ _)).trans (ih _)

theorem le_behind (n : ℕ) (digits : List ℕ) : n ≤ behind n digits :=
  (Nat.le_mul_of_pos_right n (Nat.pow_pos (by decide))).trans (mul_pow_le_behind n digits)

/-- Digits whose number fits the register are collected to it. -/
theorem foldl_pushWhole_exact {n : ℕ} {digits : List ℕ} (h : behind n digits ≤ greatestRegister) :
    digits.foldl Significand.pushWhole ⟨n, 0, false⟩ = ⟨behind n digits, 0, false⟩ := by
  induction digits generalizing n with
  | nil => rfl
  | cons d ds ih =>
    have hfits : ¬greatestRegister < n * 10 + d :=
      Nat.not_lt.mpr ((le_behind (n * 10 + d) ds).trans h)
    rw [List.foldl_cons, Significand.pushWhole, if_neg (by simpa using hfits), behind_cons]
    exact ih h

/-- A digit before the point moves the result by one place at most. -/
theorem pushWhole_bounds {s : Significand} (hs : s.value ≤ greatestRegister) (d : ℕ) :
    (s.pushWhole d).value ≤ greatestRegister ∧ (s.pushWhole d).shift ≤ s.shift + 1 := by
  unfold Significand.pushWhole
  split
  · exact ⟨hs, le_rfl⟩
  · rename_i hfits
    exact ⟨Nat.not_lt.mp fun h => hfits (.inr h), by dsimp only; omega⟩

theorem foldl_pushWhole_bounds (digits : List ℕ) {s : Significand}
    (hs : s.value ≤ greatestRegister) :
    (digits.foldl Significand.pushWhole s).value ≤ greatestRegister ∧
      (digits.foldl Significand.pushWhole s).shift ≤ s.shift + digits.length := by
  induction digits generalizing s with
  | nil => exact ⟨hs, by simp⟩
  | cons d ds ih =>
    obtain ⟨hvalue, hshift⟩ := pushWhole_bounds hs d
    obtain ⟨hvalue', hshift'⟩ := ih hvalue
    refine ⟨hvalue', ?_⟩
    rw [List.foldl_cons, List.length_cons]
    push_cast
    omega

/-- Of the digits after the point those at the front are collected. -/
theorem exists_foldl_pushFraction (digits : List ℕ) (s : Significand) :
    ∃ j ≤ digits.length,
      (digits.foldl Significand.pushFraction s).shift = s.shift - j ∧
      (digits.foldl Significand.pushFraction s).value * 10 ^ (digits.length - j)
        ≤ behind s.value digits ∧
      (s.value ≤ greatestRegister →
        (digits.foldl Significand.pushFraction s).value ≤ greatestRegister) := by
  induction digits generalizing s with
  | nil => exact ⟨0, le_rfl, by simp, by simp [behind], id⟩
  | cons d ds ih =>
    rw [List.foldl_cons, behind_cons, List.length_cons]
    by_cases hfull : s.full = true ∨ greatestRegister < s.value * 10 + d
    · -- the digit is dropped, and so are all that follow
      have hclosed : ∀ (ds : List ℕ) (t : Significand), t.full = true →
          ds.foldl Significand.pushFraction t = t := by
        intro ds
        induction ds with
        | nil => intro t _; rfl
        | cons e es ih' =>
          intro t ht
          have hsame : t.pushFraction e = t := by
            rw [Significand.pushFraction, if_pos (.inl ht), ← ht]
          rw [List.foldl_cons, hsame]
          exact ih' t ht
      have hpush : s.pushFraction d = { s with full := true } := if_pos hfull
      rw [hpush, hclosed ds _ rfl]
      refine ⟨0, Nat.zero_le _, by simp, ?_, id⟩
      rw [Nat.sub_zero, pow_succ', ← mul_assoc]
      exact (Nat.mul_le_mul_right _ (Nat.le_add_right _ _)).trans (mul_pow_le_behind _ ds)
    · have hpush : s.pushFraction d
          = { s with value := s.value * 10 + d, shift := s.shift - 1 } := if_neg hfull
      obtain ⟨j, hj, hshift, hvalue, hregister⟩ :=
        ih { s with value := s.value * 10 + d, shift := s.shift - 1 }
      rw [hpush]
      refine ⟨j + 1, by omega, ?_, ?_, fun _ => hregister ?_⟩
      · rw [hshift]
        push_cast
        omega
      · rw [Nat.add_sub_add_right]
        exact hvalue
      · exact Nat.not_lt.mp fun h => hfull (.inr h)

/-! ### Products with powers of ten -/

/-- The greatest decimal that is next to a double below the greatest one. -/
def greatestDecimal : ℕ := (2 ^ 54 - 3) * 2 ^ 970

/-- The greatest register with which a power of ten is not beyond that decimal. -/
def greatestFactor (e : ℕ) : ℕ := min greatestRegister (greatestDecimal / 10 ^ e)

/-- The powers of ten beyond the table are beyond that decimal. -/
theorem greatestDecimal_lt {k : ℕ} (hk : 308 < k) : greatestDecimal < 10 ^ k := by
  obtain ⟨j, rfl⟩ := Nat.exists_eq_add_of_lt hk
  have htable : greatestDecimal < 10 ^ 308 * 10 := by decide +kernel
  calc greatestDecimal < 10 ^ 308 * 10 := htable
    _ ≤ 10 ^ 308 * (10 ^ j * 10) :=
      Nat.mul_le_mul_left _ (Nat.le_mul_of_pos_left 10 (Nat.pow_pos (by decide)))
    _ = 10 ^ (308 + j + 1) := by rw [Nat.add_assoc, Nat.pow_add 10 308 (j + 1), Nat.pow_succ 10 j]

/-- Whether the double of a register and `m * 2 ^ x` have a product that is not beyond the
greatest double. -/
def productFits (n m : ℕ) (x : ℤ) : Bool :=
  let place : ℤ := (n.log2 : ℤ) - 52 + x - 971
  Handheld.Number.bitsOf n * m * 2 ^ place.toNat ≤ (2 ^ 53 - 1) * 2 ^ (-place).toNat

theorem le_of_productFits {n m : ℕ} {x : ℤ} (h : productFits n m x = true) :
    Handheld.Number.bitsOf n * (2 : ℚ) ^ ((n.log2 : ℤ) - 52) * (m * 2 ^ x)
      ≤ Handheld.Number.greatestDouble := by
  -- both sides over the unit of the greatest double
  obtain ⟨place, hplace⟩ : ∃ place, place = (n.log2 : ℤ) - 52 + x - 971 := ⟨_, rfl⟩
  have hle := of_decide_eq_true h
  rw [← hplace] at hle
  have htwo := Handheld.Number.zpow_eq_toNat (b := (2 : ℚ)) (by norm_num) place
  have hfine : (0 : ℚ) < 2 ^ (-place).toNat := by positivity
  have hcast : ((Handheld.Number.bitsOf n * m : ℕ) : ℚ) * 2 ^ place.toNat
      ≤ (2 ^ 53 - 1 : ℤ) * 2 ^ (-place).toNat := by
    have hcast : ((Handheld.Number.bitsOf n * m * 2 ^ place.toNat : ℕ) : ℚ)
        ≤ (((2 ^ 53 - 1) * 2 ^ (-place).toNat : ℕ) : ℚ) := Nat.cast_le.mpr hle
    push_cast at hcast ⊢
    exact hcast
  rw [← htwo, ← mul_assoc, mul_le_mul_iff_of_pos_right hfine] at hcast
  have hunit : (0 : ℚ) < 2 ^ (971 : ℤ) := zpow_pos (by norm_num) _
  have hexponent : (2 : ℚ) ^ ((n.log2 : ℤ) - 52) * 2 ^ x = 2 ^ place * 2 ^ (971 : ℤ) := by
    have hsum : (n.log2 : ℤ) - 52 + x = place + 971 := by omega
    rw [← zpow_add₀ (by norm_num), ← zpow_add₀ (by norm_num), hsum]
  rw [Handheld.Number.greatestDouble]
  generalize (2 : ℚ) ^ (971 : ℤ) = unit at hunit hexponent
  calc (Handheld.Number.bitsOf n : ℚ) * 2 ^ ((n.log2 : ℤ) - 52) * (m * 2 ^ x)
      = Handheld.Number.bitsOf n * m * (2 ^ ((n.log2 : ℤ) - 52) * 2 ^ x) := by ring
    _ = ((Handheld.Number.bitsOf n * m : ℕ) : ℚ) * 2 ^ place * unit := by
      rw [hexponent]
      push_cast
      ring
    _ ≤ (2 ^ 53 - 1 : ℤ) * unit := mul_le_mul_of_nonneg_right hcast hunit.le

/-- The double of a power of ten is no less than zero and stands for `m * 2 ^ x`, which the
greatest factor fits. -/
structure IsPower (e m : ℕ) (x : ℤ) : Prop where
  value : toRat? (powerOfTen e) = some (m * (2 : ℚ) ^ x)
  sign : isNegative (powerOfTen e) = false
  fits : productFits (greatestFactor e) m x = true

/-- A small power of ten comes from a table. -/
def smallFits (e : ℕ) : Bool :=
  match Handheld.Number.Parts.ofFloat (powerOfTen e) with
  | .finite d => !d.negative && productFits (greatestFactor e) d.mantissa d.exponent
  | _ => false

theorem smallFits_all : ∀ e < 23, smallFits e = true := by
  decide +kernel

theorem isPower_small {e : ℕ} (he : e < 23) : ∃ m x, IsPower e m x := by
  have hfits := smallFits_all e he
  unfold smallFits at hfits
  cases hparts : Handheld.Number.Parts.ofFloat (powerOfTen e) with
  | infinite s => rw [hparts] at hfits; cases hfits
  | nan => rw [hparts] at hfits; cases hfits
  | finite d =>
    rw [hparts] at hfits
    simp only [Bool.and_eq_true, Bool.not_eq_true'] at hfits
    obtain ⟨hsign, hle⟩ := hfits
    refine ⟨d.mantissa, d.exponent, ?_, ?_, hle⟩
    · unfold toRat?
      rw [hparts]
      show some ((if d.negative then -(d.mantissa : ℤ) else d.mantissa : ℤ)
        * (2 : ℚ) ^ d.exponent) = _
      rw [hsign]
      rfl
    · unfold isNegative
      rw [hparts]
      exact hsign

/-- A large power of ten is a mantissa that is rounded. -/
theorem toModel_powerOfTen {e : ℕ} (hlow : 23 ≤ e) (hhigh : e < 309) :
    (powerOfTen e).toModel = .pack
      (UnpackedFloat.roundWithAccuracy .binary64 .positive (2 ^ 53 * 10 ^ e) (-53) .exact) := by
  have hbits : (2 : ℤ) ^ Format.binary64.exponentBits = 2048 := rfl
  unfold powerOfTen Float.ofScientific
  rw [dif_neg (by omega)]
  show Float.Model.ofScientific 1 (e : ℤ) = _
  unfold Float.Model.ofScientific UnpackedFloat.ofScientific
  rw [dif_neg (by decide), hbits, if_neg (by omega), if_neg (by omega), if_pos (by omega)]
  rfl

/-- The place of the highest bit of a power of ten that is not too large: the logarithm of ten is
a little less than `217706 / 65536`. -/
def powerLog (e : ℕ) : ℕ := e * 217706 / 65536

/-- The bits of the double of a large power of ten. -/
def powerBits (e : ℕ) : ℕ :=
  Handheld.Number.roundQuotient .even (2 ^ 53 * 10 ^ e) (2 ^ (powerLog e + 1))

/-- The exponent of those bits. -/
def powerPlace (e : ℕ) : ℤ := powerLog e - 52

/-- The bits of the powers of ten do not go beyond the greatest double, and the greatest factors
fit them. -/
theorem powerBits_all : ∀ e < 309,
    (2 ^ powerLog e ≤ 10 ^ e ∧ 10 ^ e < 2 ^ (powerLog e + 1)) ∧
      powerBits e < 2 ^ 53 ∧ powerPlace e ≤ 971 ∧
      productFits (greatestFactor e) (powerBits e) (powerPlace e) = true := by
  decide +kernel

theorem target_powerOfTen {e : ℕ} (he : e < 309) :
    Handheld.Number.target (2 ^ 53 * 10 ^ e) (-53) = powerPlace e := by
  have hne : 10 ^ e ≠ 0 := (Nat.pow_pos (by decide)).ne'
  have hlog : (2 ^ 53 * 10 ^ e).log2 = powerLog e + 53 := by
    rw [Nat.mul_comm, ← Nat.shiftLeft_eq, Handheld.Number.log2_shiftLeft hne,
      (Nat.log2_eq_iff hne).mpr (powerBits_all e he).1]
  unfold Handheld.Number.target powerPlace
  rw [hlog]
  omega

theorem isPower_large {e : ℕ} (hlow : 23 ≤ e) (hhigh : e < 309) :
    IsPower e (powerBits e) (powerPlace e) := by
  obtain ⟨-, hbits, hplace, hfits⟩ := powerBits_all e hhigh
  have hne : 2 ^ 53 * 10 ^ e ≠ 0 := (Nat.mul_pos (by decide) (Nat.pow_pos (by decide))).ne'
  have hplaces : -53 + ((powerLog e + 1 : ℕ) : ℤ)
      = Handheld.Number.target (2 ^ 53 * 10 ^ e) (-53) := by
    rw [target_powerOfTen hhigh, powerPlace]
    omega
  obtain ⟨hcanonical, hvalue, -⟩ :=
    Handheld.Number.canonical_roundWithAccuracy .positive hne hplaces
  rw [target_powerOfTen hhigh] at hvalue
  have hmodel := toModel_powerOfTen hlow hhigh
  constructor
  case value =>
    have hunit : (2 : ℚ) ^ powerPlace e ≤ 2 ^ (971 : ℤ) :=
      zpow_le_zpow_right₀ (by norm_num) hplace
    have hle : (powerBits e : ℚ) ≤ (2 ^ 53 - 1 : ℤ) := by
      rw [← Int.cast_natCast]
      exact Int.cast_le.mpr (by omega)
    have hsize : |(powerBits e : ℚ) * 2 ^ powerPlace e| ≤ Handheld.Number.greatestDouble := by
      rw [abs_of_nonneg (mul_nonneg (Nat.cast_nonneg _) (zpow_nonneg (by norm_num) _)),
        Handheld.Number.greatestDouble]
      exact mul_le_mul hle hunit (zpow_nonneg (by norm_num) _) ((Nat.cast_nonneg _).trans hle)
    rw [Handheld.Number.toRat?_eq, hmodel]
    exact Handheld.Number.exists_value?_pack hcanonical hvalue hsize
  case sign =>
    rw [Handheld.Number.isNegative_eq, hmodel, Handheld.Number.leansDown_pack,
      Handheld.Number.leansDown_roundWithAccuracy]
    rfl
  case fits => exact hfits

/-- The double of a power of ten, and that the greatest factor fits it. -/
theorem exists_powerOfTen {e : ℕ} (he : e < 309) :
    ∃ b, toRat? (powerOfTen e) = some b ∧ 0 ≤ b ∧ isNegative (powerOfTen e) = false ∧
      Handheld.Number.bitsOf (greatestFactor e)
        * (2 : ℚ) ^ (((greatestFactor e).log2 : ℤ) - 52) * b ≤ Handheld.Number.greatestDouble := by
  obtain ⟨m, x, hpower⟩ : ∃ m x, IsPower e m x := by
    rcases Nat.lt_or_ge e 23 with hsmall | hlarge
    · exact isPower_small hsmall
    · exact ⟨_, _, isPower_large hlarge he⟩
  exact ⟨_, hpower.value, mul_nonneg (Nat.cast_nonneg _) (zpow_nonneg (by norm_num) _),
    hpower.sign, le_of_productFits hpower.fits⟩

theorem isFinite_eq (x : Float) : isFinite x = (toRat? x).isSome := by
  unfold isFinite toRat?
  cases Handheld.Number.Parts.ofFloat x <;> rfl

/-- A register and a power of ten whose product is not beyond the greatest decimal have a finite
product as doubles. -/
theorem isFinite_mul_powerOfTen {n e : ℕ} (hn : n ≤ greatestRegister) (he : e < 309)
    (h : n * 10 ^ e ≤ greatestDecimal) : isFinite (ofWhole n * powerOfTen e) = true := by
  obtain ⟨b, hb, hb_nonneg, -, hbound⟩ := exists_powerOfTen he
  have hfinite : ∃ a, toRat? (ofWhole n) = some a ∧ |a * b| ≤ Handheld.Number.greatestDouble := by
    rcases Nat.eq_zero_or_pos n with rfl | hpos
    · have hzero : toRat? (ofWhole (0 : ℕ)) = some 0 := by
        have := Handheld.Number.toRat?_ofWhole_of_lt (n := 0) (by decide)
        exact_mod_cast this
      refine ⟨0, hzero, ?_⟩
      rw [zero_mul, abs_zero]
      exact mul_nonneg (by norm_num) (zpow_nonneg (by norm_num) _)
    · have hfactor : n ≤ greatestFactor e := by
        refine le_min hn ?_
        rwa [Nat.le_div_iff_mul_le (Nat.pow_pos (by decide))]
      have hlog : ∀ m ≤ greatestRegister, m.log2 ≤ 1022 := by
        intro m hm
        rcases Nat.eq_zero_or_pos m with rfl | hm_pos
        · decide
        · have : m.log2 < 64 := (Nat.log2_lt hm_pos.ne').mpr (lt_of_le_of_lt hm (by decide))
          omega
      have hfactor_register : greatestFactor e ≤ greatestRegister := Nat.min_le_left _ _
      have hfactor_ne : greatestFactor e ≠ 0 := by omega
      have hvalue := Handheld.Number.toRat?_ofWhole hpos.ne' (hlog n hn)
      have hvalue' := Handheld.Number.toRat?_ofWhole hfactor_ne (hlog _ hfactor_register)
      have hmono := Handheld.Number.toRat?_ofWhole_mono hpos.ne' hfactor (hlog _ hfactor_register)
        hvalue hvalue'
      refine ⟨_, hvalue, ?_⟩
      rw [abs_of_nonneg (mul_nonneg
        (mul_nonneg (Nat.cast_nonneg _) (zpow_nonneg (by norm_num) _)) hb_nonneg)]
      exact (mul_le_mul_of_nonneg_right hmono hb_nonneg).trans hbound
  obtain ⟨a, ha, hle⟩ := hfinite
  obtain ⟨z, hz⟩ := Handheld.Number.exists_toRat?_mul ha hb hle
  rw [isFinite_eq, hz]
  rfl

/-! ### Scaling -/

/-- Dividing never fails. -/
theorem isSome_scaleFloat?_of_neg (steps : ℕ) (x : Float) {e : ℤ} (he : e < 0) :
    (scaleFloat? steps x e).isSome = true := by
  induction steps generalizing x e with
  | zero => rfl
  | succ steps ih =>
    rw [scaleFloat?]
    split
    · rw [if_neg (by omega)]
      rfl
    · split
      · rfl
      · rw [if_neg (by omega)]
        exact ih _ (by omega)

/-- A register that is scaled to a number that is not beyond the greatest decimal does not
fail. -/
theorem isSome_scaled? (negative : Bool) {n : ℕ} {e : ℤ} (hn : n ≤ greatestRegister)
    (h : n * (10 : ℚ) ^ e ≤ greatestDecimal) : (scaled? negative n e).isSome = true := by
  rw [scaled?, Option.isSome_map]
  rcases Int.lt_or_le e 0 with hneg | hpos
  · exact isSome_scaleFloat?_of_neg 4 _ hneg
  · obtain ⟨k, rfl⟩ := Int.eq_ofNat_of_zero_le hpos
    have hnat : n * 10 ^ k ≤ greatestDecimal := by
      rw [zpow_natCast] at h
      exact_mod_cast h
    rw [scaleFloat?, Int.natAbs_natCast]
    by_cases hk : k ≤ 308
    · rw [if_pos hk, if_pos (Int.natCast_nonneg k)]
      dsimp only
      rw [if_pos (isFinite_mul_powerOfTen hn (by omega) hnat)]
      rfl
    · -- so large a power is only left to a register that is empty
      have hzero : n = 0 := by
        by_contra hne
        have hlarge : 10 ^ k ≤ n * 10 ^ k := Nat.le_mul_of_pos_left _ (Nat.pos_of_ne_zero hne)
        exact absurd (hlarge.trans hnat) (Nat.not_le.mpr (greatestDecimal_lt (by omega)))
      have hempty : (ofWhole (0 : ℕ) == 0) = true := by decide +kernel
      rw [if_neg hk, hzero, if_pos hempty]
      rfl

/-- Scaling keeps the sign. -/
theorem isNegative_scaleFloat? (steps : ℕ) {x y : Float} {e : ℤ} (hx : isNegative x = false)
    (h : scaleFloat? steps x e = some y) : isNegative y = false := by
  have hpower : ∀ k < 309, isNegative (powerOfTen k) = false := fun k hk => by
    obtain ⟨-, -, -, hsign, -⟩ := exists_powerOfTen hk
    exact hsign
  induction steps generalizing x e with
  | zero => cases h; exact hx
  | succ steps ih =>
    rw [scaleFloat?] at h
    split at h
    · rename_i hsmall
      split at h
      · dsimp only at h
        split at h
        · cases h
          exact Handheld.Number.isNegative_mul hx (hpower _ (by omega))
        · cases h
      · cases h
        exact Handheld.Number.isNegative_div hx (hpower _ (by omega))
    · split at h
      · cases h
        exact hx
      · split at h
        · cases h
        · exact ih (Handheld.Number.isNegative_div hx (hpower 308 (by decide))) h

end Handheld.Json
