import Mathlib
import Handheld.Proofs.Frame.Grouped

/-!
# Whole numbers as doubles

A whole number that a game hands over is a double before its floor is taken. Below `2 ^ 53` the
double is the number. From there on the number is rounded to 53 bits, which may move it, but not
down among the smaller ones; if no double is large enough, it becomes infinite and has no floor.

* `toNat_toBits_ofBits`: the pattern of a positive double is read back as it was written;
* `bitsOf`, `encode_whole`, `decode_of_finite`: the pattern of a whole number, and what it is read
  as;
* `parts_ofWhole`: the double of a whole number;
* `floor?_ofWhole`, `whole?_number`, `le_of_floor?_ofWhole`: the floors of whole numbers.
-/

namespace Handheld.Number

open Float.Model (Format UnpackedFloat)

/-! ### Patterns -/

/-- The pattern of a double that is a number, an infinity among them, is read back as it was
written. -/
theorem toNat_toBits_ofBits_of_lt {p : Nat} (hp : p < 2 ^ 64) (hnumber : p % 2 ^ 63 ≤ 2047 * 2 ^ 52) :
    (Float.ofBits (UInt64.ofNat p)).toBits.toNat = p := by
  have hvalid : Format.binary64.Valid (UInt64.ofNat p).toBitVec := by
    constructor
    intro hexponent hmantissa
    exfalso
    -- the exponent is all ones, so there is no room left for a mantissa
    have he := congrArg BitVec.toNat hexponent
    have hm := mt (BitVec.eq_of_toNat_eq (y := 0#52)) hmantissa
    simp [UnpackedFloat.unpackExponent, UnpackedFloat.unpackMantissa,
      Nat.shiftRight_eq_div_pow] at he hm
    omega
  have hback := UnpackedFloat.pack_unpack_of_valid hvalid (by decide)
  show (UnpackedFloat.pack Format.binary64
    (UnpackedFloat.unpack Format.binary64 (UInt64.ofNat p).toBitVec)).toNat = p
  rw [hback]
  exact Nat.mod_eq_of_lt hp

/-- The pattern of a positive double, infinity among them, is read back as it was written. -/
theorem toNat_toBits_ofBits {p : Nat} (hp : p ≤ 2047 * 2 ^ 52) :
    (Float.ofBits (UInt64.ofNat p)).toBits.toNat = p :=
  toNat_toBits_ofBits_of_lt (by omega) (by omega)

/-- A pattern between the subnormal doubles and infinity has all of its 53 bits. -/
theorem decode_of_finite {p : Nat} (hlow : 2 ^ 52 ≤ p) (hhigh : p < 2047 * 2 ^ 52) :
    Parts.decode .double p =
      .finite ⟨false, p % 2 ^ 52 + 2 ^ 52, ((p / 2 ^ 52 : Nat) : Int) - 1075⟩ := by
  have hfield : p / 2 ^ 52 % 2 ^ 11 = p / 2 ^ 52 := Nat.mod_eq_of_lt (by omega)
  have hsign : p / 2 ^ 63 % 2 = 0 := by omega
  have hleast : Width.leastExponent .double = -1074 := rfl
  show (if p / 2 ^ 52 % 2 ^ 11 = 2 ^ 11 - 1 then _ else
    if p / 2 ^ 52 % 2 ^ 11 = 0 then _ else
      Parts.finite ⟨p / 2 ^ 63 % 2 == 1, p % 2 ^ 52 + 2 ^ 52,
        Width.leastExponent .double + (p / 2 ^ 52 % 2 ^ 11 - 1 : Nat)⟩) = _
  rw [hfield, hsign, hleast, if_neg (by omega), if_neg (by omega)]
  congr 2
  omega

theorem decode_infinite : Parts.decode .double (2047 * 2 ^ 52) = .infinite false := by
  decide

/-- The 53 bits of a whole number. -/
def bitsOf (n : Nat) : Nat :=
  if n.log2 ≤ 52 then n * 2 ^ (52 - n.log2)
  else roundQuotient .even n (2 ^ (n.log2 - 52))

theorem le_bitsOf {n : Nat} (hn : n ≠ 0) : 2 ^ 52 ≤ bitsOf n := by
  have hlow := Nat.log2_self_le hn
  unfold bitsOf
  split
  · calc 2 ^ 52 = 2 ^ n.log2 * 2 ^ (52 - n.log2) := by rw [← Nat.pow_add]; congr 1; omega
      _ ≤ n * 2 ^ (52 - n.log2) := Nat.mul_le_mul_right _ hlow
  · refine Nat.le_trans ?_ (le_roundQuotient _ _ _)
    rw [Nat.le_div_iff_mul_le (Nat.two_pow_pos _), ← Nat.pow_add]
    calc 2 ^ (52 + (n.log2 - 52)) = 2 ^ n.log2 := by congr 1; omega
      _ ≤ n := hlow

theorem bitsOf_lt {n : Nat} (hn : n < 2 ^ 53) : bitsOf n < 2 ^ 53 := by
  have hlog : n.log2 ≤ 52 := by
    rcases Nat.eq_zero_or_pos n with rfl | hpos
    · decide
    · exact Nat.le_of_lt_succ ((Nat.log2_lt (Nat.ne_of_gt hpos)).mpr hn)
  rw [bitsOf, if_pos hlog]
  calc n * 2 ^ (52 - n.log2) < 2 ^ (n.log2 + 1) * 2 ^ (52 - n.log2) :=
        Nat.mul_lt_mul_of_pos_right Nat.lt_log2_self (Nat.two_pow_pos _)
    _ = 2 ^ 53 := by rw [← Nat.pow_add]; congr 1; omega

/-- A whole number is written as its 53 bits at the exponent of its size, and as infinity if the
exponents do not reach that far. -/
theorem encode_whole {n : Nat} (hn : n ≠ 0) :
    Width.double.encode ⟨false, n, 0⟩
      = min ((n.log2 + 1022) * 2 ^ 52 + bitsOf n) (2047 * 2 ^ 52) := by
  have hlast : max ((n.log2 : Int) + 0 - (52 : Nat)) (Width.leastExponent .double)
      = (n.log2 : Int) - 52 := by
    rw [show Width.leastExponent .double = -1074 from rfl]
    omega
  have hplace : ((n.log2 : Int) - 52 - Width.leastExponent .double).toNat = n.log2 + 1022 := by
    rw [show Width.leastExponent .double = -1074 from rfl]
    omega
  unfold Width.encode
  dsimp only
  rw [if_neg hn, show Width.double.fraction = 52 from rfl, hlast, hplace, if_neg (by decide),
    Nat.zero_add]
  congr 2
  unfold bitsOf
  by_cases hlog : n.log2 ≤ 52
  · rw [if_pos hlog, if_pos (by omega), show (0 - ((n.log2 : Int) - 52)).toNat = 52 - n.log2 by omega]
    rfl
  · rw [if_neg hlog, if_neg (by omega), show ((n.log2 : Int) - 52 - 0).toNat = n.log2 - 52 by omega]
    rfl

/-! ### Floors -/

theorem floor_up (m k : Nat) : Dyadic.floor ⟨false, m, (k : Int)⟩ = (m * 2 ^ k : Nat) := by
  unfold Dyadic.floor Dyadic.signedMantissa
  dsimp only
  rw [if_pos (Int.natCast_nonneg k), if_neg Bool.false_ne_true, Int.toNat_natCast, Nat.cast_mul]
  rfl

theorem floor_down (m k : Nat) : Dyadic.floor ⟨false, m * 2 ^ k, -(k : Int)⟩ = m := by
  rcases Nat.eq_zero_or_pos k with rfl | hk
  · exact (floor_up (m * 2 ^ 0) 0).trans (by simp)
  · unfold Dyadic.floor Dyadic.signedMantissa
    dsimp only
    rw [if_neg (by omega), if_neg Bool.false_ne_true, Int.neg_neg, Int.toNat_natCast, Nat.cast_mul]
    exact Int.mul_ediv_cancel _ (Int.natCast_ne_zero.mpr (Nat.ne_of_gt (Nat.two_pow_pos k)))

theorem parts_ofWhole {n : Nat} (hn : n ≠ 0) :
    Parts.ofFloat (ofWhole n)
      = Parts.decode .double (min ((n.log2 + 1022) * 2 ^ 52 + bitsOf n) (2047 * 2 ^ 52)) := by
  unfold ofWhole
  rw [decide_eq_false (Int.not_lt.mpr (Int.natCast_nonneg n)), Int.natAbs_natCast, encode_whole hn,
    Parts.ofFloat, toNat_toBits_ofBits (Nat.min_le_right _ _)]

/-- Below `2 ^ 53` the double of a whole number is that number. -/
theorem floor?_ofWhole {n : Nat} (hn : n < 2 ^ 53) : floor? (ofWhole n) = some (n : Int) := by
  rcases Nat.eq_zero_or_pos n with rfl | hpos
  · decide +kernel
  have hne : n ≠ 0 := Nat.ne_of_gt hpos
  have hlog : n.log2 ≤ 52 := Nat.le_of_lt_succ ((Nat.log2_lt hne).mpr hn)
  have hlow := le_bitsOf hne
  have hhigh := bitsOf_lt hn
  have hmantissa : ((n.log2 + 1022) * 2 ^ 52 + bitsOf n) % 2 ^ 52 + 2 ^ 52 = bitsOf n := by omega
  have hfield : ((n.log2 + 1022) * 2 ^ 52 + bitsOf n) / 2 ^ 52 = n.log2 + 1023 := by omega
  -- the bits are moved up by the places that the exponent moves them down
  have hexponent : ((n.log2 + 1023 : Nat) : Int) - 1075 = -((52 - n.log2 : Nat) : Int) := by omega
  have hbits : bitsOf n = n * 2 ^ (52 - n.log2) := if_pos hlog
  rw [floor?, parts_ofWhole hne, Nat.min_eq_left (by omega),
    decode_of_finite (by omega) (by omega), hmantissa, hfield, hexponent, hbits]
  exact congrArg some (floor_down n (52 - n.log2))

/-- A number value that was written as such a whole number is read as that number. -/
theorem whole?_number {n : Nat} (hn : n < 2 ^ 53) :
    (Json.number (.whole n)).whole? = some (n : Int) := by
  have hfloor : (Json.number (.whole n)).floor? = some (n : Int) := floor?_ofWhole hn
  rw [whole?_eq, hfloor]
  exact congrArg some (clamp_of_mem (by unfold least64; omega) (by unfold greatest64; omega))

/-- From `2 ^ 53` on the double of a whole number has no floor below. -/
theorem le_of_floor?_ofWhole {n : Nat} (hn : 2 ^ 53 ≤ n) {m : Int}
    (hm : floor? (ofWhole n) = some m) : 2 ^ 53 ≤ m := by
  have hne : n ≠ 0 := by omega
  have hlog : 53 ≤ n.log2 := (Nat.le_log2 hne).mpr hn
  have hlow := le_bitsOf hne
  rw [floor?, parts_ofWhole hne] at hm
  generalize hp : (n.log2 + 1022) * 2 ^ 52 + bitsOf n = p at hm
  by_cases hfinite : p < 2047 * 2 ^ 52
  · have hexponent : ((p / 2 ^ 52 : Nat) : Int) - 1075 = ((p / 2 ^ 52 - 1076 + 1 : Nat) : Int) := by
      omega
    rw [Nat.min_eq_left (Nat.le_of_lt hfinite), decode_of_finite (by omega) hfinite, hexponent] at hm
    have hfloor := (floor_up (p % 2 ^ 52 + 2 ^ 52) (p / 2 ^ 52 - 1076 + 1)).symm.trans
      (Option.some.inj hm)
    have hup : 2 ^ 53 ≤ (p % 2 ^ 52 + 2 ^ 52) * 2 ^ (p / 2 ^ 52 - 1076 + 1) := by
      calc 2 ^ 53 = 2 ^ 52 * 2 ^ 1 := rfl
        _ ≤ (p % 2 ^ 52 + 2 ^ 52) * 2 ^ (p / 2 ^ 52 - 1076 + 1) :=
          Nat.mul_le_mul (Nat.le_add_left _ _) (Nat.pow_le_pow_right (by decide) (by omega))
    omega
  · rw [Nat.min_eq_right (Nat.le_of_not_lt hfinite), decode_infinite] at hm
    cases hm

end Handheld.Number
