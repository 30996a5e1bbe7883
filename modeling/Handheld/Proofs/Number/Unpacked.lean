import Mathlib
import Handheld.Proofs.Number.Fraction

/-!
# Doubles taken apart and stored

The arithmetic of doubles takes its arguments apart, works with signs, mantissas and exponents
and stores what comes out. This file says what is left of a number on that way: a double taken
apart by the arithmetic is the double taken apart by its bits, and a result in the form of a
double is stored as it is, or is infinite if its exponent is too large.

* `ofFloat_eq`, `toRat?_eq`: the parts of a double, and the number that it stands for;
* `Canonical`, `canonical_unpack`: the form of a finite double;
* `unpack_pack_finite`, `value?_pack`: what is read back of a stored result;
* `isNegative`, `leansDown_pack`, `nonneg_of_isNegative`, `toRat?_of_neg`: signs.
-/

namespace Handheld.Number

open Float.Model (Format UnpackedFloat)
open Float.Model.UnpackedFloat (Sign)

/-! ### Doubles taken apart -/

/-- The parts of a double that was taken apart. -/
def Parts.ofUnpacked : UnpackedFloat → Parts
  | .notANumber => .nan
  | .infinity s => .infinite (s == .negative)
  | .zero s => .finite ⟨s == .negative, 0, -1074⟩
  | .finite s m e _ => .finite ⟨s == .negative, m, e⟩

/-- The fields of a double's pattern. -/
theorem decode_double (bits : ℕ) : Parts.decode .double bits =
    if bits / 2 ^ 52 % 2 ^ 11 = 2 ^ 11 - 1 then
      if bits % 2 ^ 52 = 0 then .infinite (bits / 2 ^ 63 % 2 == 1) else .nan
    else if bits / 2 ^ 52 % 2 ^ 11 = 0 then
      .finite ⟨bits / 2 ^ 63 % 2 == 1, bits % 2 ^ 52, -1074⟩
    else .finite ⟨bits / 2 ^ 63 % 2 == 1, bits % 2 ^ 52 + 2 ^ 52,
      -1074 + (bits / 2 ^ 52 % 2 ^ 11 - 1 : Nat)⟩ := rfl

theorem toNat_unpackMantissa (b : BitVec 64) :
    (@UnpackedFloat.unpackMantissa Format.binary64 b).toNat = b.toNat % 2 ^ 52 := by
  simp [UnpackedFloat.unpackMantissa]

theorem toNat_unpackExponent (b : BitVec 64) :
    (@UnpackedFloat.unpackExponent Format.binary64 b).toNat
      = b.toNat / 2 ^ 52 % 2 ^ 11 := by
  simp [UnpackedFloat.unpackExponent, Nat.shiftRight_eq_div_pow]

theorem isNegative_unpackSign (b : BitVec 64) :
    (Sign.ofBitVec (@UnpackedFloat.unpackSign Format.binary64 b) == .negative)
      = (b.toNat / 2 ^ 63 % 2 == 1) := by
  have hsign : (@UnpackedFloat.unpackSign Format.binary64 b).toNat
      = b.toNat / 2 ^ 63 % 2 := by
    simp [UnpackedFloat.unpackSign, Nat.shiftRight_eq_div_pow]
  unfold Sign.ofBitVec
  by_cases hzero : @UnpackedFloat.unpackSign Format.binary64 b = 0#1
  · rw [if_pos hzero]
    rw [hzero] at hsign
    rw [← hsign]
    rfl
  · have hone : b.toNat / 2 ^ 63 % 2 = 1 := by
      have hne : b.toNat / 2 ^ 63 % 2 ≠ 0 := by
        rw [← hsign]
        intro h
        exact hzero (BitVec.eq_of_toNat_eq h)
      omega
    rw [if_neg hzero, hone]
    rfl

/-- The leading bit that the mantissa of a normal double is stored without. -/
theorem toNat_leading_append (m : BitVec 52) : (1#1 ++ m).toNat = m.toNat + 2 ^ 52 := by
  rw [BitVec.toNat_append, ← Nat.shiftLeft_add_eq_or_of_lt m.isLt, Nat.add_comm]
  rfl

/-- Taking a double apart by its bits gives what the arithmetic of doubles begins with. -/
theorem ofFloat_eq (x : Float) : Parts.ofFloat x = .ofUnpacked x.toModel.unpack := by
  generalize hb : x.toModel.toBits.toBitVec = b
  have hm := toNat_unpackMantissa b
  have he := toNat_unpackExponent b
  have hs := isNegative_unpackSign b
  have hx : Parts.ofFloat x = .decode .double b.toNat := by rw [← hb]; rfl
  have hu : x.toModel.unpack = UnpackedFloat.unpack Format.binary64 b := by rw [← hb]; rfl
  have hfull : @UnpackedFloat.unpackExponent Format.binary64 b
      = -1#(Format.binary64.exponentBits) ↔ b.toNat / 2 ^ 52 % 2 ^ 11 = 2 ^ 11 - 1 := by
    rw [← he]
    exact ⟨fun h => congrArg BitVec.toNat h, fun h => BitVec.eq_of_toNat_eq h⟩
  have hempty : @UnpackedFloat.unpackExponent Format.binary64 b
      = 0#(Format.binary64.exponentBits) ↔ b.toNat / 2 ^ 52 % 2 ^ 11 = 0 := by
    rw [← he]
    exact ⟨fun h => congrArg BitVec.toNat h, fun h => BitVec.eq_of_toNat_eq h⟩
  have hnone : @UnpackedFloat.unpackMantissa Format.binary64 b
      = 0#(Format.binary64.mantissaBitsWithoutImplicit) ↔ b.toNat % 2 ^ 52 = 0 := by
    rw [← hm]
    exact ⟨fun h => congrArg BitVec.toNat h, fun h => BitVec.eq_of_toNat_eq h⟩
  have hlong : (1#1 ++ @UnpackedFloat.unpackMantissa Format.binary64 b).toNat
      = b.toNat % 2 ^ 52 + 2 ^ 52 := by
    rw [← hm]
    exact toNat_leading_append _
  rw [hx, hu, decode_double]
  unfold UnpackedFloat.unpack
  simp only [hfull, hempty, hnone]
  split
  · split <;> simp only [Parts.ofUnpacked, hs]
  · split
    · split
      · simp only [Parts.ofUnpacked, *]
      · simp only [Parts.ofUnpacked, *]
        rfl
    · simp only [Parts.ofUnpacked, hs, hlong, he]
      congr 2
      simp [Format.exponentBias]
      omega

/-- The number that an unpacked double stands for; none if it is not finite. -/
def value? : UnpackedFloat → Option ℚ
  | .zero _ => some 0
  | .finite s m e _ => some (s.apply m * (2 : ℚ) ^ e)
  | _ => none

theorem toRat?_eq (x : Float) : toRat? x = value? x.toModel.unpack := by
  unfold toRat?
  rw [ofFloat_eq]
  cases x.toModel.unpack with
  | notANumber => rfl
  | infinity s => rfl
  | zero s => cases s <;> simp [Parts.ofUnpacked, value?, Dyadic.toRat, Dyadic.signedMantissa]
  | finite s m e h =>
    have hsigned : Dyadic.signedMantissa ⟨s == .negative, m, e⟩ = s.apply m := by cases s <;> rfl
    show some ((Dyadic.signedMantissa ⟨s == .negative, m, e⟩ : ℚ) * 2 ^ e) = _
    rw [hsigned]
    rfl

/-! ### The form of a double -/

/-- The form of a finite double: 53 bits, or fewer at the least exponent. The exponent is not
bounded above. -/
def Canonical : UnpackedFloat → Prop
  | .zero _ => True
  | .finite _ m e _ => m < 2 ^ 53 ∧ -1074 ≤ e ∧ (2 ^ 52 ≤ m ∨ e = -1074)
  | _ => False

/-- The mantissa and the exponent of a finite double. -/
theorem bounds_of_finite {x : Float} {d : Dyadic} (h : Parts.ofFloat x = .finite d) :
    d.mantissa < 2 ^ 53 ∧ -1074 ≤ d.exponent ∧ d.exponent ≤ 971 ∧
      (2 ^ 52 ≤ d.mantissa ∨ d.exponent = -1074) := by
  rw [Parts.ofFloat, decode_double] at h
  generalize x.toBits.toNat = bits at h
  split at h
  · split at h <;> cases h
  · split at h <;>
      (cases h
       dsimp only
       omega)

/-- A finite double is taken apart to its form. -/
theorem canonical_unpack {x : Float} {q : ℚ} (h : toRat? x = some q) :
    Canonical x.toModel.unpack := by
  rw [toRat?_eq] at h
  have hparts := ofFloat_eq x
  cases hu : x.toModel.unpack with
  | notANumber => rw [hu] at h; cases h
  | infinity s => rw [hu] at h; cases h
  | zero s => trivial
  | finite s m e hm =>
    rw [hu] at hparts
    obtain ⟨hhigh, hleast, -, hbits⟩ := bounds_of_finite hparts
    exact ⟨hhigh, hleast, hbits⟩

/-! ### Storing a result -/

/-- What is unpacked from the components of a double. -/
theorem unpack_packComponents (s : Sign) (e : BitVec 11) (m : BitVec 52) :
    UnpackedFloat.unpack .binary64 (UnpackedFloat.packComponents .binary64 s e m) =
      if e.toNat = 2047 then (if m.toNat = 0 then .infinity s else .notANumber)
      else if e.toNat = 0 then
        if h : m.toNat = 0 then .zero s else .finite s m.toNat (-1074) (Nat.pos_of_ne_zero h)
      else .finite s (m.toNat + 2 ^ 52) (e.toNat - 1075) (by omega) := by
  have hfull : e = -1#(Format.binary64.exponentBits) ↔ e.toNat = 2047 :=
    ⟨fun h => congrArg BitVec.toNat h, fun h => BitVec.eq_of_toNat_eq h⟩
  have hempty : e = 0#(Format.binary64.exponentBits) ↔ e.toNat = 0 :=
    ⟨fun h => congrArg BitVec.toNat h, fun h => BitVec.eq_of_toNat_eq h⟩
  have hnone : m = 0#(Format.binary64.mantissaBitsWithoutImplicit) ↔ m.toNat = 0 :=
    ⟨fun h => congrArg BitVec.toNat h, fun h => BitVec.eq_of_toNat_eq h⟩
  unfold UnpackedFloat.unpack
  simp only [UnpackedFloat.unpackMantissa_packComponents,
    UnpackedFloat.unpackExponent_packComponents, UnpackedFloat.unpackSign_packComponents,
    Sign.ofBitVec_toBitVec, hfull, hempty, hnone, toNat_leading_append]
  split
  · rfl
  · split
    · rename_i hzero
      rw [hzero]
      rfl
    · congr 1

theorem unpack_packedInfinity (s : Sign) :
    UnpackedFloat.unpack .binary64 (UnpackedFloat.packedInfinity .binary64 s) = .infinity s :=
  unpack_packComponents s (-1#11) 0#52

/-- A result in the form of a double is stored as it is, unless its exponent is too large. -/
theorem unpack_pack_finite (s : Sign) {m : ℕ} {e : ℤ} (hm : 0 < m)
    (h : Canonical (.finite s m e hm)) :
    UnpackedFloat.unpack .binary64 (UnpackedFloat.pack .binary64 (.finite s m e hm))
      = if e ≤ 971 then .finite s m e hm else .infinity s := by
  obtain ⟨hhigh, hleast, hbits⟩ := h
  have hpack : UnpackedFloat.pack .binary64 (.finite s m e hm)
      = if 2048 ≤ (e + 1023 + 52).toNat + 1 then UnpackedFloat.packedInfinity .binary64 s
        else if m.log2 + 1 = 53 then
          UnpackedFloat.packComponents .binary64 s (BitVec.ofNat 11 (e + 1023 + 52).toNat)
            (BitVec.ofNat 52 m)
        else UnpackedFloat.packComponents .binary64 s 0#11 (BitVec.ofNat 52 m) := rfl
  rw [hpack]
  rcases lt_or_ge 971 e with hlarge | hfits
  · rw [if_pos (by omega), if_neg (by omega)]
    exact unpack_packedInfinity s
  · rw [if_neg (by omega), if_pos hfits]
    rcases Nat.lt_or_ge m (2 ^ 52) with hshort | hlong
    · have hlog : m.log2 + 1 ≠ 53 := by
        have := (Nat.log2_lt hm.ne').mpr hshort
        omega
      have he : e = -1074 := hbits.resolve_left (Nat.not_le.mpr hshort)
      have hmod : m % 2 ^ 52 = m := Nat.mod_eq_of_lt hshort
      rw [if_neg hlog, unpack_packComponents]
      simp only [BitVec.toNat_ofNat, hmod, he]
      simp [hm.ne']
    · have hlog : m.log2 + 1 = 53 := by
        have := (Nat.log2_lt hm.ne').mpr hhigh
        have := (Nat.le_log2 hm.ne').mpr hlong
        omega
      have hmod : m % 2 ^ 52 + 2 ^ 52 = m := by omega
      have hfield : (e + 1023 + 52).toNat % 2 ^ 11 = (e + 1075).toNat := by omega
      rw [if_pos hlog, unpack_packComponents]
      simp only [BitVec.toNat_ofNat, hmod, hfield]
      rw [if_neg (by omega), if_neg (by omega)]
      congr 1
      omega

/-- The double of a result in the form of a double. -/
theorem value?_pack {u : UnpackedFloat} (h : Canonical u) {q : ℚ}
    (hq : value? (Float.Model.pack u).unpack = some q) : value? u = some q := by
  have hback : (Float.Model.pack u).unpack
      = UnpackedFloat.unpack .binary64 (UnpackedFloat.pack .binary64 u) := rfl
  rw [hback] at hq
  cases u with
  | notANumber => exact h.elim
  | infinity s => exact h.elim
  | zero s =>
    rw [← hq]
    exact congrArg value? UnpackedFloat.unpack_packedZero.symm
  | finite s m e hm =>
    rw [unpack_pack_finite s hm h] at hq
    split at hq
    · exact hq
    · cases hq

theorem value?_pack_eq_none {u : UnpackedFloat} (h : value? u = none) :
    value? (Float.Model.pack u).unpack = none := by
  cases u with
  | notANumber => decide +kernel
  | infinity s => exact congrArg value? (unpack_packedInfinity s)
  | zero s => cases h
  | finite s m e hm => cases h

/-! ### Signs -/

/-- Whether a double has the sign of negative numbers; what is no number has none. -/
def isNegative (x : Float) : Bool :=
  match Parts.ofFloat x with
  | .finite d => d.negative
  | .infinite negative => negative
  | .nan => false

/-- The sign of an unpacked double. -/
def leansDown : UnpackedFloat → Bool
  | .notANumber => false
  | .infinity s | .zero s | .finite s _ _ _ => s == .negative

theorem isNegative_eq (x : Float) : isNegative x = leansDown x.toModel.unpack := by
  unfold isNegative
  rw [ofFloat_eq]
  cases x.toModel.unpack <;> rfl

/-- Storing a result keeps its sign. -/
theorem leansDown_pack (u : UnpackedFloat) :
    leansDown (Float.Model.pack u).unpack = leansDown u := by
  have hcomponents : ∀ (s : Sign) (e : BitVec 11) (m : BitVec 52),
      (e.toNat = 2047 → m.toNat = 0) →
      leansDown (UnpackedFloat.unpack .binary64 (UnpackedFloat.packComponents .binary64 s e m))
        = (s == .negative) := by
    intro s e m hm
    rw [unpack_packComponents]
    split
    · rename_i he
      rw [if_pos (hm he)]
      rfl
    · split
      · split <;> rfl
      · rfl
  cases u with
  | notANumber => decide +kernel
  | infinity s => exact hcomponents s (-1#11) 0#52 fun _ => rfl
  | zero s => exact hcomponents s 0#11 0#52 fun _ => rfl
  | finite s m e hm =>
    show leansDown (UnpackedFloat.unpack .binary64 (if 2048 ≤ (e + 1023 + 52).toNat + 1 then
        UnpackedFloat.packedInfinity .binary64 s
      else if m.log2 + 1 = 53 then
        UnpackedFloat.packComponents .binary64 s (BitVec.ofNat 11 (e + 1023 + 52).toNat)
          (BitVec.ofNat 52 m)
      else UnpackedFloat.packComponents .binary64 s 0#11 (BitVec.ofNat 52 m))) = (s == .negative)
    split
    · exact hcomponents s (-1#11) 0#52 fun _ => rfl
    · split
      · refine hcomponents s _ _ fun he => ?_
        rw [BitVec.toNat_ofNat] at he
        omega
      · exact hcomponents s _ _ fun he => absurd he (by decide)

theorem eq_positive {s : Sign} (h : (s == .negative) = false) : s = .positive := by
  cases s
  · cases h
  · rfl

/-- What is not negative by its sign is not below zero. -/
theorem nonneg_of_isNegative {x : Float} (hx : isNegative x = false) {q : ℚ}
    (hq : toRat? x = some q) : 0 ≤ q := by
  rw [isNegative_eq] at hx
  rw [toRat?_eq] at hq
  cases hu : x.toModel.unpack with
  | notANumber => rw [hu] at hq; cases hq
  | infinity s => rw [hu] at hq; cases hq
  | zero s => rw [hu] at hq; cases hq; exact le_rfl
  | finite s m e hm =>
    rw [hu] at hq hx
    obtain rfl := eq_positive hx
    cases hq
    exact mul_nonneg (Nat.cast_nonneg m) (zpow_nonneg (by norm_num) e)

/-- A finite negation is the negation of a finite number. -/
theorem toRat?_of_neg {x : Float} {q : ℚ} (hq : toRat? (-x) = some q) : toRat? x = some (-q) := by
  have hneg : (-x).toModel = .pack x.toModel.unpack.neg := rfl
  rw [toRat?_eq, hneg] at hq
  cases hx : toRat? x with
  | none =>
    rw [toRat?_eq] at hx
    have hnone : value? x.toModel.unpack.neg = none := by
      cases hu : x.toModel.unpack <;> rw [hu] at hx <;> first | rfl | cases hx
    rw [value?_pack_eq_none hnone] at hq
    cases hq
  | some p =>
    have hcanonical := canonical_unpack hx
    rw [toRat?_eq] at hx
    have hback : Canonical x.toModel.unpack.neg ∧ value? x.toModel.unpack.neg = some (-p) := by
      cases hu : x.toModel.unpack with
      | notANumber => rw [hu] at hx; cases hx
      | infinity s => rw [hu] at hx; cases hx
      | zero s => rw [hu] at hx; cases hx; exact ⟨trivial, by simp [UnpackedFloat.neg, value?]⟩
      | finite s m e hm =>
        rw [hu] at hx hcanonical
        cases hx
        refine ⟨hcanonical, ?_⟩
        have hsign : ((-s).apply (m : ℤ) : ℤ) = -s.apply m := by
          cases s
          · exact (neg_neg (m : ℤ)).symm
          · rfl
        show some (((-s).apply (m : ℤ) : ℤ) * (2 : ℚ) ^ e) = _
        rw [hsign]
        push_cast
        rw [neg_mul]
    have hsame := value?_pack hback.1 hq
    rw [hback.2] at hsame
    rw [← Option.some.inj hsame, neg_neg]

end Handheld.Number
