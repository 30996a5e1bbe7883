import Handheld.Proofs.Json.Reading
import Handheld.Proofs.Json.Significand

/-!
# Numbers that leave the sandbox

A double leaves the sandbox as the text that the cartridge would write, read back. This never
fails for a finite double, and a whole number below `2 ^ 53` arrives as itself. Nothing is
promised about the last bits of any other number, but no negative number arrives above zero.

* `write_guest_cases`: the forms that a decimal is written in;
* `isSome_copied`: every finite double is copied;
* `copied_whole`: a small whole number is copied as it is;
* `nonpos_of_copied`: a negative number does not become positive.
-/

namespace Handheld.Json

open Handheld.Number (Decimal Layout Parts digitsOf digitText spanDigits toRat? ofWhole
  isNegative isNegative_ofWhole greatestRegister valueOf zeros)

/-! ### Written forms -/

/-- The decimal exponent as the guest writes it. -/
def exponentText (e : ℤ) : List Char :=
  'e' :: (if e < 0 then '-' else '+') :: (digitsOf e.natAbs).map digit

theorem exponent?_exponentText (e : ℤ) : exponent? (exponentText e) = some (some e, []) := by
  have hspan := spanDigits_append (Handheld.Number.digitsOf_lt e.natAbs) [] nofun
  have hsome : (digitsOf e.natAbs).isEmpty = false := by
    simp [Handheld.Number.digitsOf_ne_nil]
  rw [List.append_nil] at hspan
  rcases Int.lt_or_le e 0 with hneg | hpos
  · have hvalue : -(e.natAbs : ℤ) = e := by omega
    rw [exponentText, if_pos hneg]
    simp only [exponent?, true_or, if_true, hspan, hsome, Bool.false_eq_true, if_false,
      Handheld.Number.valueOf_digitsOf, hvalue]
  · have hvalue : (e.natAbs : ℤ) = e := by omega
    rw [exponentText, if_neg (by omega)]
    simp only [exponent?, true_or, if_true, hspan, hsome, Bool.false_eq_true, if_false,
      Handheld.Number.valueOf_digitsOf, hvalue]

theorem ending_exponentText (e : ℤ) : Ending (exponentText e) (some e) where
  read := exponent?_exponentText e
  digits := fun c rest heq => by cases heq; rfl
  point := fun rest heq => by cases heq

theorem map_digit_digitsOf (n : ℕ) : (digitsOf n).map digit = Nat.toDigits 10 n := by
  rw [digitsOf, List.map_map]
  conv_rhs => rw [← List.map_id (Nat.toDigits 10 n)]
  refine List.map_congr_left fun c hc => ?_
  have hdigit := Nat.isDigit_of_mem_toDigits (by decide) (by decide) hc
  have hrange : 48 ≤ c.toNat := by
    simp only [Char.isDigit, Bool.and_eq_true, decide_eq_true_eq] at hdigit
    exact hdigit.1
  show Char.ofNat (48 + (c.toNat - 48)) = c
  rw [Nat.add_sub_cancel' hrange, Char.ofNat_toNat]

theorem toList_zeros (n : ℕ) : (zeros n).toList = (List.replicate n 0).map digit := by
  rw [zeros, String.toList_ofList, List.map_replicate]
  rfl

/-- A decimal that is a whole number of not too many places is written with its digits. -/
theorem write_guest_whole {d : Decimal} (hlow : d.digits.length ≤ d.point) (hhigh : d.point ≤ 21) :
    (Layout.guest.write d).toList
      = (d.digits ++ List.replicate (d.point - d.digits.length).toNat 0).map digit := by
  unfold Layout.write
  simp only [Layout.guest, Bool.false_eq_true, if_false]
  rw [if_pos ⟨hlow, hhigh⟩, String.append_empty, String.toList_append, toList_digitText,
    toList_zeros, List.map_append]

/-- A decimal is written with all of its digits, with a point between or before them, or with an
exponent. -/
theorem write_guest_cases {d : Decimal} (hsome : d.digits ≠ []) :
    (d.digits.length ≤ d.point ∧ d.point ≤ 21 ∧ (Layout.guest.write d).toList
        = (d.digits ++ List.replicate (d.point - d.digits.length).toNat 0).map digit) ∨
      (0 < d.point ∧ d.point ≤ 21 ∧ d.point < d.digits.length ∧ (Layout.guest.write d).toList
        = (d.digits.take d.point.toNat).map digit ++ pointText (d.digits.drop d.point.toNat)) ∨
      (d.point ≤ 0 ∧ (Layout.guest.write d).toList
        = [0].map digit ++ pointText (List.replicate (-d.point).toNat 0 ++ d.digits)) ∨
      (Layout.guest.write d).toList = (d.digits.take 1).map digit
        ++ (pointText (d.digits.drop 1) ++ exponentText (d.point - 1)) := by
  have hpoint : ∀ {fraction : List ℕ}, fraction ≠ [] →
      ("." ++ digitText fraction).toList = pointText fraction := by
    intro fraction hne
    rw [pointText, if_neg hne, String.toList_append, toList_digitText]
    rfl
  by_cases hwhole : (d.digits.length : ℤ) ≤ d.point ∧ d.point ≤ 21
  · exact .inl ⟨hwhole.1, hwhole.2, write_guest_whole hwhole.1 hwhole.2⟩
  · right
    unfold Layout.write
    simp only [Layout.guest, Bool.false_eq_true, if_false, if_true]
    rw [if_neg hwhole]
    by_cases hinside : 0 < d.point ∧ d.point ≤ 21
    · left
      have hlong : d.point < d.digits.length := by omega
      have hdrop : d.digits.drop d.point.toNat ≠ [] := by
        rw [ne_eq, List.drop_eq_nil_iff]
        omega
      refine ⟨hinside.1, hinside.2, hlong, ?_⟩
      rw [if_pos hinside, String.append_assoc, String.toList_append, toList_digitText,
        hpoint hdrop]
    · rw [if_neg hinside]
      right
      by_cases hbefore : -5 ≤ d.point ∧ d.point ≤ 0
      · left
        refine ⟨hbefore.2, ?_⟩
        rw [if_pos hbefore, String.append_assoc, String.toList_append, String.toList_append,
          toList_zeros, toList_digitText, ← List.map_append, pointText,
          if_neg (List.append_ne_nil_of_right_ne_nil _ hsome)]
        rfl
      · rw [if_neg hbefore]
        right
        have hrest : (if (digitText (d.digits.drop 1)).isEmpty = true then ""
            else "." ++ digitText (d.digits.drop 1)).toList = pointText (d.digits.drop 1) := by
          rcases eq_or_ne (d.digits.drop 1) [] with hnil | hne
          · rw [hnil]
            rfl
          · have hfull : (digitText (d.digits.drop 1)).isEmpty = false := by
              rw [String.isEmpty_eq_false_iff, ne_eq, ← String.toList_inj, toList_digitText]
              exact fun hnil => hne (List.map_eq_nil_iff.mp hnil)
            rw [if_neg (by rw [hfull]; exact Bool.false_ne_true), hpoint hne]
        have hsign : (if d.point - 1 < 0 then "-" else "+").toList
            = [if d.point - 1 < 0 then '-' else '+'] := by
          split <;> rfl
        simp only [String.append_assoc, String.toList_append, toList_digitText, hrest, hsign,
          Nat.toList_repr, ← map_digit_digitsOf]
        rfl

/-! ### No finite double is refused -/

theorem significandOf_bounds (digits fraction : List ℕ) :
    (significandOf digits fraction).value ≤ greatestRegister ∧
      (significandOf digits fraction).shift ≤ digits.length := by
  obtain ⟨hvalue, hshift⟩ := foldl_pushWhole_bounds digits (s := ⟨0, 0, false⟩) (Nat.zero_le _)
  obtain ⟨j, -, hplaces, -, hregister⟩ := exists_foldl_pushFraction fraction
    { digits.foldl Significand.pushWhole ⟨0, 0, false⟩ with full := false }
  refine ⟨hregister hvalue, ?_⟩
  unfold significandOf
  rw [hplaces]
  dsimp only at hshift ⊢
  omega

/-- A register moved by a few places is far below the greatest double. -/
theorem isSome_scaled?_of_le (negative : Bool) {n : ℕ} {e : ℤ} (hn : n ≤ greatestRegister)
    (he : e ≤ 22) : (scaled? negative n e).isSome = true := by
  refine isSome_scaled? negative hn ?_
  have hpower : (10 : ℚ) ^ e ≤ 10 ^ (22 : ℤ) := zpow_le_zpow_right₀ (by norm_num) he
  have hregister : (n : ℚ) ≤ greatestRegister := Nat.cast_le.mpr hn
  have hbelow : greatestRegister * 10 ^ 22 ≤ greatestDecimal := by decide +kernel
  calc (n : ℚ) * 10 ^ e ≤ greatestRegister * 10 ^ (22 : ℤ) :=
        mul_le_mul hregister hpower (zpow_nonneg (by norm_num) _) (Nat.cast_nonneg _)
    _ ≤ greatestDecimal := by exact_mod_cast hbelow

theorem isSome_wholeNumber? (negative : Bool) {s : Significand}
    (hvalue : s.value ≤ greatestRegister) (hshift : s.shift ≤ 22) : (wholeNumber? negative s).isSome = true := by
  unfold wholeNumber?
  split
  · rw [Option.isSome_map]
    exact isSome_scaled?_of_le negative hvalue hshift
  · split
    · split <;> rfl
    · rfl

/-- The digits of a positive number may begin a JSON number, also cut off or with zeros behind. -/
theorem leading_take {n : ℕ} (hn : n ≠ 0) {k : ℕ} (hk : 0 < k) : Leading ((digitsOf n).take k) where
  nonempty := by
    rw [ne_eq, List.take_eq_nil_iff]
    simp [hk.ne', Handheld.Number.digitsOf_ne_nil]
  small := fun d hd => Handheld.Number.digitsOf_lt n d (List.mem_of_mem_take hd)
  lean := .inr (by
    rw [List.head?_take, if_neg hk.ne']
    exact Handheld.Number.head?_digitsOf hn)

theorem leading_zeros {n : ℕ} (hn : n ≠ 0) (k : ℕ) :
    Leading (digitsOf n ++ List.replicate k 0) where
  nonempty := List.append_ne_nil_of_left_ne_nil (Handheld.Number.digitsOf_ne_nil n) _
  small := fun d hd => by
    rcases List.mem_append.mp hd with hd | hd
    · exact Handheld.Number.digitsOf_lt n d hd
    · rw [List.eq_of_mem_replicate hd]
      decide
  lean := .inr (by
    rw [List.head?_append_of_ne_nil _ (Handheld.Number.digitsOf_ne_nil n)]
    exact Handheld.Number.head?_digitsOf hn)

/-- The text of a point of a grid that is not beyond the greatest decimal is read. -/
theorem isSome_write_ofGrid (negative : Bool) {n : ℕ} (hn : n ≠ 0) {step : ℤ}
    (hle : n * (10 : ℚ) ^ step ≤ greatestDecimal) :
    (number? (minus negative ++ (Layout.guest.write (.ofGrid n step)).toList)).isSome = true := by
  have hvalue := Handheld.Number.value_ofGrid hn step
  obtain ⟨m, k, hm, -, hgrid⟩ := Handheld.Number.ofGrid_eq hn step
  rw [hgrid] at hvalue ⊢
  generalize ((digitsOf m).length + k + step : ℤ) = point at hvalue
  rw [Decimal.value, Handheld.Number.valueOf_digitsOf] at hvalue
  dsimp only at hvalue
  have hsmall := Handheld.Number.digitsOf_lt m
  rcases write_guest_cases (d := ⟨digitsOf m, point⟩) (Handheld.Number.digitsOf_ne_nil m) with
    ⟨hlow, hhigh, hwrite⟩ | ⟨hlow, hhigh, hlong, hwrite⟩ | ⟨hlow, hwrite⟩ | hwrite <;>
    dsimp only at *
  · have hleading := leading_zeros hm (point - (digitsOf m).length).toNat
    obtain ⟨hregister, hshift⟩ := foldl_pushWhole_bounds
      (digitsOf m ++ List.replicate (point - (digitsOf m).length).toNat 0)
      (s := ⟨0, 0, false⟩) (Nat.zero_le _)
    rw [List.length_append, List.length_replicate] at hshift
    rw [hwrite, number?_digits negative hleading, Option.isSome_map]
    exact isSome_wholeNumber? negative hregister (by dsimp only at hshift; omega)
  · have hleading := leading_take hm (k := point.toNat) (by omega)
    have hdrop : (digitsOf m).drop point.toNat ≠ [] := by
      rw [ne_eq, List.drop_eq_nil_iff]
      omega
    obtain ⟨hregister, hshift⟩ :=
      significandOf_bounds ((digitsOf m).take point.toNat) ((digitsOf m).drop point.toNat)
    rw [List.length_take] at hshift
    have hread := number?_places negative hleading
      (fun d hd => hsmall d (List.mem_of_mem_drop hd)) ending_nil (.inl hdrop)
    rw [List.append_nil] at hread
    rw [hwrite, hread, Option.isSome_map]
    exact isSome_scaled?_of_le negative hregister (by simp only [Option.getD_none]; omega)
  · have hleading : Leading [0] := ⟨by decide, by decide, .inl rfl⟩
    obtain ⟨hregister, hshift⟩ :=
      significandOf_bounds [0] (List.replicate (-point).toNat 0 ++ digitsOf m)
    have hfraction : ∀ d ∈ List.replicate (-point).toNat 0 ++ digitsOf m, d < 10 := by
      intro d hd
      rcases List.mem_append.mp hd with hd | hd
      · rw [List.eq_of_mem_replicate hd]
        decide
      · exact hsmall d hd
    have hread := number?_places negative hleading hfraction ending_nil
      (.inl (List.append_ne_nil_of_right_ne_nil _ (Handheld.Number.digitsOf_ne_nil m)))
    rw [List.append_nil] at hread
    rw [hwrite, hread, Option.isSome_map]
    rw [List.length_singleton] at hshift
    exact isSome_scaled?_of_le negative hregister (by simp only [Option.getD_none]; omega)
  · -- the digits that are left out only make the number smaller
    obtain ⟨lead, rest, hdigits⟩ := List.exists_cons_of_ne_nil (Handheld.Number.digitsOf_ne_nil m)
    have hleading := leading_take hm (k := 1) (by decide)
    have hfraction : ∀ d ∈ (digitsOf m).drop 1, d < 10 :=
      fun d hd => hsmall d (List.mem_of_mem_drop hd)
    have hplaces := number?_places negative hleading hfraction (ending_exponentText (point - 1))
      (.inr (by simp))
    rw [hwrite, hplaces, Option.isSome_map]
    have hbehind : behind lead rest = m := by
      have := Handheld.Number.valueOf_digitsOf m
      rw [hdigits] at this
      simpa [valueOf, behind] using this
    have hlead : lead ≤ greatestRegister := by
      have : lead < 10 := hsmall lead (by rw [hdigits]; exact List.mem_cons_self)
      unfold greatestRegister
      omega
    have hwhole : [lead].foldl Significand.pushWhole ⟨0, 0, false⟩ = ⟨lead, 0, false⟩ := by
      have hfits : behind 0 [lead] ≤ greatestRegister := by simpa [behind] using hlead
      simpa [behind] using foldl_pushWhole_exact hfits
    rw [hdigits] at hvalue ⊢
    rw [List.take_succ_cons, List.take_zero, List.drop_succ_cons, List.drop_zero, significandOf,
      hwhole]
    obtain ⟨j, hj, hshift, hcollected, hregister⟩ :=
      exists_foldl_pushFraction rest ⟨lead, 0, false⟩
    refine isSome_scaled? negative (hregister hlead) ?_
    rw [hshift]
    generalize (rest.foldl Significand.pushFraction ⟨lead, 0, false⟩).value = v at hcollected
    rw [hbehind] at hcollected
    have hexponent : ((0 : ℤ) - j + (some (point - 1)).getD 0)
        = (rest.length - j : ℕ) + (point - (lead :: rest).length) := by
      rw [List.length_cons, Nat.cast_sub hj]
      simp only [Option.getD_some]
      push_cast
      ring
    have hcast : (v : ℚ) * 10 ^ (rest.length - j) ≤ m := by exact_mod_cast hcollected
    rw [hexponent, zpow_add₀ (by norm_num), zpow_natCast, ← mul_assoc]
    exact (mul_le_mul_of_nonneg_right hcast (zpow_nonneg (by norm_num) _)).trans (hvalue ▸ hle)

/-- The text of a finite double: a zero has no sign, any other number is a decimal. -/
theorem text_guest {x : Float} {d : Handheld.Number.Dyadic} (hx : Parts.ofFloat x = .finite d) :
    (Layout.guest.text x).toList = if d.mantissa = 0 then ['0']
      else minus d.negative ++ (Layout.guest.write d.shortest).toList := by
  unfold Layout.text
  rw [hx]
  dsimp only
  split
  · rw [if_neg (fun h => Bool.false_ne_true h.2)]
    rfl
  · rw [String.toList_append]
    cases d.negative <;> rfl

/-- A double that is not the greatest one has its upper end below. -/
theorem upperEnd_le {d : Handheld.Number.Dyadic} (hmantissa : d.mantissa < 2 ^ 53)
    (hexponent : d.exponent ≤ 971) (hless : ¬(d.mantissa = 2 ^ 53 - 1 ∧ d.exponent = 971)) :
    (d.mantissa + 1 / 2) * (2 : ℚ) ^ d.exponent ≤ greatestDecimal := by
  have hdecimal : (greatestDecimal : ℚ) = (2 ^ 54 - 3) * 2 ^ (970 : ℤ) := by
    rw [greatestDecimal, Nat.cast_mul, Nat.cast_sub (by decide), zpow_ofNat]
    simp only [Nat.cast_pow, Nat.cast_ofNat]
  have hunit : (0 : ℚ) < 2 ^ (970 : ℤ) := zpow_pos (by norm_num) _
  have htop : d.exponent = 971 → (2 : ℚ) ^ d.exponent = 2 ^ (970 : ℤ) * 2 := by
    intro heq
    rw [heq]
    exact zpow_add_one₀ (by norm_num) 970
  have hbelow : d.exponent ≠ 971 → (2 : ℚ) ^ d.exponent ≤ 2 ^ (970 : ℤ) := fun hne =>
    zpow_le_zpow_right₀ (by norm_num) (by omega)
  rw [hdecimal]
  clear hdecimal
  generalize (2 : ℚ) ^ (970 : ℤ) = unit at hunit htop hbelow
  have hcast : ∀ k : ℕ, d.mantissa + k ≤ 2 ^ 53 → (d.mantissa : ℚ) + k ≤ 2 ^ 53 := by
    intro k hk
    exact_mod_cast hk
  rcases eq_or_ne d.exponent 971 with heq | hne
  · have hm := hcast 2 (by omega)
    rw [htop heq]
    calc (d.mantissa + 1 / 2) * (unit * 2) = (2 * d.mantissa + 1) * unit := by ring
      _ ≤ (2 ^ 54 - 3) * unit := mul_le_mul_of_nonneg_right (by push_cast at hm; linarith) hunit.le
  · have hm := hcast 1 (by omega)
    calc (d.mantissa + 1 / 2) * (2 : ℚ) ^ d.exponent
        ≤ (d.mantissa + 1 / 2) * unit := mul_le_mul_of_nonneg_left (hbelow hne) (by positivity)
      _ ≤ (2 ^ 54 - 3) * unit := mul_le_mul_of_nonneg_right (by push_cast at hm; linarith) hunit.le

/-- The two doubles of the greatest size are copied, although rounding is close to the bound. -/
theorem isSome_greatest (negative : Bool) : (number? (minus negative ++
    (Layout.guest.write (Handheld.Number.Dyadic.shortest
      ⟨negative, 2 ^ 53 - 1, 971⟩)).toList)).isSome = true := by
  cases negative <;> decide +kernel

theorem isSome_fallback (negative : Bool) :
    (number? (minus negative ++ (Layout.guest.write ⟨[0], 0⟩).toList)).isSome = true := by
  cases negative <;> decide +kernel

/-- Every finite double is copied. -/
theorem isSome_copied {x : Float} {q : ℚ} (h : toRat? x = some q) :
    (Number.copied x).isSome = true := by
  cases hx : Parts.ofFloat x with
  | infinite s => simp [toRat?, hx] at h
  | nan => simp [toRat?, hx] at h
  | finite d =>
    obtain ⟨hmantissa, -, hexponent, -⟩ := Handheld.Number.bounds_of_finite hx
    rw [Number.copied, text_guest hx, Option.isSome_map]
    split
    · decide +kernel
    · rename_i hm
      by_cases hgreatest : d.mantissa = 2 ^ 53 - 1 ∧ d.exponent = 971
      · have hd : d = ⟨d.negative, 2 ^ 53 - 1, 971⟩ := by
          rw [← hgreatest.1, ← hgreatest.2]
        rw [hd]
        exact isSome_greatest d.negative
      · rcases Handheld.Number.shortest_le (Nat.pos_of_ne_zero hm) with
          hend | ⟨n, step, hn, hgrid, hle⟩
        · rw [hend]
          exact isSome_fallback d.negative
        · rw [hgrid]
          exact isSome_write_ofGrid d.negative hn
            (hle.trans (upperEnd_le hmantissa hexponent hgreatest))

/-! ### Whole numbers -/

theorem behind_append (n : ℕ) (digits digits' : List ℕ) :
    behind n (digits ++ digits') = behind (behind n digits) digits' := List.foldl_append

theorem behind_zeros (n k : ℕ) : behind n (List.replicate k 0) = n * 10 ^ k := by
  induction k generalizing n with
  | zero => simp [behind]
  | succ k ih => rw [List.replicate_succ, behind_cons, ih, pow_succ', Nat.add_zero, mul_assoc]

/-- The text of a whole number that is written as a point of a grid is read as that number. -/
theorem number?_write_whole (negative : Bool) {n k v : ℕ} (hn : n ≠ 0) (hvalue : n * 10 ^ k = v)
    (hsmall : v < 2 ^ 53) :
    number? (minus negative ++ (Layout.guest.write (.ofGrid n k)).toList)
      = some (.whole (if negative then -v else v), []) := by
  obtain ⟨m, j, hm, hj, hgrid⟩ := Handheld.Number.ofGrid_eq hn k
  have hvalue' : m * 10 ^ (j + k) = v := by rw [pow_add, ← mul_assoc, ← hj, hvalue]
  have hlength : (digitsOf m).length + (j + k) ≤ 16 := by
    rw [← Handheld.Number.length_digitsOf_mul hm, hvalue',
      Handheld.Number.length_digitsOf_le_iff (by decide)]
    exact hsmall.trans (by decide)
  have hplaces : ((digitsOf m).length + j + k - (digitsOf m).length : ℤ).toNat = j + k := by omega
  have hv : v ≠ 0 := by
    rw [← hvalue]
    exact Nat.mul_ne_zero hn (Nat.pow_pos (by decide)).ne'
  have hcollected : behind 0 (digitsOf m ++ List.replicate (j + k) 0) = v := by
    rw [behind_append, behind_zeros, ← hvalue']
    exact congrArg (· * 10 ^ (j + k)) (Handheld.Number.valueOf_digitsOf m)
  have hfits : behind 0 (digitsOf m ++ List.replicate (j + k) 0) ≤ greatestRegister := by
    rw [hcollected]
    exact hsmall.le.trans (by decide)
  rw [hgrid, write_guest_whole (by dsimp only; omega) (by dsimp only; omega)]
  dsimp only
  rw [hplaces, number?_digits negative (leading_zeros hm (j + k)), foldl_pushWhole_exact hfits,
    hcollected]
  unfold wholeNumber?
  dsimp only
  rw [if_neg Bool.false_ne_true]
  cases negative with
  | false => rfl
  | true =>
    rw [if_pos rfl, if_neg (by omega), if_pos rfl]
    rfl

/-- A whole number below `2 ^ 53` is copied as it is. -/
theorem copied_whole {x : Float} {v : ℤ} (h : toRat? x = some (v : ℚ))
    (hsmall : v.natAbs < 2 ^ 53) : Number.copied x = some (.whole v) := by
  cases hx : Parts.ofFloat x with
  | infinite s => simp [toRat?, hx] at h
  | nan => simp [toRat?, hx] at h
  | finite d =>
    have hrat : d.toRat = v := by simpa [toRat?, hx] using h
    rw [Number.copied, text_guest hx]
    split
    · rename_i hzero
      have hv : v = 0 := by
        have hsigned : d.signedMantissa = 0 := by
          rw [← Int.natAbs_eq_zero, Handheld.Number.Dyadic.natAbs_signedMantissa, hzero]
        rw [Handheld.Number.Dyadic.toRat, hsigned, Int.cast_zero, zero_mul] at hrat
        exact_mod_cast hrat.symm
      subst hv
      rfl
    · rename_i hm
      obtain ⟨-, -, -, hbits⟩ := Handheld.Number.bounds_of_finite hx
      have hpos : (0 : ℚ) < d.mantissa * 2 ^ d.exponent :=
        mul_pos (Nat.cast_pos.mpr (Nat.pos_of_ne_zero hm)) (zpow_pos (by norm_num) _)
      obtain ⟨hsign, hvalue⟩ : v = (if d.negative then -(v.natAbs : ℤ) else v.natAbs) ∧
          d.mantissa * (2 : ℚ) ^ d.exponent = (v.natAbs : ℕ) := by
        unfold Handheld.Number.Dyadic.toRat Handheld.Number.Dyadic.signedMantissa at hrat
        cases hnegative : d.negative with
        | false =>
          rw [hnegative, if_neg Bool.false_ne_true, Int.cast_natCast] at hrat
          have hv : 0 < v := by
            rw [hrat] at hpos
            exact_mod_cast hpos
          have habs : (v.natAbs : ℤ) = v := by omega
          have hcast : ((v.natAbs : ℤ) : ℚ) = v := by rw [habs]
          rw [Int.cast_natCast] at hcast
          exact ⟨habs.symm, hrat.trans hcast.symm⟩
        | true =>
          rw [hnegative, if_pos rfl, Int.cast_neg, Int.cast_natCast, neg_mul] at hrat
          have hq : d.mantissa * (2 : ℚ) ^ d.exponent = ((-v : ℤ) : ℚ) := by
            push_cast
            linarith
          have hv : 0 < -v := by
            rw [hq] at hpos
            exact_mod_cast hpos
          have habs : (v.natAbs : ℤ) = -v := by omega
          refine ⟨by rw [if_pos rfl, habs, neg_neg], hq.trans ?_⟩
          rw [← habs, Int.cast_natCast]
      have hv : v.natAbs ≠ 0 := by
        rintro hzero
        rw [hvalue, hzero] at hpos
        simp at hpos
      -- a double with a positive exponent has all of its bits before the point
      have hexponent : d.exponent ≤ 0 := by
        by_contra hlarge
        have hfull : (2 : ℚ) ^ 52 ≤ d.mantissa := by
          exact_mod_cast hbits.resolve_right (by omega)
        have htwo : (2 : ℚ) ^ (1 : ℤ) ≤ 2 ^ d.exponent :=
          zpow_le_zpow_right₀ (by norm_num) (by omega)
        have hbeyond : (2 : ℚ) ^ 52 * 2 ^ (1 : ℤ) ≤ v.natAbs := by
          rw [← hvalue]
          exact mul_le_mul hfull htwo (by positivity) (Nat.cast_nonneg _)
        have hbelow : (v.natAbs : ℚ) < 2 ^ 53 := by exact_mod_cast hsmall
        norm_num at hbeyond hbelow
        linarith
      obtain ⟨n, k, hn, hshortest, heq⟩ :=
        Handheld.Number.shortest_whole hv hsmall hvalue hexponent
      rw [hshortest, number?_write_whole d.negative hn heq hsmall, ← hsign]
      rfl

/-! ### Signs -/

/-- What is negated is not above zero. -/
theorem nonpos_of_neg {x : Float} (hx : isNegative x = false) {r : ℚ}
    (hr : toRat? (-x) = some r) : r ≤ 0 := by
  have := Handheld.Number.nonneg_of_isNegative hx (Handheld.Number.toRat?_of_neg hr)
  linarith

theorem nonpos_of_scaled? {n : ℕ} {e : ℤ} {y : Float} (h : scaled? true n e = some y) {r : ℚ}
    (hr : toRat? y = some r) : r ≤ 0 := by
  unfold scaled? at h
  obtain ⟨x, hx, rfl⟩ := Option.map_eq_some_iff.mp h
  exact nonpos_of_neg (isNegative_scaleFloat? 4 (isNegative_ofWhole n) hx) hr

theorem nonpos_of_wholeNumber? {s : Significand} {n : Number} (h : wholeNumber? true s = some n)
    {r : ℚ} (hr : toRat? n.toFloat = some r) : r ≤ 0 := by
  unfold wholeNumber? at h
  split at h
  · obtain ⟨y, hy, rfl⟩ := Option.map_eq_some_iff.mp h
    exact nonpos_of_scaled? hy hr
  · rw [if_pos rfl] at h
    split at h
    · cases h
      exact nonpos_of_neg (isNegative_ofWhole s.value) hr
    · rename_i hfits
      cases h
      rw [not_or] at hfits
      have hlog : s.value.log2 < 64 := (Nat.log2_lt hfits.1).mpr (by omega)
      have hnegative : toRat? (ofWhole (-s.value)) = some r := hr
      rw [Handheld.Number.toRat?_ofWhole_negative hfits.1 (by omega)] at hnegative
      obtain ⟨q, hq, rfl⟩ := Option.map_eq_some_iff.mp hnegative
      have := Handheld.Number.nonneg_of_isNegative (isNegative_ofWhole s.value) hq
      linarith

/-- A number that is written with a minus is not above zero. -/
theorem nonpos_of_minus {cs rest : List Char} {n : Number}
    (h : number? ('-' :: cs) = some (n, rest)) {r : ℚ} (hr : toRat? n.toFloat = some r) : r ≤ 0 := by
  rw [number?_minus] at h
  unfold afterSign? at h
  simp only [bind, Option.bind_eq_some_iff] at h
  obtain ⟨-, -, -, -, -, -, ⟨exponent, rest'⟩, -, h⟩ := h
  -- behind a point or an exponent there is a scaled significand, and a whole number otherwise
  split at h
  · obtain ⟨y, hy, h⟩ := Option.bind_eq_some_iff.mp h
    cases h
    exact nonpos_of_scaled? hy hr
  · split at h
    · obtain ⟨n', hn, h⟩ := Option.bind_eq_some_iff.mp h
      cases h
      exact nonpos_of_wholeNumber? hn hr
    · obtain ⟨y, hy, h⟩ := Option.bind_eq_some_iff.mp h
      cases h
      exact nonpos_of_scaled? hy hr

/-- A negative number is not copied above zero. -/
theorem nonpos_of_copied {x : Float} {q : ℚ} (hx : toRat? x = some q) (hq : q < 0) {n : Number}
    (hn : Number.copied x = some n) {r : ℚ} (hr : toRat? n.toFloat = some r) : r ≤ 0 := by
  cases hparts : Parts.ofFloat x with
  | infinite s => simp [toRat?, hparts] at hx
  | nan => simp [toRat?, hparts] at hx
  | finite d =>
    have hrat : d.toRat = q := by simpa [toRat?, hparts] using hx
    have hsigned : ¬0 ≤ d.signedMantissa := by
      rw [← d.toRat_nonneg_iff, hrat]
      exact not_le.mpr hq
    rw [d.signedMantissa_nonneg_iff, not_not] at hsigned
    rw [Number.copied, text_guest hparts, if_neg hsigned.2, hsigned.1] at hn
    obtain ⟨⟨n', rest⟩, hread, rfl⟩ := Option.map_eq_some_iff.mp hn
    exact nonpos_of_minus hread hr

end Handheld.Json
