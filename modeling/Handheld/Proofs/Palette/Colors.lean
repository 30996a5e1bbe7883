import Handheld.Palette
import Handheld.Proofs.Number.Fraction

/-!
# The colors of a list of numbers

A palette is built from any numbers, infinities and NaN among them. It keeps the first sixteen, each
in its place. A number between black and white becomes its whole part, any other one black, and so
does every index that the palette lacks.

A fraction is thus cut, not blackened. The rule that only whole numbers are colors holds of a list
exactly if none of the numbers that are kept is a fraction between 1 and white.

* `namedColor`, `cutColor`: the two rules for a single number;
* `colorOf_eq`: a number becomes its whole part;
* `Follows`: the palette of a list follows a rule;
* `colors_ofNumbers`: which rule is followed, and when the other one is;
* `fraction_cut`: a list that does not follow it.
-/

namespace Handheld.Palette

open Number (toRat?)

/-- A number between black and white, the two among them. -/
def InRange (q : ℚ) : Prop := 0 ≤ q ∧ q ≤ white

instance (q : ℚ) : Decidable (InRange q) := inferInstanceAs (Decidable (0 ≤ q ∧ q ≤ white))

/-- The color that a number is, if it is whole and in range; black otherwise. -/
def namedColor (x : Float) : Nat :=
  match toRat? x with
  | some q => if q.den = 1 ∧ InRange q then q.num.toNat else black
  | none => black

/-- The whole part of a number in range; black otherwise. -/
def cutColor (x : Float) : Nat :=
  match toRat? x with
  | some q => if InRange q then ⌊q⌋.toNat else black
  | none => black

/-- A fraction whose whole part is neither black nor white. -/
def IsCut (x : Float) : Prop := ∃ q, toRat? x = some q ∧ q.den ≠ 1 ∧ 1 < q ∧ q < white

/-- A palette of some numbers: it keeps the first sixteen and has a color for every index, which is
the color that a rule gives the number of the index, and black if there is no such number. -/
structure Follows (rule : Float → Nat) (numbers : List Float) (p : Palette) : Prop where
  size : p.size = min 16 numbers.length
  color : ∀ (i : Nat) (x : Float), i < p.size → numbers[i]? = some x → p.color i = rule x
  beyond : ∀ index : Int, index < 0 ∨ p.size ≤ index → p.color index = 0x000000

/-! ### The color of a number -/

/-- Whether a number is in range, told from its floor and from whether it is whole. -/
theorem inRange_iff {q : ℚ} (hq : 0 ≤ q) :
    InRange q ↔ ⌊q⌋ < white ∨ ⌊q⌋ = white ∧ ∃ n : ℤ, q = n := by
  constructor
  · rintro ⟨-, hle⟩
    rcases lt_or_eq_of_le hle with hlt | heq
    · exact Or.inl (Int.floor_lt.mpr (by exact_mod_cast hlt))
    · exact Or.inr ⟨by rw [heq, Int.floor_natCast], white, by exact_mod_cast heq⟩
  · rintro (hlt | ⟨hfloor, n, rfl⟩)
    · refine ⟨hq, le_of_lt ?_⟩
      have := Int.floor_lt.mp hlt
      exact_mod_cast this
    · rw [Int.floor_intCast] at hfloor
      rw [hfloor] at hq ⊢
      exact ⟨hq, by exact_mod_cast le_refl white⟩

/-- A number becomes its whole part if it is in range, and black if not. -/
theorem colorOf_eq (x : Float) : colorOf x = cutColor x := by
  unfold colorOf cutColor toRat?
  cases Number.Parts.ofFloat x with
  | infinite | nan => rfl
  | finite d =>
    have hsign : (d.negative = true ∧ d.mantissa ≠ 0) ↔ ¬ 0 ≤ d.toRat := by
      rw [d.toRat_nonneg_iff, d.signedMantissa_nonneg_iff, not_not]
    simp only [hsign]
    by_cases hnonneg : 0 ≤ d.toRat
    · have hrange : (d.truncate < white ∨ d.truncate = white ∧ d.isWhole = true) ↔
          InRange d.toRat := by
        rw [d.truncate_eq_floor hnonneg, d.isWhole_iff, inRange_iff hnonneg]
      rw [if_neg (not_not.mpr hnonneg)]
      exact if_congr hrange (by rw [d.truncate_eq_floor hnonneg]) rfl
    · rw [if_pos hnonneg, if_neg fun h => hnonneg h.1]

theorem cutColor_le (x : Float) : cutColor x ≤ white := by
  unfold cutColor
  cases toRat? x with
  | none => exact Nat.zero_le white
  | some q =>
    by_cases hq : InRange q
    · have hfloor : ⌊q⌋ ≤ white := Int.floor_le_iff.mpr (by
        have := hq.2
        push_cast
        linarith)
      simp only [if_pos hq]
      omega
    · simp only [if_neg hq]
      exact Nat.zero_le white

/-- The two rules differ on the fractions that are cut, and on nothing else. -/
theorem cutColor_eq_namedColor_iff (x : Float) : cutColor x = namedColor x ↔ ¬ IsCut x := by
  unfold cutColor namedColor IsCut
  cases toRat? x with
  | none => simp
  | some q =>
    simp only [Option.some.injEq, exists_eq_left']
    by_cases hwhole : q.den = 1
    · have hnum : ⌊q⌋ = q.num := by
        conv_lhs => rw [← (Rat.den_eq_one_iff q).mp hwhole]
        exact Int.floor_intCast q.num
      simp [hnum, hwhole]
    · have hne : ∀ n : ℤ, q ≠ n := fun n hn => hwhole (by rw [hn, Rat.den_intCast])
      -- a fraction is never one of the two ends
      have hone : q ≠ 1 := by exact_mod_cast hne 1
      have hwhite : q ≠ white := by exact_mod_cast hne white
      rw [if_neg (show ¬(q.den = 1 ∧ InRange q) from fun h => hwhole h.1)]
      constructor
      · rintro hblack ⟨-, hlow, hhigh⟩
        have hfloor : 1 ≤ ⌊q⌋ := Int.le_floor.mpr (by exact_mod_cast le_of_lt hlow)
        have hrange : InRange q := ⟨by linarith, le_of_lt hhigh⟩
        rw [if_pos hrange, black] at hblack
        omega
      · intro hkept
        split
        · rename_i hrange
          have hlow : q < 1 := by
            by_contra hge
            refine hkept ⟨hwhole, ?_, lt_of_le_of_ne hrange.2 hwhite⟩
            exact lt_of_le_of_ne (not_lt.mp hge) (Ne.symm hone)
          have hfloor : ⌊q⌋ < 1 := Int.floor_lt.mpr (by exact_mod_cast hlow)
          unfold black
          omega
        · rfl

/-! ### The colors of a list -/

theorem ofNumbers_color (numbers : List Float) (i : Nat) :
    (ofNumbers numbers).color i =
      if i < capacity then (numbers[i]?.map cutColor).getD black else black := by
  have hsanitize : sanitize ∘ colorOf = cutColor := by
    funext x
    rw [Function.comp_apply, colorOf_eq, sanitize, if_neg (Nat.not_lt.mpr (cutColor_le x))]
  rw [ofNumbers, color_ofColors, List.getElem?_map, Option.map_map, hsanitize]

theorem follows_cutColor (numbers : List Float) :
    Follows cutColor numbers (ofNumbers numbers) := by
  have hsize : (ofNumbers numbers).size = min 16 numbers.length := by
    rw [ofNumbers, length_ofColors, List.length_map, capacity]
  constructor
  case size => exact hsize
  case color =>
    intro i x hi hx
    have hcapacity : i < capacity := by
      unfold capacity
      omega
    rw [ofNumbers_color, if_pos hcapacity, hx]
    rfl
  case beyond =>
    rintro index (hneg | hbeyond)
    · exact color_of_neg _ hneg
    · obtain ⟨i, rfl⟩ := Int.eq_ofNat_of_zero_le (Int.le_trans (Int.natCast_nonneg _) hbeyond)
      rw [ofNumbers_color]
      split
      · have hnone : numbers[i]? = none := by
          rw [List.getElem?_eq_none_iff]
          unfold capacity at *
          omega
        rw [hnone]
        rfl
      · rfl

/-- The palette of any list of numbers: its length, the color of every index, and when the colors
are those that are whole numbers in range. -/
theorem colors_ofNumbers (numbers : List Float) :
    Follows cutColor numbers (ofNumbers numbers) ∧
      (Follows namedColor numbers (ofNumbers numbers) ↔
        ∀ x ∈ numbers.take 16, ¬ IsCut x) := by
  have hcut := follows_cutColor numbers
  have hkept : ∀ (i : Nat) (x : Float),
      (numbers.take 16)[i]? = some x ↔ i < (ofNumbers numbers).size ∧ numbers[i]? = some x := by
    intro i x
    rw [hcut.size, List.getElem?_take]
    split
    · refine ⟨fun hx => ⟨?_, hx⟩, And.right⟩
      have := (List.getElem?_eq_some_iff.mp hx).1
      omega
    · simp only [reduceCtorEq, false_iff]
      omega
  simp only [List.mem_iff_getElem?, hkept]
  refine ⟨hcut, fun hnamed x ⟨i, hi, hx⟩ => ?_, fun hnone => ⟨hcut.size, fun i x hi hx => ?_,
    hcut.beyond⟩⟩
  · rw [← cutColor_eq_namedColor_iff, ← hcut.color i x hi hx, hnamed.color i x hi hx]
  · rw [hcut.color i x hi hx, cutColor_eq_namedColor_iff]
    exact hnone x ⟨i, hi, hx⟩

/-- One and a half has the color 1, though it is not whole. -/
theorem fraction_cut :
    (ofNumbers [1.5]).color 0 = 1 ∧ namedColor 1.5 = 0x000000 ∧
      ¬ Follows namedColor [1.5] (ofNumbers [1.5]) := by
  have hcolor : (ofNumbers [1.5]).color 0 = 1 := by decide +kernel
  have hparts : Number.Parts.ofFloat 1.5 = .finite ⟨false, 6755399441055744, -52⟩ := by
    decide +kernel
  have hnumber : toRat? 1.5 = some (3 / 2) := by
    rw [toRat?, hparts]
    norm_num [Number.Dyadic.toRat, Number.Dyadic.signedMantissa]
  have hblack : namedColor 1.5 = 0x000000 := by
    have hden : (3 / 2 : ℚ).den ≠ 1 := by decide +kernel
    rw [namedColor, hnumber]
    exact if_neg fun h => hden h.1
  refine ⟨hcolor, hblack, fun hnamed => ?_⟩
  have hfirst : (ofNumbers [1.5]).color 0 = namedColor 1.5 := hnamed.color 0 1.5 (by decide) rfl
  rw [hcolor, hblack] at hfirst
  exact absurd hfirst (by decide)

end Handheld.Palette
