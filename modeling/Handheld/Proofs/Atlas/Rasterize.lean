import Handheld.Atlas

/-!
# What an atlas shows

Every point of an atlas lies in the cell of exactly one number. It shows the sprite of that number
if the atlas holds one, and nothing otherwise.

* `cellOf`, `mem_cell_iff`: the cell that a point lies in;
* `get?_blit`, `get?_rasterize`: the atlas, pixel by pixel;
* `spritePixel?_rasterize`: a held sprite is in the atlas as a whole;
* `Shows`, `shows_rasterize`: what an atlas has to be, and that it is.
-/

namespace Handheld.Atlas

/-! ### Cells -/

/-- The number of the cell that a point lies in. -/
def cellOf (size : AtlasSize) (x y : Nat) : Nat :=
  y / cellSide * size.perRow + x / cellSide

theorem mem_cell_iff {size : AtlasSize} {x : Nat} (hx : x < size.pixels) (y index : Nat) :
    ((corner size index).1 ≤ x ∧ x < (corner size index).1 + cellSide ∧
        (corner size index).2 ≤ y ∧ y < (corner size index).2 + cellSide) ↔
      index = cellOf size x y := by
  have hrow : x / cellSide < size.perRow :=
    Nat.div_lt_of_lt_mul (by rw [Nat.mul_comm, size.perRow_mul_cellSide]; exact hx)
  unfold corner cellOf
  constructor
  · rintro ⟨hleft, hright, htop, hbottom⟩
    have hcolumn : x / cellSide = index % size.perRow := by
      unfold cellSide at *
      omega
    have hline : y / cellSide = index / size.perRow := by
      unfold cellSide at *
      omega
    rw [hcolumn, hline, Nat.div_add_mod']
  · rintro rfl
    have hcolumn : (y / cellSide * size.perRow + x / cellSide) % size.perRow = x / cellSide := by
      rw [Nat.add_comm, Nat.add_mul_mod_self_right, Nat.mod_eq_of_lt hrow]
    have hline : (y / cellSide * size.perRow + x / cellSide) / size.perRow = y / cellSide := by
      rw [Nat.add_comm, Nat.add_mul_div_right _ _ size.perRow_pos, Nat.div_eq_of_lt hrow,
        Nat.zero_add]
    rw [hcolumn, hline]
    unfold cellSide
    omega

/-- A point of a cell that is held lies in the atlas. -/
theorem corner_add_lt {size : AtlasSize} {index x y : Nat} (hindex : index < size.capacity)
    (hx : x < cellSide) (hy : y < cellSide) :
    (corner size index).1 + x < size.pixels ∧ (corner size index).2 + y < size.pixels := by
  have hcolumn : index % size.perRow + 1 ≤ size.perRow := Nat.mod_lt index size.perRow_pos
  have hline : index / size.perRow + 1 ≤ size.perRow := Nat.div_lt_of_lt_mul hindex
  have hright := Nat.mul_le_mul_right cellSide hcolumn
  have hbottom := Nat.mul_le_mul_right cellSide hline
  rw [size.perRow_mul_cellSide, Nat.add_mul] at hright hbottom
  unfold corner
  omega

/-! ### Pixels -/

section

variable {size : AtlasSize} {palette : Palette} {image : Image} {x y : Nat}

/-- A sprite is drawn into its cell and leaves the others alone. -/
theorem get?_blit (hwidth : image.width = size.pixels) (hheight : image.height = size.pixels)
    (hx : x < size.pixels) (hy : y < size.pixels) (sprite : Sprite) (index : Nat) :
    (blit size palette image sprite index).get? x y =
      if index = cellOf size x y then
        some (ink palette (sprite.pixel (x % cellSide) (y % cellSide)))
      else image.get? x y := by
  have hcell := mem_cell_iff hx y index
  unfold blit
  rw [Image.get?_stamp, hwidth, hheight]
  by_cases hin : index = cellOf size x y
  · have hpoint := hcell.mpr hin
    have hplace : ((x : Int) - (corner size index).1).toNat = x % cellSide ∧
        ((y : Int) - (corner size index).2).toNat = y % cellSide := by
      simp only [corner, cellSide] at hpoint ⊢
      omega
    rw [if_pos (by omega), if_pos hin, hplace.1, hplace.2, Option.some_or]
  · rw [if_neg (fun hpoint => hin (hcell.mp (by omega))), if_neg hin]

/-- Drawing sprites keeps the size of the image. -/
theorem size_foldl_blit (sprites : List (Sprite × Nat)) (image : Image) :
    (sprites.foldl (fun image s => blit size palette image s.1 s.2) image).width = image.width ∧
      (sprites.foldl (fun image s => blit size palette image s.1 s.2) image).height
        = image.height := by
  induction sprites generalizing image with
  | nil => exact ⟨rfl, rfl⟩
  | cons s sprites ih =>
    have hwidth : (blit size palette image s.1 s.2).width = image.width :=
      Image.width_stamp _ _ _ _ _ _
    have hheight : (blit size palette image s.1 s.2).height = image.height :=
      Image.height_stamp _ _ _ _ _ _
    rw [List.foldl_cons, (ih _).1, (ih _).2, hwidth, hheight]
    exact ⟨rfl, rfl⟩

theorem get?_foldl_blit (hwidth : image.width = size.pixels)
    (hheight : image.height = size.pixels) (hx : x < size.pixels) (hy : y < size.pixels)
    (sprites : List Sprite) (start : Nat) :
    ((sprites.zipIdx start).foldl (fun image s => blit size palette image s.1 s.2) image).get? x y =
      if start ≤ cellOf size x y then
        (sprites[cellOf size x y - start]?.map fun sprite =>
          ink palette (sprite.pixel (x % cellSide) (y % cellSide))).or (image.get? x y)
      else image.get? x y := by
  induction sprites generalizing image start with
  | nil => simp
  | cons sprite sprites ih =>
    have hw : (blit size palette image sprite start).width = size.pixels :=
      (Image.width_stamp _ _ _ _ _ _).trans hwidth
    have hh : (blit size palette image sprite start).height = size.pixels :=
      (Image.height_stamp _ _ _ _ _ _).trans hheight
    rw [List.zipIdx_cons, List.foldl_cons, ih hw hh (start + 1),
      get?_blit hwidth hheight hx hy sprite start]
    rcases Nat.lt_trichotomy start (cellOf size x y) with hlt | heq | hgt
    · have hnext : cellOf size x y - start = cellOf size x y - (start + 1) + 1 := by omega
      rw [if_pos (by omega : start + 1 ≤ cellOf size x y), if_neg (by omega), if_pos (by omega),
        hnext, List.getElem?_cons_succ]
    · rw [if_neg (by omega : ¬ start + 1 ≤ cellOf size x y), if_pos heq, if_pos (by omega),
        ← heq, Nat.sub_self, List.getElem?_cons_zero, Option.map_some, Option.some_or]
    · rw [if_neg (by omega : ¬ start + 1 ≤ cellOf size x y), if_neg (by omega), if_neg (by omega)]

end

variable (sprites : List Sprite) (palette : Palette) (size : AtlasSize)

/-- A point of an atlas shows the sprite of its cell, and nothing if the atlas holds none. -/
theorem get?_rasterize {x y : Nat} (hx : x < size.pixels) (hy : y < size.pixels) :
    (rasterize sprites palette size).image.get? x y =
      some (((sprites.take size.capacity)[cellOf size x y]?.map fun sprite =>
        ink palette (sprite.pixel (x % cellSide) (y % cellSide))).getD .transparent) := by
  unfold rasterize
  simp only
  rw [get?_foldl_blit rfl rfl hx hy, if_pos (Nat.zero_le _), Nat.sub_zero]
  have hempty : (empty size).image.get? x y = some .transparent := by
    rw [empty, Image.get?_filled, if_pos ⟨hx, hy⟩]
  rw [hempty]
  cases (sprites.take size.capacity)[cellOf size x y]? <;> rfl

/-- A held sprite is in the atlas as a whole. -/
theorem spritePixel?_rasterize {index : Nat} {sprite : Sprite}
    (hsprite : (sprites.take size.capacity)[index]? = some sprite) {x y : Nat}
    (hx : x < cellSide) (hy : y < cellSide) :
    (rasterize sprites palette size).spritePixel? index x y =
      some (ink palette (sprite.pixel x y)) := by
  have hcount : index < (sprites.take size.capacity).length :=
    (List.getElem?_eq_some_iff.mp hsprite).1
  have hcapacity : index < size.capacity := by
    rw [List.length_take] at hcount
    omega
  have hcell : (rasterize sprites palette size).cell? index = some (corner size index) :=
    if_pos hcount
  obtain ⟨hright, hbottom⟩ := corner_add_lt hcapacity hx hy
  have hplace : index = cellOf size ((corner size index).1 + x) ((corner size index).2 + y) :=
    (mem_cell_iff hright _ index).mp (by omega)
  have hmod : ((corner size index).1 + x) % cellSide = x ∧
      ((corner size index).2 + y) % cellSide = y := by
    simp only [corner, cellSide] at hx hy ⊢
    omega
  unfold spritePixel?
  rw [hcell]
  simp only [Option.bind_eq_bind, Option.bind_some]
  rw [if_pos ⟨hx, hy⟩, get?_rasterize sprites palette size hright hbottom, ← hplace, hsprite,
    hmod.1, hmod.2]
  rfl

/-! ### The whole atlas -/

/-- Index 0 shows nothing, and every other index its color, black if the palette lacks it. -/
theorem ink_eq (index : Nat) :
    ink palette index =
      if index = 0 then .transparent
      else .opaqueOf (palette.colors[index]?.getD Palette.black) := by
  rw [ink, Palette.rgba, Palette.color, if_pos (Int.natCast_nonneg index), Int.toNat_natCast]

/-- An atlas shows the sprites of a list, each in the cell of its number, and nothing besides. -/
structure Shows (a : Atlas) : Prop where
  count : a.count = min sprites.length size.capacity
  square : a.image.width = size.pixels ∧ a.image.height = size.pixels
  /-- A point shows what the sprite of its cell has there. -/
  point : ∀ x < size.pixels, ∀ y < size.pixels,
    let number : Nat := y / cellSide * size.perRow + x / cellSide
    let index : Nat :=
      (sprites[number]?.map fun sprite => sprite.pixel (x % cellSide) (y % cellSide)).getD 0
    a.image.get? x y = some
      (if a.count ≤ number ∨ index = 0 then .transparent
        else .opaqueOf (palette.colors[index]?.getD Palette.black))
  cell : ∀ number, a.cell? number =
    if number < a.count then
      some (number % size.perRow * cellSide, number / size.perRow * cellSide)
    else none
  inside : ∀ number place, a.cell? number = some place →
    place.1 + cellSide ≤ size.pixels ∧ place.2 + cellSide ≤ size.pixels
  /-- Two cells have no point in common. -/
  apart : ∀ m n p q, a.cell? m = some p → a.cell? n = some q → m ≠ n →
    p.1 + cellSide ≤ q.1 ∨ q.1 + cellSide ≤ p.1 ∨ p.2 + cellSide ≤ q.2 ∨ q.2 + cellSide ≤ p.2
  /-- A pixel of a sprite is the pixel of the image at that place of its cell. -/
  spritePixel : ∀ number x y, a.spritePixel? number x y =
    if number < a.count ∧ x < cellSide ∧ y < cellSide then
      a.image.get? (number % size.perRow * cellSide + x) (number / size.perRow * cellSide + y)
    else none
  /-- Whatever the other sprites are, a held sprite is shown as it is. -/
  whole : ∀ number sprite, number < a.count → sprites[number]? = some sprite →
    ∀ x < cellSide, ∀ y < cellSide,
      a.spritePixel? number x y = some (ink palette (sprite.pixel x y))

/-- Different cells lie in different rows or columns. -/
theorem corner_apart {m n : Nat} (hne : m ≠ n) :
    (corner size m).1 + cellSide ≤ (corner size n).1 ∨
      (corner size n).1 + cellSide ≤ (corner size m).1 ∨
      (corner size m).2 + cellSide ≤ (corner size n).2 ∨
      (corner size n).2 + cellSide ≤ (corner size m).2 := by
  have hplace : m % size.perRow ≠ n % size.perRow ∨ m / size.perRow ≠ n / size.perRow := by
    by_cases hcolumn : m % size.perRow = n % size.perRow
    · refine Or.inr fun hline => hne ?_
      rw [← Nat.div_add_mod m size.perRow, ← Nat.div_add_mod n size.perRow, hcolumn, hline]
    · exact Or.inl hcolumn
  unfold corner cellSide
  omega

theorem spritePixel?_eq (a : Atlas) (number x y : Nat) :
    a.spritePixel? number x y =
      if number < a.count ∧ x < cellSide ∧ y < cellSide then
        a.image.get? ((corner a.size number).1 + x) ((corner a.size number).2 + y)
      else none := by
  unfold spritePixel? cell?
  by_cases hlt : number < a.count
  · simp [hlt]
  · simp [hlt]

/-- Rasterizing is exact: the atlas shows the sprites up to its capacity, all of each and nothing
besides. -/
theorem shows_rasterize : Shows sprites palette size (rasterize sprites palette size) := by
  let a := rasterize sprites palette size
  have hcount : a.count = min sprites.length size.capacity :=
    (count_rasterize sprites palette size).trans (Nat.min_comm _ _)
  have hheld : ∀ number, (sprites.take size.capacity)[number]?
      = if number < a.count then sprites[number]? else none := by
    intro number
    rw [List.getElem?_take, hcount]
    by_cases hroom : number < size.capacity
    · by_cases hlist : number < sprites.length
      · rw [if_pos hroom, if_pos (Nat.lt_min.mpr ⟨hlist, hroom⟩)]
      · rw [if_pos hroom, if_neg (fun h => hlist (Nat.lt_min.mp h).1),
          List.getElem?_eq_none (Nat.not_lt.mp hlist)]
    · rw [if_neg hroom, if_neg (fun h => hroom (Nat.lt_min.mp h).2)]
  have hcell : ∀ number place, a.cell? number = some place →
      number < size.capacity ∧ place = corner size number := by
    intro number place hplace
    unfold cell? at hplace
    split at hplace
    · rename_i hlt
      rw [hcount] at hlt
      exact ⟨(Nat.lt_min.mp hlt).2, (Option.some.inj hplace).symm⟩
    · cases hplace
  constructor
  case count => exact hcount
  case square => exact size_foldl_blit _ _
  case point =>
    intro x hx y hy number index
    refine (get?_rasterize sprites palette size hx hy).trans (congrArg some ?_)
    rw [hheld]
    show ((if number < a.count then sprites[number]? else none).map _).getD _ = _
    by_cases hlt : number < a.count
    · have hlist : number < sprites.length := (Nat.lt_min.mp (hcount ▸ hlt)).1
      have hindex : index = sprites[number].pixel (x % cellSide) (y % cellSide) := by
        show ((sprites[number]?).map _).getD 0 = _
        rw [List.getElem?_eq_getElem hlist]
        rfl
      rw [if_pos hlt, List.getElem?_eq_getElem hlist, Option.map_some, Option.getD_some, ink_eq,
        ← hindex]
      by_cases hzero : index = 0
      · rw [if_pos hzero, if_pos (Or.inr hzero)]
      · rw [if_neg hzero, if_neg (not_or.mpr ⟨Nat.not_le.mpr hlt, hzero⟩)]
    · rw [if_neg hlt, if_pos (Or.inl (Nat.not_lt.mp hlt))]
      rfl
  case cell => exact fun number => rfl
  case inside =>
    intro number place hplace
    obtain ⟨hroom, rfl⟩ := hcell number place hplace
    have hlast := corner_add_lt hroom (show 7 < cellSide by decide) (show 7 < cellSide by decide)
    unfold cellSide
    omega
  case apart =>
    intro m n p q hp hq hne
    obtain ⟨-, rfl⟩ := hcell m p hp
    obtain ⟨-, rfl⟩ := hcell n q hq
    exact corner_apart size hne
  case spritePixel => exact a.spritePixel?_eq
  case whole =>
    intro number sprite hlt hsprite x hx y hy
    refine spritePixel?_rasterize sprites palette size ?_ hx hy
    rw [hheld, if_pos hlt, hsprite]

/-- A pixel that an atlas shows has full opacity. -/
theorem alpha_ink (index : Nat) : (ink palette index).alpha = 0 ∨ (ink palette index).alpha = 255 := by
  unfold ink
  split
  · exact Or.inl rfl
  · exact Or.inr rfl

end Handheld.Atlas
