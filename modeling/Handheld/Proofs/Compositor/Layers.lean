import Handheld.Compositor
import Handheld.Proofs.Atlas.Rasterize
import Handheld.Proofs.Display.Contents
import Handheld.Proofs.Number.Fraction

/-!
# The layers of a picture

A picture is painted from the bottom up, sprite after sprite and tile after tile. What it shows at
a point can be looked up without painting: the pixel of the topmost sprite that is seen there,
else that of the tile, else the background. The look-up shares no step with the painter. It reads
the atlas, the slots, the cells and the colors, and takes a coordinate for the rational number
that it is.

* `cornerOf`, `opaqueAt?`, `cellAt?`, `spriteAt?`, `tileAt?`, `backdrop`, `pixelAt`: the look-up;
* `pixelOf_eq`, `opaqueAt?_eq`, `backgroundColor_eq`: the painter's readings are those;
* `get?_foldl_draw`: what is drawn later lies on top;
* `get?_drawGame`: the painted picture shows what the look-up says;
* `alpha_pixelAt`: with an atlas of sprites there are no holes in it.
-/

namespace Handheld.Scene

/-! ### Looking pixels up -/

/-- The pixel that a coordinate names: the whole number nearest to it, a half going away from zero,
or the end of the 32-bit range that it lies beyond. NaN names pixel 0. -/
def cornerOf (x : Float32) : Int :=
  match Number.Parts.ofSingle x with
  | .finite d => max (-2147483648) (min 2147483647 (Number.roundAway d.toRat))
  | .infinite negative => if negative then -2147483648 else 2147483647
  | .nan => 0

/-- What is seen at a point of the cell of a sprite. -/
def opaqueAt? (atlas : Atlas) (index x y : Nat) : Option Rgba :=
  if index < atlas.count then
    (atlas.image.get? (index % (atlas.size.pixels / 8) * 8 + x)
      (index / (atlas.size.pixels / 8) * 8 + y)).filter fun c => c.alpha ≠ 0
  else none

/-- What is seen at a point of a sprite of the atlas that is drawn with its corner at a place. -/
def cellAt? (atlas : Atlas) (index : Nat) (left top : Int) (x y : Nat) : Option Rgba :=
  if left ≤ x ∧ x < left + 8 ∧ top ≤ y ∧ y < top + 8 then
    opaqueAt? atlas index (x - left).toNat (y - top).toNat
  else none

/-- What is seen at a point of a placed sprite. -/
def placedAt? (s : Scene) (p : Placement) (x y : Nat) : Option Rgba :=
  cellAt? s.atlas p.sprite (cornerOf p.x) (cornerOf p.y) x y

/-- What is seen of the sprites at a point: the one in the last slot lies on top. -/
def spriteAt? (s : Scene) (x y : Nat) : Option Rgba :=
  (List.range 64).reverse.findSome? fun slot =>
    (s.display.slot? slot).bind fun p => s.placedAt? p x y

/-- What is seen of the tiles at a point. -/
def tileAt? (s : Scene) (x y : Nat) : Option Rgba :=
  (s.display.tile? (x / 8 : Nat) (y / 8 : Nat)).bind fun tile =>
    opaqueAt? s.atlas tile (x % 8) (y % 8)

/-- What is seen where nothing is drawn: the color that the palette has for the background, and
black if it has none. -/
def backdrop (s : Scene) : Rgba :=
  let color : Nat :=
    if 0 ≤ s.display.background then s.palette.colors[s.display.background.toNat]?.getD 0 else 0
  ⟨UInt8.ofNat (color / 65536), UInt8.ofNat (color / 256), UInt8.ofNat color, 255⟩

/-- What the game shows at a point. -/
def pixelAt (s : Scene) (x y : Nat) : Rgba :=
  ((s.spriteAt? x y).or (s.tileAt? x y)).getD s.backdrop

/-- A search from the end finds the last one. -/
theorem findSome?_reverse_range {β : Type} (f : Nat → Option β) (n : Nat) (b : β) :
    (List.range n).reverse.findSome? f = some b ↔
      ∃ i, i < n ∧ f i = some b ∧ ∀ j, i < j → j < n → f j = none := by
  induction n with
  | zero => simp
  | succ n ih =>
    rw [List.range_succ, List.reverse_append, List.reverse_singleton, List.singleton_append,
      List.findSome?_cons]
    cases hlast : f n with
    | some c =>
      constructor
      · rintro ⟨⟩
        exact ⟨n, Nat.lt_succ_self n, hlast, fun j hj hn => by omega⟩
      · rintro ⟨i, hi, hfound, habove⟩
        rcases Nat.lt_succ_iff_lt_or_eq.mp hi with hlt | rfl
        · rw [habove n hlt (Nat.lt_succ_self n)] at hlast
          cases hlast
        · exact hlast.symm.trans hfound
    | none =>
      simp only
      rw [ih]
      constructor
      · rintro ⟨i, hi, hfound, habove⟩
        refine ⟨i, by omega, hfound, fun j hj hn => ?_⟩
        rcases Nat.lt_succ_iff_lt_or_eq.mp hn with hlt | rfl
        · exact habove j hj hlt
        · exact hlast
      · rintro ⟨i, hi, hfound, habove⟩
        rcases Nat.lt_succ_iff_lt_or_eq.mp hi with hlt | rfl
        · exact ⟨i, hlt, hfound, fun j hj hn => habove j hj (by omega)⟩
        · rw [hlast] at hfound
          cases hfound

/-- A sprite is seen at a point if the sprites of all later slots leave it free. -/
theorem spriteAt?_eq_some_iff (s : Scene) (x y : Nat) (c : Rgba) :
    s.spriteAt? x y = some c ↔
      ∃ slot, slot < 64 ∧
        (∃ p, s.display.slot? slot = some p ∧ s.placedAt? p x y = some c) ∧
        ∀ above, slot < above → above < 64 →
          ∀ p, s.display.slot? above = some p → s.placedAt? p x y = none := by
  unfold spriteAt?
  simp only [findSome?_reverse_range, Option.bind_eq_some_iff, Option.bind_eq_none_iff]

/-! ### What the painter reads -/

theorem pixelOf_eq (x : Float32) : Number.pixelOf x = cornerOf x := by
  unfold Number.pixelOf cornerOf
  cases Number.Parts.ofSingle x with
  | finite d => simp only [Number.saturate32, Number.clamp, d.nearest_eq]
  | infinite negative => rfl
  | nan => rfl

theorem backgroundColor_eq (s : Scene) : s.backgroundColor = s.backdrop := rfl

theorem opaqueAt?_eq (atlas : Atlas) (index : Nat) {x y : Nat} (hx : x < cellSide)
    (hy : y < cellSide) : opaqueAt? atlas index x y = visible? atlas index x y := by
  unfold opaqueAt? visible?
  rw [atlas.spritePixel?_eq]
  by_cases hcount : index < atlas.count
  · rw [if_pos hcount, if_pos ⟨hcount, hx, hy⟩]
    rfl
  · rw [if_neg hcount, if_neg fun h => hcount h.1]
    rfl

/-! ### Drawing -/

theorem get?_drawCell (atlas : Atlas) {screen : Image} (index : Nat) (left top : Int) {x y : Nat}
    (hx : x < screen.width) (hy : y < screen.height) :
    (drawCell atlas screen index left top).get? x y =
      (cellAt? atlas index left top x y).or (screen.get? x y) := by
  have hside : (cellSide : Int) = 8 := rfl
  unfold drawCell cellAt?
  split
  · rw [Image.get?_stamp, hside]
    by_cases hin : left ≤ x ∧ x < left + 8 ∧ top ≤ y ∧ y < top + 8
    · rw [if_pos hin, if_pos ⟨hin.1, hin.2.1, hin.2.2.1, hin.2.2.2, hx, hy⟩,
        opaqueAt?_eq atlas index (by omega) (by omega)]
    · rw [if_neg hin, if_neg fun h => hin ⟨h.1, h.2.1, h.2.2.1, h.2.2.2.1⟩]
      rfl
  · rename_i hcount
    have hnone : opaqueAt? atlas index (x - left).toNat (y - top).toNat = none := if_neg hcount
    rw [hnone, ite_self]
    rfl

theorem size_drawCell (atlas : Atlas) (screen : Image) (index : Nat) (left top : Int) :
    (drawCell atlas screen index left top).width = screen.width ∧
      (drawCell atlas screen index left top).height = screen.height := by
  unfold drawCell
  split
  · exact ⟨Image.width_stamp _ _ _ _ _ _, Image.height_stamp _ _ _ _ _ _⟩
  · exact ⟨rfl, rfl⟩

section

variable {α : Type} {draw : Image → α → Image}
  (hsize : ∀ img a, (draw img a).width = img.width ∧ (draw img a).height = img.height)

include hsize

theorem size_foldl_draw (items : List α) (img : Image) :
    (items.foldl draw img).width = img.width ∧ (items.foldl draw img).height = img.height := by
  induction items generalizing img with
  | nil => exact ⟨rfl, rfl⟩
  | cons a items ih =>
    obtain ⟨hwidth, hheight⟩ := ih (draw img a)
    exact ⟨hwidth.trans (hsize img a).1, hheight.trans (hsize img a).2⟩

/-- What is drawn later lies on top. -/
theorem get?_foldl_draw (seen : α → Option Rgba) {x y : Nat}
    (hdraw : ∀ img a, x < img.width → y < img.height →
      (draw img a).get? x y = (seen a).or (img.get? x y))
    (items : List α) {img : Image} (hx : x < img.width) (hy : y < img.height) :
    (items.foldl draw img).get? x y = (items.reverse.findSome? seen).or (img.get? x y) := by
  induction items generalizing img with
  | nil => rfl
  | cons a items ih =>
    rw [List.foldl_cons, ih ((hsize img a).1 ▸ hx) ((hsize img a).2 ▸ hy), hdraw img a hx hy,
      List.reverse_cons, List.findSome?_append, Option.or_assoc, List.findSome?_cons]
    cases seen a <;> rfl

end

variable (s : Scene) {screen : Image}

theorem size_drawTiles (screen : Image) :
    (s.drawTiles screen).width = screen.width ∧ (s.drawTiles screen).height = screen.height :=
  size_foldl_draw (fun img _ => size_drawCell s.atlas img _ _ _) _ screen

theorem size_drawSprites (screen : Image) :
    (s.drawSprites screen).width = screen.width ∧ (s.drawSprites screen).height = screen.height :=
  size_foldl_draw (fun img _ => size_drawCell s.atlas img _ _ _) _ screen

theorem size_drawGame (screen : Image) :
    (s.drawGame screen).width = screen.width ∧ (s.drawGame screen).height = screen.height :=
  ⟨(s.size_drawSprites _).1.trans (s.size_drawTiles screen).1,
    (s.size_drawSprites _).2.trans (s.size_drawTiles screen).2⟩

theorem get?_drawSprites {x y : Nat} (hx : x < screen.width) (hy : y < screen.height) :
    (s.drawSprites screen).get? x y = (s.spriteAt? x y).or (screen.get? x y) := by
  unfold drawSprites
  rw [get?_foldl_draw (fun img _ => size_drawCell s.atlas img _ _ _)
    (fun e => cellAt? s.atlas e.2.sprite (Number.pixelOf e.2.x) (Number.pixelOf e.2.y) x y)
    (fun img e hx hy => get?_drawCell s.atlas e.2.sprite _ _ hx hy) _ hx hy,
    Display.findSome?_sprites]
  simp only [pixelOf_eq]
  rfl

/-- A cell of the grid is seen at the points that lie in it. -/
theorem cellAt?_tile (atlas : Atlas) (index column line x y : Nat) :
    cellAt? atlas index (column * 8 : Nat) (line * 8 : Nat) x y =
      if (column, line) = (x / 8, y / 8) then opaqueAt? atlas index (x % 8) (y % 8)
      else none := by
  have hcell : (column, line) = (x / 8, y / 8) ↔
      ((column * 8 : Nat) : Int) ≤ x ∧ x < ((column * 8 : Nat) : Int) + 8 ∧
        ((line * 8 : Nat) : Int) ≤ y ∧ y < ((line * 8 : Nat) : Int) + 8 := by
    rw [Prod.mk.injEq]
    omega
  unfold cellAt?
  by_cases hin : (column, line) = (x / 8, y / 8)
  · obtain ⟨rfl, rfl⟩ := Prod.mk.injEq .. ▸ hin
    have hx : ((x : Int) - (x / 8 * 8 : Nat)).toNat = x % 8 := by omega
    have hy : ((y : Int) - (y / 8 * 8 : Nat)).toNat = y % 8 := by omega
    rw [if_pos (hcell.mp hin), if_pos hin, hx, hy]
  · rw [if_neg fun h => hin (hcell.mpr h), if_neg hin]

theorem get?_drawTiles {x y : Nat} (hwidth : screen.width = s.side)
    (hheight : screen.height = s.side) (hx : x < s.side) (hy : y < s.side) :
    (s.drawTiles screen).get? x y = (s.tileAt? x y).or (screen.get? x y) := by
  have hcolumn : x / 8 < s.display.grid.cells := Nat.div_lt_of_lt_mul (Nat.mul_comm .. ▸ hx)
  have hline : y / 8 < s.display.grid.cells := Nat.div_lt_of_lt_mul (Nat.mul_comm .. ▸ hy)
  unfold drawTiles
  rw [get?_foldl_draw (fun img _ => size_drawCell s.atlas img _ _ _)
    (fun t => cellAt? s.atlas t.2 (t.1.1 * 8 : Nat) (t.1.2 * 8 : Nat) x y)
    (fun img t hx hy => get?_drawCell s.atlas t.2 _ _ hx hy) _ (hwidth ▸ hx) (hheight ▸ hy),
    Display.findSome?_tiles s.display hcolumn hline]
  · congr 1
    unfold tileAt?
    congr 1
    funext tile
    rw [cellAt?_tile, if_pos rfl]
  · rintro ⟨column, line⟩ tile hother
    rw [cellAt?_tile, if_neg hother]

/-- The painted picture shows what is seen of the sprites, else of the tiles, else what was on the
screen. -/
theorem get?_drawGame {x y : Nat} (hwidth : screen.width = s.side)
    (hheight : screen.height = s.side) (hx : x < s.side) (hy : y < s.side) :
    (s.drawGame screen).get? x y =
      ((s.spriteAt? x y).or (s.tileAt? x y)).or (screen.get? x y) := by
  obtain ⟨hwidth', hheight'⟩ := s.size_drawTiles screen
  unfold drawGame
  rw [get?_drawSprites s (by omega) (by omega), get?_drawTiles s hwidth hheight hx hy,
    Option.or_assoc]

theorem get?_picture {x y : Nat} (hx : x < s.side) (hy : y < s.side) :
    s.picture.get? x y = some (s.pixelAt x y) := by
  unfold picture pixelAt
  rw [get?_drawGame s rfl rfl hx hy, background, backgroundColor_eq, Image.get?_filled,
    if_pos ⟨hx, hy⟩]
  cases (s.spriteAt? x y).or (s.tileAt? x y) <;> rfl

/-! ### No holes -/

/-- What is seen of an atlas of sprites has full opacity. -/
theorem alpha_opaqueAt? {sprites : List Sprite} {colors : Palette} {size : AtlasSize}
    {index x y : Nat} {c : Rgba} (hx : x < cellSide) (hy : y < cellSide)
    (h : opaqueAt? (.rasterize sprites colors size) index x y = some c) : c.alpha = 255 := by
  rw [opaqueAt?_eq _ index hx hy] at h
  obtain ⟨hpixel, hseen⟩ := Option.filter_eq_some_iff.mp h
  cases hsprite : (sprites.take size.capacity)[index]? with
  | none =>
    have hcount : ¬ index < (Atlas.rasterize sprites colors size).count := by
      rw [List.getElem?_eq_none_iff] at hsprite
      exact Nat.not_lt.mpr hsprite
    rw [Atlas.spritePixel?_eq, if_neg fun h => hcount h.1] at hpixel
    cases hpixel
  | some sprite =>
    rw [Atlas.spritePixel?_rasterize sprites colors size hsprite hx hy] at hpixel
    cases hpixel
    rcases Atlas.alpha_ink colors (sprite.pixel x y) with hzero | hfull
    · rw [hzero] at hseen
      simp at hseen
    · exact hfull

theorem alpha_pixelAt {sprites : List Sprite} {colors : Palette} {size : AtlasSize}
    (hatlas : s.atlas = .rasterize sprites colors size) (x y : Nat) :
    (s.pixelAt x y).alpha = 255 := by
  have hside : cellSide = 8 := rfl
  unfold pixelAt
  cases hsprite : s.spriteAt? x y with
  | some c =>
    obtain ⟨slot, _, ⟨p, _, hplaced⟩, _⟩ := (s.spriteAt?_eq_some_iff x y c).mp hsprite
    unfold placedAt? cellAt? at hplaced
    split at hplaced
    · rename_i hin
      rw [hatlas] at hplaced
      exact alpha_opaqueAt? (by omega) (by omega) hplaced
    · cases hplaced
  | none =>
    cases htile : s.tileAt? x y with
    | some c =>
      obtain ⟨tile, _, hvisible⟩ := Option.bind_eq_some_iff.mp htile
      rw [hatlas] at hvisible
      exact alpha_opaqueAt? (Nat.mod_lt x (by decide)) (Nat.mod_lt y (by decide)) hvisible
    | none => rfl

end Handheld.Scene
