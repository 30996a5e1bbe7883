import Handheld.Proofs.Compositor.Layers

/-!
# Drawing within bounds

Drawing leaves out what lies off the screen. So a painter that may read no pixel outside of the
atlas and write none outside of the screen draws every picture to its end, wherever its sprites
are, and draws the same.

* `Image.put?`, `drawPixel?`, `drawCell?`, `drawGame?`: drawing that fails at the first pixel that
  is out of bounds;
* `drawGame?_eq`: with an atlas of sprites it never fails.
-/

namespace Handheld

/-- Writes a pixel, and fails outside of the image. -/
def Image.put? (img : Image) (x y : Nat) (color : Rgba) : Option Image :=
  if x < img.width ∧ y < img.height then some (img.set x y color) else none

namespace Scene

/-! ### Strict drawing -/

/-- Draws a pixel of a sprite if it lies on the screen and shows something. -/
def drawPixel? (atlas : Atlas) (index : Nat) (left top : Int) (screen : Image) (x y : Nat) :
    Option Image :=
  if 0 ≤ left + x ∧ 0 ≤ top + y ∧ left + x < screen.width ∧ top + y < screen.height then do
    let pixel ← atlas.image.get? ((Atlas.corner atlas.size index).1 + x)
      ((Atlas.corner atlas.size index).2 + y)
    if pixel.alpha = 0 then some screen else screen.put? (left + x).toNat (top + y).toNat pixel
  else some screen

/-- Draws a sprite of the atlas pixel by pixel. -/
def drawCell? (atlas : Atlas) (screen : Image) (index : Nat) (left top : Int) : Option Image :=
  if index < atlas.count then
    (List.range cellSide).foldlM
      (fun screen y => (List.range cellSide).foldlM
        (fun screen x => drawPixel? atlas index left top screen x y) screen)
      screen
  else some screen

def drawTiles? (s : Scene) (screen : Image) : Option Image :=
  s.display.tiles.foldlM
    (fun screen t =>
      drawCell? s.atlas screen t.2 (t.1.1 * cellSide : Nat) (t.1.2 * cellSide : Nat))
    screen

def drawSprites? (s : Scene) (screen : Image) : Option Image :=
  s.display.sprites.foldlM
    (fun screen p =>
      drawCell? s.atlas screen p.2.sprite (Number.pixelOf p.2.x) (Number.pixelOf p.2.y))
    screen

/-- Draws the game on a screen. -/
def drawGame? (s : Scene) (screen : Image) : Option Image :=
  s.drawTiles? screen >>= s.drawSprites?

/-! ### It draws to the end -/

/-- A fold that does not fail as long as what it builds keeps a property. -/
theorem foldlM_eq_some_of_kept {α β : Type} (kept : β → Prop) {f : β → α → Option β}
    {g : β → α → β} {items : List α}
    (h : ∀ a ∈ items, ∀ b, kept b → f b a = some (g b a) ∧ kept (g b a)) {b : β} (hb : kept b) :
    items.foldlM f b = some (items.foldl g b) := by
  induction items generalizing b with
  | nil => rfl
  | cons a items ih =>
    obtain ⟨hfirst, hkept⟩ := h a List.mem_cons_self b hb
    rw [List.foldlM_cons, hfirst, List.foldl_cons]
    exact ih (fun a' ha' => h a' (List.mem_cons_of_mem a ha')) hkept

theorem foldlM_eq_some {α β : Type} {f : β → α → Option β} {g : β → α → β} {items : List α}
    (h : ∀ a ∈ items, ∀ b, f b a = some (g b a)) (b : β) :
    items.foldlM f b = some (items.foldl g b) :=
  foldlM_eq_some_of_kept (fun _ => True) (fun a ha b _ => ⟨h a ha b, trivial⟩) trivial

theorem drawPixel?_eq {atlas : Atlas} {index x y : Nat} {pixel : Rgba}
    (hpixel : atlas.image.get? ((Atlas.corner atlas.size index).1 + x)
      ((Atlas.corner atlas.size index).2 + y) = some pixel)
    (left top : Int) (screen : Image) :
    drawPixel? atlas index left top screen x y =
      some (screen.plot (left + x) (top + y) (if pixel.alpha = 0 then none else some pixel)) := by
  unfold drawPixel?
  rw [hpixel]
  simp only [Option.bind_eq_bind, Option.bind_some]
  by_cases halpha : pixel.alpha = 0
  · rw [if_pos halpha, if_pos halpha, ite_self]
    rfl
  · rw [if_neg halpha, if_neg halpha]
    unfold Image.plot Image.put? Image.set
    simp only
    by_cases hon : 0 ≤ left + x ∧ 0 ≤ top + y
    · by_cases hin : left + x < screen.width ∧ top + y < screen.height
      · rw [if_pos ⟨hon.1, hon.2, hin⟩, if_pos hon, if_pos (by omega), if_pos (by omega)]
      · rw [if_neg fun h => hin h.2.2, if_pos hon, if_neg (by omega)]
    · rw [if_neg fun h => hon ⟨h.1, h.2.1⟩, if_neg hon]

section

variable {atlas : Atlas}
  (hheld : ∀ index x y, index < atlas.count → x < cellSide → y < cellSide →
    (atlas.spritePixel? index x y).isSome)

include hheld

theorem drawCell?_eq (screen : Image) (index : Nat) (left top : Int) :
    drawCell? atlas screen index left top = some (drawCell atlas screen index left top) := by
  unfold drawCell? drawCell
  split
  · rename_i hcount
    refine foldlM_eq_some (fun y hy screen => foldlM_eq_some (fun x hx screen => ?_) screen) screen
    rw [List.mem_range] at hx hy
    obtain ⟨pixel, hpixel⟩ := Option.isSome_iff_exists.mp (hheld index x y hcount hx hy)
    have hread : atlas.image.get? ((Atlas.corner atlas.size index).1 + x)
        ((Atlas.corner atlas.size index).2 + y) = some pixel := by
      have hcell : atlas.cell? index = some (Atlas.corner atlas.size index) := if_pos hcount
      unfold Atlas.spritePixel? at hpixel
      rw [hcell] at hpixel
      simp only [Option.bind_eq_bind, Option.bind_some, if_pos (And.intro hx hy)] at hpixel
      exact hpixel
    have hvisible : visible? atlas index x y = if pixel.alpha = 0 then none else some pixel := by
      rw [visible?, hpixel, Option.filter_some]
      by_cases halpha : pixel.alpha = 0 <;> simp [halpha]
    show drawPixel? atlas index left top screen x y
      = some (screen.plot (left + x) (top + y) (visible? atlas index x y))
    rw [drawPixel?_eq hread, hvisible]
  · rfl

end

/-- An atlas of sprites has all pixels of the sprites that it holds. -/
theorem isSome_spritePixel? (sprites : List Sprite) (colors : Palette) (size : AtlasSize)
    {index x y : Nat} (hindex : index < (Atlas.rasterize sprites colors size).count)
    (hx : x < cellSide) (hy : y < cellSide) :
    ((Atlas.rasterize sprites colors size).spritePixel? index x y).isSome := by
  have hsprite : (sprites.take size.capacity)[index]?
      = some ((sprites.take size.capacity).get ⟨index, hindex⟩) := List.getElem?_eq_getElem hindex
  rw [Atlas.spritePixel?_rasterize sprites colors size hsprite hx hy]
  rfl

/-- With an atlas of sprites nothing is drawn or read out of bounds. -/
theorem drawGame?_eq {s : Scene} {sprites : List Sprite} {colors : Palette} {size : AtlasSize}
    (hatlas : s.atlas = .rasterize sprites colors size) (screen : Image) :
    s.drawGame? screen = some (s.drawGame screen) := by
  have hheld : ∀ index x y, index < s.atlas.count → x < cellSide → y < cellSide →
      (s.atlas.spritePixel? index x y).isSome := by
    rw [hatlas]
    exact fun index x y => isSome_spritePixel? sprites colors size
  have hcell := drawCell?_eq hheld
  have htiles : s.drawTiles? screen = some (s.drawTiles screen) :=
    foldlM_eq_some (fun t _ screen => hcell screen t.2 _ _) screen
  have hsprites : s.drawSprites? (s.drawTiles screen) = some (s.drawSprites (s.drawTiles screen)) :=
    foldlM_eq_some (fun p _ screen => hcell screen p.2.sprite _ _) (s.drawTiles screen)
  unfold drawGame? drawGame
  rw [htiles]
  exact hsprites

end Scene

end Handheld
