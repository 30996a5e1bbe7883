import Handheld.Image
import Handheld.Sprite

/-!
# The atlas

The atlas is one image that holds every sprite of the loaded game, each in a cell of its own.
Sprites are addressed by their number alone: sprite `i` lies in column `i mod perRow` and row
`i div perRow`, so no table of places is kept. Sprites beyond the capacity are dropped.

## Main statements

* `count_rasterize`: how many sprites an atlas holds.
-/

namespace Handheld

/-- The two supported sizes of an atlas. -/
inductive AtlasSize
  | small
  | large
  deriving Repr, DecidableEq

namespace AtlasSize

def pixels : AtlasSize → Nat
  | .small => 128
  | .large => 256

def perRow (s : AtlasSize) : Nat := s.pixels / cellSide

/-- The number of sprites that fit. -/
def capacity (s : AtlasSize) : Nat := s.perRow * s.perRow

def ofPixels? (n : Nat) : Option AtlasSize :=
  if n = 128 then some .small else if n = 256 then some .large else none

theorem perRow_pos (s : AtlasSize) : 0 < s.perRow := by
  cases s <;> decide

/-- The cells of a row fill it. -/
theorem perRow_mul_cellSide (s : AtlasSize) : s.perRow * cellSide = s.pixels := by
  cases s <;> rfl

end AtlasSize

/-- An image with a sprite in each of its first cells. -/
structure Atlas where
  size : AtlasSize
  image : Image
  count : Nat
  deriving DecidableEq

namespace Atlas

/-- The atlas without sprites. -/
def empty (size : AtlasSize) : Atlas :=
  ⟨size, .filled size.pixels size.pixels .transparent, 0⟩

def corner (size : AtlasSize) (index : Nat) : Nat × Nat :=
  (index % size.perRow * cellSide, index / size.perRow * cellSide)

/-- The pixel of a palette index in a sprite: index 0 shows nothing. -/
def ink (palette : Palette) (index : Nat) : Rgba :=
  if index = 0 then .transparent else palette.rgba index

/-- Draws a sprite into a cell. -/
def blit (size : AtlasSize) (palette : Palette) (image : Image) (sprite : Sprite) (index : Nat) :
    Image :=
  let place := corner size index
  image.stamp place.1 place.2 cellSide cellSide fun x y => some (ink palette (sprite.pixel x y))

/-- The atlas of some sprites. -/
def rasterize (sprites : List Sprite) (palette : Palette) (size : AtlasSize) : Atlas :=
  let kept := sprites.take size.capacity
  { size := size
    image := kept.zipIdx.foldl (fun image s => blit size palette image s.1 s.2)
      (empty size).image
    count := kept.length }

/-- The corner of the cell of a held sprite. -/
def cell? (a : Atlas) (index : Nat) : Option (Nat × Nat) :=
  if index < a.count then some (corner a.size index) else none

def spritePixel? (a : Atlas) (index x y : Nat) : Option Rgba := do
  let place ← a.cell? index
  if x < cellSide ∧ y < cellSide then a.image.get? (place.1 + x) (place.2 + y) else none

/-- An atlas holds its sprites up to its capacity. -/
theorem count_rasterize (sprites : List Sprite) (palette : Palette) (size : AtlasSize) :
    (rasterize sprites palette size).count = min size.capacity sprites.length := by
  simp [rasterize]

end Atlas

end Handheld
