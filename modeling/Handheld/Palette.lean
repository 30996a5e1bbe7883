import Handheld.Json.Basic
import Handheld.Text.Quoted

/-!
# Palettes

A palette is an ordered set of up to sixteen 24-bit colors. It is built leniently: a list that
is too long is cut, and a color that is no color becomes black. Looking up an index that the
palette lacks gives black as well, so every index has a color.

Index 0 is transparent in sprites, but it may still name a visible color for the background.

## Main statements

* `length_ofColors`: how many colors are kept.
* `color_ofColors`: each color in its place, black where there is none.
* `le_of_mem_ofColors`: a built palette holds colors only.
-/

namespace Handheld

/-- A pixel: red, green, blue and opacity. -/
structure Rgba where
  red : UInt8
  green : UInt8
  blue : UInt8
  alpha : UInt8
  deriving Repr, DecidableEq, Inhabited

/-- The pixel that shows nothing. -/
def Rgba.transparent : Rgba := ⟨0, 0, 0, 0⟩

def Rgba.opaqueOf (color : Nat) : Rgba :=
  ⟨UInt8.ofNat (color / 65536), UInt8.ofNat (color / 256), UInt8.ofNat color, 255⟩

/-- A pixel with its color channels scaled by `factor / 256`. -/
def Rgba.dimmed (factor : Nat) (p : Rgba) : Rgba :=
  ⟨UInt8.ofNat (p.red.toNat * factor / 256), UInt8.ofNat (p.green.toNat * factor / 256),
    UInt8.ofNat (p.blue.toNat * factor / 256), p.alpha⟩

/-- The number whose bytes are the channels of a pixel. -/
def Rgba.code (p : Rgba) : Nat :=
  ((p.red.toNat * 256 + p.green.toNat) * 256 + p.blue.toNat) * 256 + p.alpha.toNat

/-- A pixel as eight digits of base sixteen. -/
def Rgba.text (p : Rgba) : String := Text.hexPadded 8 p.code

/-- An ordered set of colors. -/
structure Palette where
  colors : List Nat
  deriving Repr, DecidableEq

namespace Palette

/-- The most colors that a palette has. -/
def capacity : Nat := 16

/-- The greatest color. -/
def white : Nat := 0xffffff

/-- The color of everything that has none. -/
def black : Nat := 0x000000

/-- A color, or black in place of a number beyond the colors. -/
def sanitize (color : Nat) : Nat :=
  if white < color then black else color

def ofColors (colors : List Nat) : Palette :=
  ⟨(colors.take capacity).map sanitize⟩

/-- The color of a number from a cartridge: its whole part if it lies between black and white,
black otherwise. -/
def colorOf (x : Float) : Nat :=
  match Number.Parts.ofFloat x with
  | .finite d =>
    if d.negative ∧ d.mantissa ≠ 0 then black
    else if d.truncate < white ∨ d.truncate = white ∧ d.isWhole then d.truncate.toNat
    else black
  | _ => black

/-- The palette of a list of numbers from a cartridge. -/
def ofNumbers (numbers : List Float) : Palette :=
  ofColors (numbers.map colorOf)

/-- The palette of games that bring none. -/
def standard : Palette :=
  ofColors
    [0x000000, 0x666666, 0x888888, 0xAAAAAA, 0xCCCCCC, 0xFFFFFF, 0xFF0000, 0x00FF00, 0x0000FF,
      0xFFFF00, 0xFF00FF, 0x00FFFF, 0x800000, 0x008000, 0x000080, 0x808080]

/-- How many colors the palette has. -/
def size (p : Palette) : Nat := p.colors.length

/-- The color of an index; black for every index that the palette lacks. -/
def color (p : Palette) (index : Int) : Nat :=
  if 0 ≤ index then p.colors[index.toNat]?.getD black else black

/-- The opaque pixel of an index. -/
def rgba (p : Palette) (index : Int) : Rgba :=
  .opaqueOf (p.color index)

/-- A built palette keeps the first sixteen colors. -/
theorem length_ofColors (colors : List Nat) :
    (ofColors colors).size = min capacity colors.length := by
  simp [ofColors, size]

/-- A sanitized color is a color. -/
theorem sanitize_le (color : Nat) : sanitize color ≤ white := by
  unfold sanitize
  split
  · decide
  · omega

/-- A built palette holds colors only. -/
theorem le_of_mem_ofColors {colors : List Nat} {c : Nat} (h : c ∈ (ofColors colors).colors) :
    c ≤ white := by
  simp only [ofColors, List.mem_map] at h
  obtain ⟨d, _, rfl⟩ := h
  exact sanitize_le d

/-- Each color of a built palette, in its place. -/
theorem color_ofColors (colors : List Nat) (index : Nat) :
    (ofColors colors).color index =
      if index < capacity then (colors[index]?.map sanitize).getD black else black := by
  simp only [color, ofColors, Int.natCast_nonneg, if_true, Int.toNat_natCast, List.getElem?_map,
    List.getElem?_take]
  split <;> simp

/-- A negative index has no color of its own. -/
theorem color_of_neg (p : Palette) {index : Int} (h : index < 0) : p.color index = black := by
  simp [color, Int.not_le.mpr h]

end Palette

end Handheld
