import Handheld.Palette

/-!
# Images

An image is a rectangle of pixels, row by row. Everything that is drawn on this console is drawn
by one operation: `stamp` lays a small picture with holes over an image at any place, however
far outside, and writes only where the picture has a pixel and the image has room.

## Main statements

* `get?_filled`, `get?_set`, `get?_map`: the operations, pixel by pixel.
* `get?_stamp`: a stamped image shows the picture where it covers the image and has no hole, and
  the image everywhere else.
-/

namespace Handheld

/-- A rectangle of pixels, row by row. -/
structure Image where
  width : Nat
  height : Nat
  pixels : Array Rgba
  size_eq : pixels.size = width * height
  deriving DecidableEq

namespace Image

/-- An image of one color. -/
def filled (width height : Nat) (color : Rgba) : Image :=
  ⟨width, height, Array.replicate (width * height) color, by simp⟩

/-- The image without pixels. -/
def empty : Image := filled 0 0 .transparent

instance : Inhabited Image := ⟨empty⟩

/-- The pixel at a point, if it lies in the image. -/
def get? (img : Image) (x y : Nat) : Option Rgba :=
  if x < img.width ∧ y < img.height then img.pixels[y * img.width + x]? else none

/-- Writes a pixel; outside the image nothing happens. -/
def set (img : Image) (x y : Nat) (color : Rgba) : Image :=
  if x < img.width ∧ y < img.height then
    { img with
      pixels := img.pixels.setIfInBounds (y * img.width + x) color
      size_eq := by simp [img.size_eq] }
  else img

/-- Gives every pixel one color. -/
def paintedOver (img : Image) (color : Rgba) : Image :=
  { img with
    pixels := Array.replicate img.pixels.size color
    size_eq := by simp [img.size_eq] }

/-- Changes every pixel in the same way. -/
def map (img : Image) (f : Rgba → Rgba) : Image :=
  { img with pixels := img.pixels.map f, size_eq := by simp [img.size_eq] }

/-- Writes a pixel at a point that may lie outside on any side. -/
def plot (img : Image) (x y : Int) (color : Option Rgba) : Image :=
  match color with
  | some c => if 0 ≤ x ∧ 0 ≤ y then img.set x.toNat y.toNat c else img
  | none => img

/-- Lays one row of a picture over an image. -/
def stampRow (img : Image) (left y : Int) (width : Nat) (row : Nat → Option Rgba) : Image :=
  (List.range width).foldl (fun img (x : Nat) => img.plot (left + x) y (row x)) img

/-- Lays a picture with holes over an image, its corner at `left`, `top`. -/
def stamp (img : Image) (left top : Int) (width height : Nat)
    (picture : Nat → Nat → Option Rgba) : Image :=
  (List.range height).foldl
    (fun img (y : Nat) => img.stampRow left (top + y) width fun x => picture x y) img

/-- The place of a point in the row-by-row list determines the point. -/
theorem index_inj {w x y x' y' : Nat} (hx : x < w) (hx' : x' < w)
    (h : y * w + x = y' * w + x') : x = x' ∧ y = y' := by
  have h1 : (y * w + x) % w = x := by
    rw [Nat.add_comm, Nat.add_mul_mod_self_right, Nat.mod_eq_of_lt hx]
  have h2 : (y' * w + x') % w = x' := by
    rw [Nat.add_comm, Nat.add_mul_mod_self_right, Nat.mod_eq_of_lt hx']
  have hxx : x = x' := by rw [← h1, ← h2, h]
  subst hxx
  exact ⟨rfl, Nat.eq_of_mul_eq_mul_right (by omega : 0 < w) (by omega)⟩

/-- A point of the image has a place in the list of pixels. -/
theorem index_lt {w h x y : Nat} (hx : x < w) (hy : y < h) : y * w + x < w * h := by
  have : (y + 1) * w ≤ h * w := Nat.mul_le_mul_right w hy
  rw [Nat.add_mul] at this
  rw [Nat.mul_comm w h]
  omega

@[simp] theorem width_set (img : Image) (x y : Nat) (c : Rgba) :
    (img.set x y c).width = img.width := by
  unfold set
  split <;> rfl

@[simp] theorem height_set (img : Image) (x y : Nat) (c : Rgba) :
    (img.set x y c).height = img.height := by
  unfold set
  split <;> rfl

theorem get?_filled (w h : Nat) (c : Rgba) (x y : Nat) :
    (filled w h c).get? x y = if x < w ∧ y < h then some c else none := by
  unfold get? filled
  simp only
  split
  · rename_i hxy
    rw [Array.getElem?_replicate, if_pos (index_lt hxy.1 hxy.2)]
  · rfl

theorem get?_set (img : Image) (x y : Nat) (c : Rgba) (px py : Nat) :
    (img.set x y c).get? px py =
      if px = x ∧ py = y ∧ x < img.width ∧ y < img.height then some c else img.get? px py := by
  unfold set
  by_cases hxy : x < img.width ∧ y < img.height
  · simp only [if_pos hxy, get?]
    by_cases hp : px < img.width ∧ py < img.height
    · simp only [if_pos hp]
      by_cases he : px = x ∧ py = y
      · obtain ⟨rfl, rfl⟩ := he
        have hlt := index_lt hxy.1 hxy.2
        rw [← img.size_eq] at hlt
        simp [hxy, hlt]
      · have hne : ¬ y * img.width + x = py * img.width + px := by
          intro h
          exact he ⟨(index_inj hxy.1 hp.1 h).1.symm, (index_inj hxy.1 hp.1 h).2.symm⟩
        have hc : ¬(px = x ∧ py = y ∧ x < img.width ∧ y < img.height) :=
          fun h => he ⟨h.1, h.2.1⟩
        rw [Array.getElem?_setIfInBounds, if_neg hne, if_neg hc]
    · have hc : ¬(px = x ∧ py = y ∧ x < img.width ∧ y < img.height) := by
        rintro ⟨rfl, rfl, h⟩
        exact hp h
      simp [hp, hc]
  · simp [hxy]

theorem get?_map (img : Image) (f : Rgba → Rgba) (x y : Nat) :
    (img.map f).get? x y = (img.get? x y).map f := by
  unfold get? map
  simp only
  split <;> simp

/-- An image painted over with one color is a filled one. -/
theorem paintedOver_eq (img : Image) (c : Rgba) :
    img.paintedOver c = filled img.width img.height c := by
  simp only [paintedOver, filled, img.size_eq]

@[simp] theorem width_plot (img : Image) (x y : Int) (c : Option Rgba) :
    (img.plot x y c).width = img.width := by
  unfold plot
  split
  · split <;> simp
  · rfl

@[simp] theorem height_plot (img : Image) (x y : Int) (c : Option Rgba) :
    (img.plot x y c).height = img.height := by
  unfold plot
  split
  · split <;> simp
  · rfl

theorem get?_plot (img : Image) (x y : Int) (c : Option Rgba) (px py : Nat) :
    (img.plot x y c).get? px py =
      if (px : Int) = x ∧ (py : Int) = y ∧ px < img.width ∧ py < img.height then
        c.or (img.get? px py)
      else img.get? px py := by
  cases c with
  | none => simp [plot]
  | some c =>
    simp only [plot, Option.some_or]
    by_cases h0 : 0 ≤ x ∧ 0 ≤ y
    · rw [if_pos h0, get?_set]
      by_cases he : (px : Int) = x ∧ (py : Int) = y
      · obtain ⟨rfl, rfl⟩ := he
        simp
      · have h1 : ¬(px = x.toNat ∧ py = y.toNat ∧ x.toNat < img.width ∧ y.toNat < img.height) := by
          intro h
          exact he ⟨by omega, by omega⟩
        have h2 : ¬((px : Int) = x ∧ (py : Int) = y ∧ px < img.width ∧ py < img.height) :=
          fun h => he ⟨h.1, h.2.1⟩
        rw [if_neg h1, if_neg h2]
    · rw [if_neg h0]
      have h2 : ¬((px : Int) = x ∧ (py : Int) = y ∧ px < img.width ∧ py < img.height) := by
        intro h
        omega
      rw [if_neg h2]

theorem stampRow_succ (img : Image) (left y : Int) (width : Nat) (row : Nat → Option Rgba) :
    img.stampRow left y (width + 1) row
      = (img.stampRow left y width row).plot (left + width) y (row width) := by
  simp [stampRow, List.range_succ]

@[simp] theorem width_stampRow (img : Image) (left y : Int) (n : Nat) (row : Nat → Option Rgba) :
    (img.stampRow left y n row).width = img.width := by
  induction n with
  | zero => rfl
  | succ n ih => simp [stampRow_succ, ih]

@[simp] theorem height_stampRow (img : Image) (left y : Int) (n : Nat) (row : Nat → Option Rgba) :
    (img.stampRow left y n row).height = img.height := by
  induction n with
  | zero => rfl
  | succ n ih => simp [stampRow_succ, ih]

theorem get?_stampRow (img : Image) (left y : Int) (n : Nat) (row : Nat → Option Rgba)
    (px py : Nat) :
    (img.stampRow left y n row).get? px py =
      if (py : Int) = y ∧ left ≤ px ∧ px < left + n ∧ px < img.width ∧ py < img.height then
        (row ((px : Int) - left).toNat).or (img.get? px py)
      else img.get? px py := by
  induction n with
  | zero =>
    have : ¬((py : Int) = y ∧ left ≤ px ∧ px < left + (0 : Nat) ∧ px < img.width
        ∧ py < img.height) := by omega
    rw [if_neg this]
    rfl
  | succ n ih =>
    rw [stampRow_succ, get?_plot, ih, width_stampRow, height_stampRow]
    by_cases hlast : (px : Int) = left + n ∧ (py : Int) = y ∧ px < img.width ∧ py < img.height
    · have h1 : ¬((py : Int) = y ∧ left ≤ px ∧ px < left + n ∧ px < img.width
          ∧ py < img.height) := by omega
      have h2 : (py : Int) = y ∧ left ≤ px ∧ px < left + (n + 1 : Nat) ∧ px < img.width
          ∧ py < img.height := by omega
      have h3 : ((px : Int) - left).toNat = n := by omega
      rw [if_pos hlast, if_neg h1, if_pos h2, h3]
    · rw [if_neg hlast]
      by_cases hin : (py : Int) = y ∧ left ≤ px ∧ px < left + n ∧ px < img.width
          ∧ py < img.height
      · have h2 : (py : Int) = y ∧ left ≤ px ∧ px < left + (n + 1 : Nat) ∧ px < img.width
            ∧ py < img.height := by omega
        rw [if_pos hin, if_pos h2]
      · have h2 : ¬((py : Int) = y ∧ left ≤ px ∧ px < left + (n + 1 : Nat) ∧ px < img.width
            ∧ py < img.height) := by omega
        rw [if_neg hin, if_neg h2]

theorem stamp_succ (img : Image) (left top : Int) (width height : Nat)
    (picture : Nat → Nat → Option Rgba) :
    img.stamp left top width (height + 1) picture
      = (img.stamp left top width height picture).stampRow left (top + height) width
          fun x => picture x height := by
  simp [stamp, List.range_succ]

@[simp] theorem width_stamp (img : Image) (left top : Int) (w n : Nat)
    (picture : Nat → Nat → Option Rgba) :
    (img.stamp left top w n picture).width = img.width := by
  induction n with
  | zero => rfl
  | succ n ih => simp [stamp_succ, ih]

@[simp] theorem height_stamp (img : Image) (left top : Int) (w n : Nat)
    (picture : Nat → Nat → Option Rgba) :
    (img.stamp left top w n picture).height = img.height := by
  induction n with
  | zero => rfl
  | succ n ih => simp [stamp_succ, ih]

/-- A stamped image shows the picture where it covers the image and has no hole, and is as
before everywhere else. -/
theorem get?_stamp (img : Image) (left top : Int) (w n : Nat)
    (picture : Nat → Nat → Option Rgba) (px py : Nat) :
    (img.stamp left top w n picture).get? px py =
      if left ≤ px ∧ px < left + w ∧ top ≤ py ∧ py < top + n ∧ px < img.width
          ∧ py < img.height then
        (picture ((px : Int) - left).toNat ((py : Int) - top).toNat).or (img.get? px py)
      else img.get? px py := by
  induction n with
  | zero =>
    have : ¬(left ≤ px ∧ px < left + w ∧ top ≤ py ∧ py < top + (0 : Nat) ∧ px < img.width
        ∧ py < img.height) := by omega
    rw [if_neg this]
    rfl
  | succ n ih =>
    rw [stamp_succ, get?_stampRow, ih, width_stamp, height_stamp]
    by_cases hlast : (py : Int) = top + n ∧ left ≤ px ∧ px < left + w ∧ px < img.width
        ∧ py < img.height
    · have h1 : ¬(left ≤ px ∧ px < left + w ∧ top ≤ py ∧ py < top + n ∧ px < img.width
          ∧ py < img.height) := by omega
      have h2 : left ≤ px ∧ px < left + w ∧ top ≤ py ∧ py < top + (n + 1 : Nat)
          ∧ px < img.width ∧ py < img.height := by omega
      have h3 : ((py : Int) - top).toNat = n := by omega
      rw [if_pos hlast, if_neg h1, if_pos h2, h3]
    · rw [if_neg hlast]
      by_cases hin : left ≤ px ∧ px < left + w ∧ top ≤ py ∧ py < top + n ∧ px < img.width
          ∧ py < img.height
      · have h2 : left ≤ px ∧ px < left + w ∧ top ≤ py ∧ py < top + (n + 1 : Nat)
            ∧ px < img.width ∧ py < img.height := by omega
        rw [if_pos hin, if_pos h2]
      · have h2 : ¬(left ≤ px ∧ px < left + w ∧ top ≤ py ∧ py < top + (n + 1 : Nat)
            ∧ px < img.width ∧ py < img.height) := by omega
        rw [if_neg hin, if_neg h2]

end Image

end Handheld
