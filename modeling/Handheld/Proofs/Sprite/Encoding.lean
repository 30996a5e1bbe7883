import Mathlib
import Handheld.Proofs.Number.Whole
import Handheld.Sprite

/-!
# Sprites, written and read back

A grid of palette indices can be written in both forms of a sprite: as bit-layers, where a pixel
has one bit in the same place of every layer, or as rows of digits, each in either case. Reading
gives the grid back from both. Indices that are small are written in full by the first layers, and
the layers that would only hold zeros can be left out.

* `layerByte`, `layersOf`: the bit-layers of a grid, and `testBit_layerByte`, which bit is which;
* `digitOf`, `rowsOf`: its rows of digits;
* `testBit_combine`: the bits of an index, layer by layer;
* `indices_written`: a grid is read back from every way of writing it.
-/

namespace Handheld.Sprite

variable (grid : IndexGrid)

/-! ### Writing -/

/-- The byte of a row of a layer: one bit of the indices of the row, the leftmost pixel highest. -/
def layerByte (layer : Nat) (y : Fin 8) : Nat :=
  Nat.ofBits fun place : Fin 8 => grid[y][place.rev].testBit layer

/-- A layer of a grid as a list of eight bytes. -/
def layerValue (layer : Nat) : Json :=
  .list (List.ofFn fun y : Fin 8 => .number (.whole (layerByte grid layer y)))

/-- The first bit-layers of a grid, beginning with the lowest. -/
def layersOf (n : Nat) : List Json := (List.range n).map (layerValue grid)

/-- The digit of an index, in upper or lower case. -/
def digitOf (upper : Bool) (index : Nat) : Char :=
  if upper then (Text.hexDigit index).toUpper else Text.hexDigit index

/-- A grid as eight rows of eight digits, each in the case that is asked for. -/
def rowsOf (upper : Fin 8 → Fin 8 → Bool) : List Json :=
  List.ofFn fun y : Fin 8 =>
    .text (String.ofList (List.ofFn fun x : Fin 8 => digitOf (upper y x) grid[y][x]))

/-- The highest bit of a byte is the leftmost pixel of its row. -/
theorem testBit_layerByte (layer : Nat) (y x : Fin 8) :
    (layerByte grid layer y).testBit (7 - x) = (grid[y][x]).testBit layer := by
  have hleft : 7 - x.val < 8 := by omega
  have hplace : Fin.rev ⟨7 - x.val, hleft⟩ = x := by
    ext
    rw [Fin.val_rev]
    show 8 - (7 - x.val + 1) = x.val
    omega
  rw [layerByte, Nat.testBit_ofBits_lt _ _ hleft]
  simp only [hplace]

theorem layerByte_lt (layer : Nat) (y : Fin 8) : layerByte grid layer y < 256 :=
  Nat.ofBits_lt_two_pow _

/-! ### Reading bytes and layers -/

/-- A byte is read as it was written. -/
theorem byteOf_whole {byte : Nat} (hbyte : byte < 256) :
    (byteOf (.number (.whole byte))).toNat = byte := by
  rw [byteOf, Number.whole?_number (Nat.lt_trans hbyte (by decide)), Option.getD_some,
    Number.clamp_of_mem (Int.natCast_nonneg _) (by omega), Int.toNat_natCast]
  exact Nat.mod_eq_of_lt hbyte

/-- A layer is read as it was written. -/
theorem getElem?_layerOf (layer : Nat) (y : Fin 8) :
    (layerOf (layerValue grid layer))[y.val]?
      = some (byteOf (.number (.whole (layerByte grid layer y)))) := by
  unfold layerOf layerValue
  simp only [List.length_ofFn, if_true]
  rw [Vector.getElem?_eq_getElem y.isLt, Vector.getElem_ofFn, List.getElem?_ofFn, dif_pos y.isLt,
    Option.getD_some]

/-- A bit of an index is the bit that its layer has there. -/
theorem testBit_combine (layers : List Layer) (x y layer : Nat) :
    (combine layers x y).testBit layer =
      layers[layer]?.elim false fun l => (l[y]?.getD 0).toNat.testBit (7 - x) := by
  induction layers generalizing layer with
  | nil => exact Nat.zero_testBit layer
  | cons l layers ih =>
    have hbit := bitAt_lt l x y
    cases layer with
    | zero =>
      have hlow : (combine (l :: layers) x y) % 2 = bitAt l x y := by
        rw [combine]
        omega
      rw [Nat.testBit_zero, hlow, List.getElem?_cons_zero, Option.elim_some]
      unfold bitAt
      cases (l[y]?.getD 0).toNat.testBit (7 - x) <;> rfl
    | succ layer =>
      have hhigh : (combine (l :: layers) x y) / 2 = combine layers x y := by
        rw [combine]
        omega
      rw [Nat.testBit_succ, hhigh, ih, List.getElem?_cons_succ]

/-! ### Reading grids -/

/-- A list without texts is read as layers. -/
theorem ofJson_list {items : List Json} (htexts : ∀ s, .text s ∉ items) :
    ofJson (.list items) = ofLayers items := by
  cases items with
  | nil => rfl
  | cons item items =>
    cases item with
    | text s => exact absurd List.mem_cons_self (htexts s)
    | _ => rfl

theorem text_not_mem_layersOf (n : Nat) (s : String) : .text s ∉ layersOf grid n := by
  intro hmem
  obtain ⟨layer, -, hlayer⟩ := List.mem_map.mp hmem
  cases hlayer

/-- A sprite is a grid if every pixel of it is an index of the grid. -/
theorem indices_eq {s : Sprite} (hpixel : ∀ y x : Fin 8, s.pixel x y = grid[y][x]) :
    s.indices = grid := by
  refine Vector.ext fun y hy => Vector.ext fun x hx => ?_
  rw [indices, Vector.getElem_ofFn, Vector.getElem_ofFn]
  exact hpixel ⟨y, hy⟩ ⟨x, hx⟩

/-- The first layers of a grid are read back if they hold all bits of it. -/
theorem indices_ofLayers {n : Nat} (hn : n ≤ maxLayers)
    (hsmall : ∀ y x : Fin 8, grid[y][x] < 2 ^ n) :
    (ofLayers (layersOf grid n)).indices = grid := by
  have hread : ofLayers (layersOf grid n)
      = .layers ((List.range n).map fun layer => layerOf (layerValue grid layer)) := by
    rw [ofLayers, layersOf, ← List.map_take, List.take_range, Nat.min_eq_right hn, List.map_map]
    rfl
  rw [hread]
  refine indices_eq grid fun y x => ?_
  rw [pixel, if_pos ⟨x.isLt, y.isLt⟩]
  refine Nat.eq_of_testBit_eq fun layer => ?_
  simp only [testBit_combine, List.getElem?_map]
  by_cases hlayer : layer < n
  · rw [List.getElem?_range hlayer, Option.map_some, Option.elim_some, getElem?_layerOf,
      Option.getD_some, byteOf_whole (layerByte_lt grid layer y), testBit_layerByte]
  · -- the bits beyond the layers are all zero
    have hhigh : grid[y][x] < 2 ^ layer :=
      Nat.lt_of_lt_of_le (hsmall y x) (Nat.pow_le_pow_right (by decide) (Nat.not_lt.mp hlayer))
    rw [List.getElem?_eq_none (by simpa using Nat.not_lt.mp hlayer), Option.map_none,
      Option.elim_none, Nat.testBit_lt_two_pow hhigh]

/-- A digit is read as its index in either case. -/
theorem hexValue?_digitOf (upper : Bool) {index : Nat} (hindex : index < 16) :
    Text.hexValue? (digitOf upper index) = some index := by
  have hall : ∀ upper : Bool, ∀ index : Fin 16,
      Text.hexValue? (digitOf upper index) = some index.val := by decide
  exact hall upper ⟨index, hindex⟩

/-- The rows of a grid are read back, whatever the case of their digits. -/
theorem indices_ofRows (hsmall : ∀ y x : Fin 8, grid[y][x] < 16) (upper : Fin 8 → Fin 8 → Bool) :
    (ofRows (rowsOf grid upper)).indices = grid := by
  refine indices_eq grid fun y x => ?_
  rw [ofRows, pixel, if_pos ⟨x.isLt, y.isLt⟩, Vector.getElem?_eq_getElem y.isLt,
    Vector.getElem_ofFn, Option.getD_some, rowsOf, List.getElem?_ofFn, dif_pos y.isLt]
  unfold rowOf
  simp only [String.toList_ofList, List.length_ofFn, if_true]
  rw [Vector.getElem?_eq_getElem x.isLt, Vector.getElem_ofFn, List.getElem?_ofFn, dif_pos x.isLt,
    Option.bind_some, hexValue?_digitOf _ (hsmall y x)]
  rfl

/-- A grid is read back from its bit-layers, as a list or as the layers of an object, and from its
rows of digits in any mix of cases. The first layers are enough if every index fits into them. -/
theorem indices_written :
    (∀ layer : Nat, ∀ y x : Fin 8,
        (layerByte grid layer y).testBit (7 - x) = (grid[y][x]).testBit layer) ∧
      (∀ n ≤ maxLayers, (∀ y x : Fin 8, grid[y][x] < 2 ^ n) →
        (ofJson (.list (layersOf grid n))).indices = grid ∧
          ∀ members, Entries.get? members "layers" = some (.list (layersOf grid n)) →
            (ofJson (.object members)).indices = grid) ∧
      ((∀ y x : Fin 8, grid[y][x] < 16) → ∀ upper : Fin 8 → Fin 8 → Bool,
        (ofJson (.list (rowsOf grid upper))).indices = grid) := by
  refine ⟨testBit_layerByte grid, fun n hn hsmall => ?_, fun hsmall upper => ?_⟩
  · have hback := indices_ofLayers grid hn hsmall
    refine ⟨?_, fun members hlayers => ?_⟩
    · rw [ofJson_list (text_not_mem_layersOf grid n)]
      exact hback
    · rw [ofJson, hlayers]
      exact hback
  · exact indices_ofRows grid hsmall upper

end Handheld.Sprite
