import Handheld.Number.Binary
import Handheld.Sprite

/-!
# The display

What a game shows is held in a fixed table of sprite slots, a square grid of tile cells and a
few registers. Every write checks its place; a write outside the table or the grid changes
nothing.

## Main statements

* `slot?_putSlot`, `tile?_putCell`: a write in range is read back, and every other slot and cell
  is as before.
* `reset_eq_new`: a reset display is a new one, whatever it held.
-/

namespace Handheld

/-- The two supported sizes of the tile grid. -/
inductive GridSize
  | small
  | large
  deriving Repr, DecidableEq

namespace GridSize

def cells : GridSize → Nat
  | .small => 16
  | .large => 32

def pixels (g : GridSize) : Nat := g.cells * cellSide

def ofCells? (n : Nat) : Option GridSize :=
  if n = 16 then some .small else if n = 32 then some .large else none

end GridSize

/-- A sprite on the screen: its number in the atlas and the place of its corner in pixels. -/
structure Placement where
  sprite : Nat
  x : Float32
  y : Float32

def slotCount : Nat := 64

/-- Everything that a game shows. Cells are stored row by row. -/
structure Display where
  grid : GridSize
  slots : Vector (Option Placement) 64
  cells : Array (Option Nat)
  background : Int
  score : Int
  gameOver : Bool
  paused : Bool
  cells_size : cells.size = grid.cells * grid.cells

namespace Display

/-- The display that shows nothing. -/
def new (grid : GridSize) : Display :=
  { grid := grid
    slots := Vector.replicate 64 none
    cells := Array.replicate (grid.cells * grid.cells) none
    background := 0
    score := 0
    gameOver := false
    paused := false
    cells_size := by simp }

instance : Inhabited Display := ⟨new .large⟩

/-- Empties every slot and cell and clears the registers. -/
def reset (d : Display) : Display :=
  { d with
    slots := Vector.replicate 64 none
    cells := Array.replicate (d.grid.cells * d.grid.cells) none
    background := 0
    score := 0
    gameOver := false
    paused := false
    cells_size := by simp }

/-- Whether the display is as it was when it was new. -/
def isPristine (d : Display) : Bool :=
  d.slots.all Option.isNone && d.cells.all Option.isNone && d.background = 0 && d.score = 0
    && !d.gameOver && !d.paused

/-- The place of a cell in the store, if it lies in the grid. -/
def cellIndex? (d : Display) (x y : Int) : Option Nat :=
  if 0 ≤ x ∧ x < d.grid.cells ∧ 0 ≤ y ∧ y < d.grid.cells then
    some (y.toNat * d.grid.cells + x.toNat)
  else none

def putSlot (d : Display) (slot : Int) (value : Option Placement) : Display :=
  if 0 ≤ slot then { d with slots := d.slots.setIfInBounds slot.toNat value } else d

def putCell (d : Display) (x y : Int) (value : Option Nat) : Display :=
  match d.cellIndex? x y with
  | some i =>
    { d with cells := d.cells.setIfInBounds i value, cells_size := by simp [d.cells_size] }
  | none => d

def setSprite (d : Display) (slot : Int) (p : Placement) : Display := d.putSlot slot (some p)

/-- Empties a slot. -/
def clearSprite (d : Display) (slot : Int) : Display := d.putSlot slot none

/-- Empties every slot. -/
def clearSprites (d : Display) : Display :=
  { d with slots := Vector.replicate 64 none }

def setTile (d : Display) (x y : Int) (tile : Nat) : Display := d.putCell x y (some tile)

/-- Empties a cell. -/
def clearTile (d : Display) (x y : Int) : Display := d.putCell x y none

def slot? (d : Display) (slot : Nat) : Option Placement := (d.slots[slot]?).join

/-- What a cell holds. -/
def tile? (d : Display) (x y : Int) : Option Nat :=
  (d.cellIndex? x y).bind fun i => (d.cells[i]?).join

/-- The occupied slots, in order. -/
def sprites (d : Display) : List (Nat × Placement) :=
  d.slots.toList.zipIdx.filterMap fun e => e.1.map fun p => (e.2, p)

/-- The occupied cells with their tiles, row by row. -/
def tiles (d : Display) : List ((Nat × Nat) × Nat) :=
  d.cells.toList.zipIdx.filterMap fun e =>
    e.1.map fun t => ((e.2 % d.grid.cells, e.2 / d.grid.cells), t)

def setPaused (d : Display) (paused : Bool) : Display := { d with paused := paused }

/-- The display with its game-over mark set. -/
def setGameOver (d : Display) (ended : Bool) : Display := { d with gameOver := ended }

/-- A reset display is a new one. -/
theorem reset_eq_new (d : Display) : d.reset = new d.grid := rfl

@[simp] theorem grid_putSlot (d : Display) (slot : Int) (v : Option Placement) :
    (d.putSlot slot v).grid = d.grid := by
  unfold putSlot
  split <;> rfl

@[simp] theorem grid_putCell (d : Display) (x y : Int) (v : Option Nat) :
    (d.putCell x y v).grid = d.grid := by
  unfold putCell
  split <;> rfl

/-- A slot in range reads as written, every other slot as before. -/
theorem slot?_putSlot (d : Display) (slot : Int) (v : Option Placement) (i : Nat) :
    (d.putSlot slot v).slot? i = if slot = i ∧ i < 64 then v else d.slot? i := by
  unfold putSlot slot?
  by_cases h0 : 0 ≤ slot
  · simp only [if_pos h0, Vector.getElem?_setIfInBounds]
    by_cases hs : slot.toNat = i
    · have he : slot = i := by omega
      by_cases hi : i < 64
      · simp [he, hi]
      · simp [hs, hi]
    · have he : ¬ slot = i := by omega
      simp [hs, he]
  · have he : ¬ slot = i := by omega
    simp [h0, he]

/-- Writing a slot leaves the cells alone. -/
@[simp] theorem tile?_putSlot (d : Display) (slot : Int) (v : Option Placement) (x y : Int) :
    (d.putSlot slot v).tile? x y = d.tile? x y := by
  unfold putSlot
  split <;> rfl

/-- Writing a cell leaves the slots alone. -/
@[simp] theorem slot?_putCell (d : Display) (x y : Int) (v : Option Nat) (i : Nat) :
    (d.putCell x y v).slot? i = d.slot? i := by
  unfold putCell
  split <;> rfl

/-- A cell in the grid has a place in the store. -/
theorem cellIndex?_lt {d : Display} {x y : Int} {i : Nat} (h : d.cellIndex? x y = some i) :
    i < d.cells.size := by
  unfold cellIndex? at h
  split at h
  · rename_i hr
    have hi : y.toNat * d.grid.cells + x.toNat = i := Option.some.inj h
    have hx : x.toNat < d.grid.cells := by omega
    have hy : y.toNat + 1 ≤ d.grid.cells := by omega
    have := Nat.mul_le_mul_right d.grid.cells hy
    rw [Nat.add_mul] at this
    rw [d.cells_size]
    omega
  · simp at h

/-- Distinct cells of the grid have distinct places. -/
theorem cellIndex?_inj {d : Display} {x y x' y' : Int} {i : Nat}
    (h : d.cellIndex? x y = some i) (h' : d.cellIndex? x' y' = some i) : x = x' ∧ y = y' := by
  unfold cellIndex? at h h'
  split at h
  · split at h'
    · rename_i hr hr'
      have hi := Option.some.inj h
      have hi' := Option.some.inj h'
      have hx : x.toNat < d.grid.cells := by omega
      have hx' : x'.toNat < d.grid.cells := by omega
      have e1 : i % d.grid.cells = x.toNat := by
        rw [← hi, Nat.add_comm, Nat.add_mul_mod_self_right, Nat.mod_eq_of_lt hx]
      have e2 : i % d.grid.cells = x'.toNat := by
        rw [← hi', Nat.add_comm, Nat.add_mul_mod_self_right, Nat.mod_eq_of_lt hx']
      have hxx : x.toNat = x'.toNat := e1.symm.trans e2
      have hyy : y.toNat = y'.toNat :=
        Nat.eq_of_mul_eq_mul_right (by omega : 0 < d.grid.cells) (by omega)
      exact ⟨by omega, by omega⟩
    · simp at h'
  · simp at h

/-- A cell in the grid reads as written, every other cell as before. -/
theorem tile?_putCell (d : Display) (x y : Int) (v : Option Nat) (x' y' : Int) :
    (d.putCell x y v).tile? x' y' =
      if x = x' ∧ y = y' ∧ (d.cellIndex? x y).isSome then v else d.tile? x' y' := by
  unfold putCell
  cases hc : d.cellIndex? x y with
  | none => simp
  | some i =>
    have hi := cellIndex?_lt hc
    by_cases he : x = x' ∧ y = y'
    · obtain ⟨rfl, rfl⟩ := he
      have : (cellIndex? { d with
          cells := d.cells.setIfInBounds i v
          cells_size := by simp [d.cells_size] } x y) = some i := hc
      simp [tile?, this, hi]
    · have hne : ¬(x = x' ∧ y = y' ∧ (some i).isSome = true) := fun h => he ⟨h.1, h.2.1⟩
      rw [if_neg hne]
      unfold tile?
      have hsame : (cellIndex? { d with
          cells := d.cells.setIfInBounds i v
          cells_size := by simp [d.cells_size] } x' y') = d.cellIndex? x' y' := rfl
      rw [hsame]
      cases hc' : d.cellIndex? x' y' with
      | none => rfl
      | some j =>
        have hij : ¬ i = j := by
          rintro rfl
          exact he (cellIndex?_inj hc hc')
        simp [hij]

end Display

end Handheld
