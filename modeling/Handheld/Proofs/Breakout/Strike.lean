import Handheld.Guest.Bundled.Breakout
import Handheld.Proofs.Sandbox.Copies

/-!
# The brick that a ball strikes

The number of a brick is made from the row and the column of the ball, and so is the tile that
is cleared. The number does not tell the row and the column: a ball far enough to the side has
the number of a brick in another row. Such a ball strikes the brick from aside. Its tile lies
outside the grid, and the tile of the brick is left standing.

Rows and columns are doubles and may be larger than doubles are exact. What is added up to the
number of a brick is exact all the same, and of what is cleared it is enough to know on which
side of the wall it lies.

* `OnWall`, `cellKey_inj`: the cells of the wall;
* `exists_cell`: the row and the column of a ball with the number of a cell;
* `Ball.isAside`, `exists_copies_cleared`: the tile that is cleared;
* `State.struck?`, `step_cases`: everything that a frame does to the bricks.
-/

namespace Handheld.Guest.Bundled.Breakout

open Handheld.Number (toRat? floor?_eq Grid grid_of_toRat? rounds_add rounds_mul
  exists_toRat?_floorFloat)

/-! ### The cells of the wall -/

/-- A cell that has a brick in the beginning. -/
def OnWall (x y : ℕ) : Prop := 2 ≤ x ∧ x < 30 ∧ 4 ≤ y ∧ y < 8

theorem mem_wallCells {x y : ℕ} : (x, y) ∈ wallCells ↔ OnWall x y := by
  unfold wallCells OnWall
  simp only [List.mem_flatMap, List.mem_map, List.mem_range, Prod.mk.injEq]
  constructor
  · rintro ⟨row, hrow, column, hcolumn, rfl, rfl⟩
    omega
  · rintro ⟨h₁, h₂, h₃, h₄⟩
    exact ⟨y - 4, by omega, x - 2, by omega, by omega, by omega⟩

/-- Two cells of the wall have two numbers. -/
theorem cellKey_inj {x y x' y' : ℕ} (h : OnWall x y) (h' : OnWall x' y')
    (heq : cellKey x y = cellKey x' y') : x = x' ∧ y = y' := by
  unfold OnWall at h h'
  unfold cellKey at heq
  omega

/-! ### The cell of a ball -/

/-- A number of a cell is the row times thirty-two plus the column, without rounding. -/
theorem exists_cell {b : Ball} {key : ℤ} (h : b.key? = some key) (hlow : 0 ≤ key)
    (hhigh : key < 1024) :
    ∃ column row : ℤ, toRat? b.column = some (column : ℚ) ∧ toRat? b.row = some (row : ℚ) ∧
      row * 32 + column = key := by
  unfold Ball.key? at h
  rw [floor64?_eq, floor?_eq, Option.map_map] at h
  obtain ⟨z, hz, hkey⟩ := Option.map_eq_some_iff.mp h
  have hfloor : ⌊z⌋ = key := by
    simp only [Function.comp, Number.saturate64, Number.clamp, Number.least64,
      Number.greatest64] at hkey
    omega
  obtain ⟨a, c, ha, hc, hsum⟩ := rounds_add hz
  obtain ⟨r, w, hr, hw, hproduct⟩ := rounds_mul ha
  have hwide : toRat? 32 = some 32 := by decide +kernel
  obtain rfl : 32 = w := Option.some.inj (hwide.symm.trans hw)
  obtain ⟨column, rfl⟩ := exists_toRat?_floorFloat hc
  obtain ⟨row, rfl⟩ := exists_toRat?_floorFloat hr
  -- thirty-two is a power of two, so the product is exact, however large the row is
  have hgrid : Grid ((row : ℚ) * 32) := by
    have := (grid_of_toRat? hr).mul_two_pow 5
    norm_num at this
    exact this
  rw [hproduct.eq hgrid] at hsum
  refine ⟨column, row, hc, hr, ?_⟩
  rw [← hfloor]
  refine (Number.Rounds.floor_eq ?_ (by rw [hfloor]; omega)).symm
  push_cast
  exact hsum

/-- Whether the middle of a ball is to the left or to the right of the grid. -/
def Ball.isAside (b : Ball) : Bool :=
  (Number.floor? b.column).any fun c => c < 0 || 32 ≤ c

theorem isAside_eq {b : Ball} {column : ℤ} (h : toRat? b.column = some (column : ℚ)) :
    b.isAside = decide (column < 0 ∨ 32 ≤ column) := by
  unfold Ball.isAside
  rw [floor?_eq, h, Option.map_some, Int.floor_intCast]
  simp

/-! ### Tiles that leave the sandbox -/

/-- An element of `tiles`. -/
def tileEntry (x y id : Json) : Json := .object [("x", x), ("y", y), ("tileId", id)]

theorem copies_tileAt {room : ℕ} {x y id : Float} {jx jy jid : Json}
    (hx : Copies room (.number x) jx) (hy : Copies room (.number y) jy)
    (hid : Copies room (.number id) jid) :
    Copies (room + 1) (tileAt x y id) (tileEntry jx jy jid) :=
  copies_object (.cons ⟨rfl, hx⟩ (.cons ⟨rfl, hy⟩ (.cons ⟨rfl, hid⟩ .nil)))

/-- An element of `tiles` names the cell and the tile of its three numbers. -/
theorem tileWrite?_tileEntry (x y id : Json) :
    tileWrite? (tileEntry x y id) =
      x.floor?.bind fun x => y.floor?.bind fun y => id.floor?.bind fun id =>
        some ⟨x, y, unsigned32? id⟩ := rfl

/-- A ball that is not aside clears the tile of the brick. -/
theorem tileWrite?_inside {room : ℕ} {b : Ball} {x y : ℕ} (hkey : b.key? = some (cellKey x y))
    (hwall : OnWall x y) (hinside : b.isAside = false) {jx jy jid : Json}
    (hx : Copies room (.number b.column) jx) (hy : Copies room (.number b.row) jy)
    (hid : jid.floor? = some (-1)) :
    tileWrite? (tileEntry jx jy jid) = some ⟨x, y, none⟩ := by
  unfold OnWall at hwall
  unfold cellKey at hkey
  obtain ⟨column, row, hcolumn, hrow, hsum⟩ := exists_cell hkey (by omega) (by omega)
  rw [isAside_eq hcolumn, decide_eq_false_iff_not] at hinside
  obtain ⟨rfl, rfl⟩ : column = x ∧ row = y := by omega
  rw [tileWrite?_tileEntry, floor?_of_copies hcolumn (by omega) hx,
    floor?_of_copies hrow (by omega) hy, hid]
  rfl

/-- A ball that is aside clears no tile of the wall. -/
theorem not_onWall_of_tileWrite? {room : ℕ} {b : Ball} {x₀ y₀ : ℕ}
    (hkey : b.key? = some (cellKey x₀ y₀)) (hwall : OnWall x₀ y₀) (haside : b.isAside = true)
    {jx jy jid : Json} (hx : Copies room (.number b.column) jx)
    (hy : Copies room (.number b.row) jy) {e : TileWrite}
    (he : tileWrite? (tileEntry jx jy jid) = some e) {x y : ℕ} (hcell : e.x = x ∧ e.y = y) :
    ¬OnWall x y := by
  unfold OnWall at hwall ⊢
  unfold cellKey at hkey
  obtain ⟨column, row, hcolumn, hrow, hsum⟩ := exists_cell hkey (by omega) (by omega)
  rw [isAside_eq hcolumn, decide_eq_true_iff] at haside
  rw [tileWrite?_tileEntry] at he
  simp only [Option.bind_eq_some_iff, Option.some.injEq] at he
  obtain ⟨kx, hkx, ky, hky, _, _, rfl⟩ := he
  obtain ⟨hcx, hcy⟩ : kx = x ∧ ky = y := hcell
  rcases haside with hleft | hright
  · -- to the left: the column arrives at or below zero
    have := nonpos_of_copies hcolumn (by exact_mod_cast hleft) hx hkx
    omega
  · rcases Int.lt_or_le column (2 ^ 53) with hsmall | hlarge
    · -- to the right: the column arrives as it is
      have hexact := floor?_of_copies hcolumn (by omega) hx
      have := Option.some.inj (hexact.symm.trans hkx)
      omega
    · -- so far to the right that the row is far above the grid
      have hnegative : row < 0 := by omega
      have := nonpos_of_copies hrow (by exact_mod_cast hnegative) hy hky
      omega

theorem lastFor?_singleton (x y : ℤ) (entry : Json) :
    lastFor? x y [entry] = (tileWrite? entry).filter fun e => e.x = x ∧ e.y = y := by
  rw [FrameResult.lastFor?_cons]
  rfl

/-- The tile that a ball clears is the tile of the brick that it strikes, unless the ball is
aside: then it is no tile of the wall. -/
theorem exists_copies_cleared (room : ℕ) {b : Ball} {x₀ y₀ : ℕ}
    (hkey : b.key? = some (cellKey x₀ y₀)) (hwall₀ : OnWall x₀ y₀) :
    ∃ j, Copies (room + 1) (tileAt b.column b.row (-1)) j ∧
      ∀ x y : ℕ, OnWall x y →
        lastFor? x y [j] =
          if b.isAside = false ∧ x = x₀ ∧ y = y₀ then some ⟨x, y, none⟩ else none := by
  obtain ⟨jx, hx⟩ := exists_copies_number room b.column
  obtain ⟨jy, hy⟩ := exists_copies_number room b.row
  obtain ⟨jid, hjid⟩ := exists_copies_number room (-1)
  have hid : jid.floor? = some (-1) :=
    floor?_of_copies (v := -1) (Number.toRat?_ofWhole_of_lt (n := -1) (by decide)) (by decide) hjid
  refine ⟨_, copies_tileAt hx hy hjid, fun x y hwall => ?_⟩
  rw [lastFor?_singleton]
  cases haside : b.isAside with
  | false =>
    rw [tileWrite?_inside hkey hwall₀ haside hx hy hid]
    by_cases hcell : x = x₀ ∧ y = y₀
    · obtain ⟨rfl, rfl⟩ := hcell
      simp [Option.filter]
    · have hother : ¬((x₀ : ℤ) = x ∧ (y₀ : ℤ) = y) := by omega
      rw [if_neg (fun h => hcell h.2)]
      simp only [Option.filter, hother, decide_false, Bool.false_eq_true, if_false]
  | true =>
    rw [if_neg (fun h => Bool.noConfusion h.1)]
    refine Option.filter_eq_none_iff.mpr fun e he hcell => ?_
    exact not_onWall_of_tileWrite? hkey hwall₀ haside hx hy he (of_decide_eq_true hcell) hwall

/-! ### What a frame does to the bricks -/

/-- The ball of a frame after its flight, and the number of the brick that it strikes. -/
def State.struck? (s : State) (scope : Scope) : Option (Ball × ℤ) :=
  let s := s.prepare scope
  s.ball.bind fun b =>
    let b := b.fly scope.delta
    (b.key?.filter fun key => s.bricks.contains key).map fun key => (b, key)

theorem bricks_prepare (s : State) (scope : Scope) : (s.prepare scope).bricks = s.bricks := by
  unfold State.prepare
  dsimp only
  split <;> rfl

/-- What is cleared and the bricks that are left come from the strike alone. -/
theorem play_eq (s : State) (b : Ball) (delta : Float) :
    (s.play b delta).1 = (s.strike (b.fly delta)).1 ∧
      (s.play b delta).2.bricks = (s.strike (b.fly delta)).2.2.bricks := by
  unfold State.play
  dsimp only
  split <;> exact ⟨rfl, rfl⟩

/-- A frame strikes no brick and clears nothing, or it strikes one, and then it takes away that
brick alone and clears the tile at the cell of the ball. -/
theorem step_cases (s : State) (scope : Scope) :
    (s.struck? scope = none ∧ (s.step scope).1 = [] ∧
        (s.step scope).2.bricks = s.bricks) ∨
      ∃ b key, s.struck? scope = some (b, key) ∧ b.key? = some key ∧ key ∈ s.bricks ∧
        (s.step scope).1 = [tileAt b.column b.row (-1)] ∧
        (s.step scope).2.bricks = s.bricks.filter fun k => k ≠ key := by
  have hbricks := bricks_prepare s scope
  unfold State.struck? State.step
  dsimp only
  generalize s.prepare scope = t at hbricks
  rw [← hbricks]
  cases t.ball with
  | none => exact Or.inl ⟨rfl, rfl, rfl⟩
  | some b =>
    obtain ⟨hcleared, hleft⟩ := play_eq t b scope.delta
    dsimp only
    rw [hcleared, hleft]
    unfold State.strike
    cases hkey : (b.fly scope.delta).key? with
    | none => exact Or.inl ⟨by simp [hkey], rfl, rfl⟩
    | some key =>
      by_cases hmem : key ∈ t.bricks
      · have hfound : t.bricks.contains key = true := List.contains_iff_mem.mpr hmem
        refine Or.inr ⟨b.fly scope.delta, key, ?_, hkey, hmem, ?_, ?_⟩
        · simp [hkey, Option.filter, hmem]
        · simp only [hfound, if_true]
        · simp only [hfound, if_true]
      · have hmissing : t.bricks.contains key = false := by simpa using hmem
        refine Or.inl ⟨?_, ?_, ?_⟩
        · simp [hkey, Option.filter, hmem]
        · simp only [hmissing, Bool.false_eq_true, if_false]
        · simp only [hmissing, Bool.false_eq_true, if_false]

end Handheld.Guest.Bundled.Breakout
