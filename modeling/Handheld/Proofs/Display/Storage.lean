import Handheld.Proofs.Display.Contents

/-!
# What a display stores

A write changes the slot or cell that it names and nothing else, and a write beside the slots or
beside the grid changes nothing at all. So after any requests a place of the display holds what the
last request that named it put there. Requests that are made a second time change nothing.

* `Request`, `run`: what can be asked of a display, one after the other;
* `slotWritten_putSlot`, `cellWritten_putCell`: what a write does to the whole display;
* `mem_sprites_iff`, `mem_tiles_iff`: what the lists of the display hold, each in its order;
* `read_run`, `run_run`: the last request decides, and a second run changes nothing;
* `Stores`, `stores_run`: what holds of a new display after any requests.
-/

namespace Handheld

/-- What the last member of a list tells, of those that tell anything. -/
def lastOf {ι α : Type} (tells : ι → Option α) (items : List ι) : Option α :=
  (items.filterMap tells).getLast?

section

variable {ι κ α : Type}

/-- The first member decides if no later one tells anything. -/
theorem lastOf_cons (tells : ι → Option α) (i : ι) (items : List ι) :
    lastOf tells (i :: items) = (lastOf tells items).or (tells i) := by
  unfold lastOf
  cases h : tells i with
  | none => simp [h]
  | some a => cases hlast : (items.filterMap tells).getLast? <;> simp [h, hlast, List.getLast?_cons]

theorem lastOf_map (tells : κ → Option α) (f : ι → κ) (items : List ι) :
    lastOf tells (items.map f) = lastOf (tells ∘ f) items := by
  rw [lastOf, List.filterMap_map, lastOf]

end

namespace Display

/-! ### Requests -/

/-- A request to a display. -/
inductive Request
  | setSprite (slot : Int) (p : Placement)
  | clearSprite (slot : Int)
  | clearSprites
  | setTile (x y : Int) (tile : Nat)
  | clearTile (x y : Int)
  | setBackground (index : Int)
  | setScore (score : Int)
  | setGameOver (ended : Bool)
  | setPaused (paused : Bool)
  | reset

/-- The display after a request. -/
def step (d : Display) : Request → Display
  | .setSprite slot p => d.setSprite slot p
  | .clearSprite slot => d.clearSprite slot
  | .clearSprites => d.clearSprites
  | .setTile x y tile => d.setTile x y tile
  | .clearTile x y => d.clearTile x y
  | .setBackground index => { d with background := index }
  | .setScore score => { d with score := score }
  | .setGameOver ended => d.setGameOver ended
  | .setPaused paused => d.setPaused paused
  | .reset => d.reset

/-- The display after some requests. -/
def run (d : Display) (rs : List Request) : Display := rs.foldl step d

@[simp] theorem run_cons (d : Display) (r : Request) (rs : List Request) :
    d.run (r :: rs) = (d.step r).run rs := rfl

theorem run_append (d : Display) (rs qs : List Request) :
    d.run (rs ++ qs) = (d.run rs).run qs := List.foldl_append

namespace Request

/-- What a request puts into a slot, if it names the slot. -/
def inSlot? (i : Nat) : Request → Option (Option Placement)
  | .setSprite slot p => if slot = i then some (some p) else none
  | .clearSprite slot => if slot = i then some none else none
  | .clearSprites | .reset => some none
  | _ => none

/-- What a request puts into a cell, if it names the cell. -/
def inCell? (x y : Int) : Request → Option (Option Nat)
  | .setTile x' y' tile => if x' = x ∧ y' = y then some (some tile) else none
  | .clearTile x' y' => if x' = x ∧ y' = y then some none else none
  | .reset => some none
  | _ => none

def background? : Request → Option Int
  | .setBackground index => some index
  | .reset => some 0
  | _ => none

def score? : Request → Option Int
  | .setScore score => some score
  | .reset => some 0
  | _ => none

def gameOver? : Request → Option Bool
  | .setGameOver ended => some ended
  | .reset => some false
  | _ => none

def paused? : Request → Option Bool
  | .setPaused paused => some paused
  | .reset => some false
  | _ => none

end Request

/-! ### Writes -/

def HasSlot (slot : Int) : Prop := 0 ≤ slot ∧ slot < slotCount

def HasCell (d : Display) (x y : Int) : Prop :=
  0 ≤ x ∧ x < d.grid.cells ∧ 0 ≤ y ∧ y < d.grid.cells

/-- The grid and the registers. -/
def registers (d : Display) : GridSize × Int × Int × Bool × Bool :=
  (d.grid, d.background, d.score, d.gameOver, d.paused)

/-- The second display is the first one after a write to a slot. -/
structure SlotWritten (slot : Int) (value : Option Placement) (before after : Display) : Prop where
  beside : ¬ HasSlot slot → after = before
  slots : ∀ i : Nat, HasSlot i → after.slot? i = if i = slot then value else before.slot? i
  cells : ∀ x y, after.tile? x y = before.tile? x y
  registers : after.registers = before.registers

/-- The second display is the first one after a write to a cell. -/
structure CellWritten (x y : Int) (value : Option Nat) (before after : Display) : Prop where
  beside : ¬ before.HasCell x y → after = before
  cells : ∀ x' y', before.HasCell x' y' →
    after.tile? x' y' = if x' = x ∧ y' = y then value else before.tile? x' y'
  slots : ∀ i, after.slot? i = before.slot? i
  registers : after.registers = before.registers

theorem isSome_cellIndex?_iff (d : Display) (x y : Int) :
    (d.cellIndex? x y).isSome ↔ d.HasCell x y := by
  unfold cellIndex? HasCell
  split <;> simp_all

theorem cellIndex?_beside (d : Display) {x y : Int} (hxy : ¬ d.HasCell x y) :
    d.cellIndex? x y = none := by
  rwa [← isSome_cellIndex?_iff, Option.not_isSome_iff_eq_none] at hxy

theorem slotWritten_putSlot (d : Display) (slot : Int) (value : Option Placement) :
    SlotWritten slot value d (d.putSlot slot value) where
  beside hslot := by
    unfold putSlot
    split
    · rename_i hpos
      have hlast : 64 ≤ slot.toNat := by
        unfold HasSlot slotCount at hslot
        omega
      rw [Vector.setIfInBounds_eq_of_size_le hlast]
    · rfl
  slots i hi := by
    have hlt : i < 64 := by
      unfold HasSlot slotCount at hi
      omega
    rw [slot?_putSlot]
    simp only [hlt, and_true, eq_comm]
  cells x y := tile?_putSlot d slot value x y
  registers := by
    unfold putSlot registers
    split <;> rfl

theorem cellWritten_putCell (d : Display) (x y : Int) (value : Option Nat) :
    CellWritten x y value d (d.putCell x y value) where
  beside hxy := by rw [putCell, cellIndex?_beside d hxy]
  cells x' y' h' := by
    rw [tile?_putCell]
    by_cases hsame : x' = x ∧ y' = y
    · obtain ⟨rfl, rfl⟩ := hsame
      simp [(isSome_cellIndex?_iff d x' y').mpr h']
    · rw [if_neg hsame, if_neg fun h => hsame ⟨h.1.symm, h.2.1.symm⟩]
  slots i := slot?_putCell d x y value i
  registers := by
    unfold putCell registers
    split <;> rfl

/-! ### Lists -/

section

variable {α β : Type}

theorem mem_occupied_iff (store : List (Option α)) (entry : Nat → α → β) (b : β) :
    (b ∈ store.zipIdx.filterMap fun e => e.1.map (entry e.2)) ↔
      ∃ i a, store[i]?.join = some a ∧ entry i a = b := by
  simp only [List.mem_filterMap, Prod.exists, List.mk_mem_zipIdx_iff_getElem?,
    Option.map_eq_some_iff, Option.join_eq_some_iff]
  constructor
  · rintro ⟨_, i, hstore, a, rfl, hb⟩
    exact ⟨i, a, hstore, hb⟩
  · rintro ⟨i, a, hstore, hb⟩
    exact ⟨some a, i, hstore, a, rfl, hb⟩

/-- The occupied places of a store come in the order of the places. -/
theorem pairwise_occupied (store : List (Option α)) (entry : Nat → α → β) {before : β → β → Prop}
    (hbefore : ∀ i j a b, i < j → before (entry i a) (entry j b)) :
    (store.zipIdx.filterMap fun e => e.1.map (entry e.2)).Pairwise before := by
  have hplaces : store.zipIdx.Pairwise fun e e' => e.2 < e'.2 := by
    rw [← List.pairwise_map (f := Prod.snd) (R := (· < ·)), List.zipIdx_map_snd]
    exact List.pairwise_lt_range'
  refine List.pairwise_filterMap.mpr (hplaces.imp fun hlt b hb b' hb' => ?_)
  obtain ⟨a, -, rfl⟩ := Option.map_eq_some_iff.mp hb
  obtain ⟨a', -, rfl⟩ := Option.map_eq_some_iff.mp hb'
  exact hbefore _ _ a a' hlt

end

/-- The order of the cells, row by row. -/
def RowMajor (a b : Nat × Nat) : Prop := a.2 < b.2 ∨ a.2 = b.2 ∧ a.1 < b.1

theorem rowMajor_of_lt {n i j : Nat} (hij : i < j) :
    RowMajor (i % n, i / n) (j % n, j / n) := by
  rcases Nat.lt_or_eq_of_le (Nat.div_le_div_right (c := n) (Nat.le_of_lt hij)) with hlt | heq
  · exact Or.inl hlt
  · refine Or.inr ⟨heq, ?_⟩
    have hi := Nat.div_add_mod i n
    have hj := Nat.div_add_mod j n
    rw [heq] at hi
    show i % n < j % n
    omega

/-- The list of sprites holds the occupied slots. -/
theorem mem_sprites_iff (d : Display) (i : Nat) (p : Placement) :
    (i, p) ∈ d.sprites ↔ d.slot? i = some p := by
  have hmem := mem_occupied_iff d.slots.toList (fun i p => (i, p)) (i, p)
  refine hmem.trans ⟨?_, fun hslot => ⟨i, p, ?_, rfl⟩⟩
  · rintro ⟨i, p, hslot, h⟩
    cases h
    rwa [Vector.getElem?_toList] at hslot
  · rwa [Vector.getElem?_toList]

/-- The list of tiles holds the occupied cells. -/
theorem mem_tiles_iff (d : Display) (x y tile : Nat) :
    ((x, y), tile) ∈ d.tiles ↔ d.tile? x y = some tile := by
  have hmem := mem_occupied_iff d.cells.toList
    (fun i tile => ((i % d.grid.cells, i / d.grid.cells), tile)) ((x, y), tile)
  refine hmem.trans ⟨?_, fun htile => ?_⟩
  · rintro ⟨i, tile, hcell, h⟩
    cases h
    rw [Array.getElem?_toList] at hcell
    have hi : i < d.grid.cells * d.grid.cells := by
      rw [← d.cells_size]
      by_contra hbeyond
      rw [Array.getElem?_eq_none (Nat.not_lt.mp hbeyond)] at hcell
      cases hcell
    have hcells : 0 < d.grid.cells := by cases d.grid <;> decide
    rw [d.tile?_eq (Nat.mod_lt i hcells) (Nat.div_lt_of_lt_mul hi), Nat.div_add_mod']
    exact hcell
  · have hcell : d.HasCell x y := by
      by_contra hbeside
      rw [tile?, d.cellIndex?_beside hbeside] at htile
      cases htile
    have hx : x < d.grid.cells := by have := hcell.2.1; omega
    have hy : y < d.grid.cells := by have := hcell.2.2.2; omega
    rw [d.tile?_eq hx hy] at htile
    refine ⟨y * d.grid.cells + x, tile, by rwa [Array.getElem?_toList], ?_⟩
    rw [Nat.add_comm, Nat.add_mul_mod_self_right, Nat.mod_eq_of_lt hx,
      Nat.add_mul_div_right _ _ (by omega), Nat.div_eq_of_lt hx, Nat.zero_add]

/-! ### Runs -/

theorem slot?_step (d : Display) (r : Request) {i : Nat} (hi : i < slotCount) :
    (d.step r).slot? i = (r.inSlot? i).getD (d.slot? i) := by
  have hput : ∀ slot value, (d.putSlot slot value).slot? i
      = (if slot = (i : Int) then some value else none).getD (d.slot? i) := by
    intro slot value
    rw [slot?_putSlot]
    by_cases hslot : slot = (i : Int)
    · rw [if_pos ⟨hslot, hi⟩, if_pos hslot, Option.getD_some]
    · rw [if_neg fun h => hslot h.1, if_neg hslot, Option.getD_none]
  have hempty : (Vector.replicate 64 (none : Option Placement))[i]?.join = none := by
    rw [Vector.getElem?_replicate]
    split <;> rfl
  cases r with
  | setSprite slot p => exact hput slot (some p)
  | clearSprite slot => exact hput slot none
  | clearSprites | reset => exact hempty
  | setTile | clearTile => exact slot?_putCell d _ _ _ i
  | setBackground | setScore | setGameOver | setPaused => rfl

theorem tile?_step (d : Display) (r : Request) {x y : Int} (hxy : d.HasCell x y) :
    (d.step r).tile? x y = (r.inCell? x y).getD (d.tile? x y) := by
  have hput : ∀ x' y' value, (d.putCell x' y' value).tile? x y
      = (if x' = x ∧ y' = y then some value else none).getD (d.tile? x y) := by
    intro x' y' value
    rw [(cellWritten_putCell d x' y' value).cells x y hxy]
    by_cases hsame : x' = x ∧ y' = y
    · rw [if_pos ⟨hsame.1.symm, hsame.2.symm⟩, if_pos hsame, Option.getD_some]
    · rw [if_neg fun h => hsame ⟨h.1.symm, h.2.symm⟩, if_neg hsame, Option.getD_none]
  cases r with
  | setTile x' y' tile => exact hput x' y' (some tile)
  | clearTile x' y' => exact hput x' y' none
  | setSprite | clearSprite => exact tile?_putSlot d _ _ x y
  | reset =>
    show (d.reset.cellIndex? x y).bind _ = none
    rw [Option.bind_eq_none_iff]
    intro i _
    show (Array.replicate _ none)[i]?.join = none
    rw [Array.getElem?_replicate]
    split <;> rfl
  | clearSprites | setBackground | setScore | setGameOver | setPaused => rfl

theorem registers_step (d : Display) (r : Request) :
    (d.step r).registers = (d.grid, r.background?.getD d.background, r.score?.getD d.score,
      r.gameOver?.getD d.gameOver, r.paused?.getD d.paused) := by
  cases r with
  | setSprite | clearSprite => exact (slotWritten_putSlot d _ _).registers
  | setTile | clearTile => exact (cellWritten_putCell d _ _ _).registers
  | clearSprites | setBackground | setScore | setGameOver | setPaused | reset => rfl

@[simp] theorem grid_step (d : Display) (r : Request) : (d.step r).grid = d.grid :=
  congrArg Prod.fst (registers_step d r)

@[simp] theorem grid_run (d : Display) (rs : List Request) : (d.run rs).grid = d.grid := by
  induction rs generalizing d with
  | nil => rfl
  | cons r rs ih => rw [run_cons, ih, grid_step]

/-- A place that each request either writes or leaves alone is as the last request that writes it
says, and as before if none does. -/
theorem read_run {α : Type} (read : Display → α) (writes : Request → Option α) {grid : GridSize}
    (hstep : ∀ d r, d.grid = grid → read (d.step r) = (writes r).getD (read d)) (d : Display)
    (hgrid : d.grid = grid) (rs : List Request) :
    read (d.run rs) = (lastOf writes rs).getD (read d) := by
  induction rs generalizing d with
  | nil => rfl
  | cons r rs ih =>
    rw [run_cons, ih _ ((grid_step d r).trans hgrid), hstep d r hgrid, lastOf_cons]
    cases lastOf writes rs <;> rfl

theorem slot?_run (d : Display) (rs : List Request) {i : Nat} (hi : i < slotCount) :
    (d.run rs).slot? i = (lastOf (Request.inSlot? i) rs).getD (d.slot? i) :=
  read_run (fun e => e.slot? i) _ (fun e r _ => slot?_step e r hi) d rfl rs

theorem tile?_run (d : Display) (rs : List Request) {x y : Int} (hxy : d.HasCell x y) :
    (d.run rs).tile? x y = (lastOf (Request.inCell? x y) rs).getD (d.tile? x y) := by
  refine read_run (fun e => e.tile? x y) _ (fun e r hgrid => tile?_step e r ?_) d rfl rs
  unfold HasCell at hxy ⊢
  rwa [hgrid]

theorem registers_run (d : Display) (rs : List Request) :
    (d.run rs).registers = (d.grid, (lastOf Request.background? rs).getD d.background,
      (lastOf Request.score? rs).getD d.score, (lastOf Request.gameOver? rs).getD d.gameOver,
      (lastOf Request.paused? rs).getD d.paused) := by
  have hbackground := read_run background Request.background?
    (fun e r _ => congrArg (fun v => v.2.1) (registers_step e r)) d rfl rs
  have hscore := read_run score Request.score?
    (fun e r _ => congrArg (fun v => v.2.2.1) (registers_step e r)) d rfl rs
  have hover := read_run gameOver Request.gameOver?
    (fun e r _ => congrArg (fun v => v.2.2.2.1) (registers_step e r)) d rfl rs
  have hpaused := read_run paused Request.paused?
    (fun e r _ => congrArg (fun v => v.2.2.2.2) (registers_step e r)) d rfl rs
  rw [registers, grid_run, hbackground, hscore, hover, hpaused]

/-- Displays of one grid that read the same everywhere are the same. -/
theorem eq_of_reads {d e : Display} (hregisters : d.registers = e.registers)
    (hslots : ∀ i, i < slotCount → d.slot? i = e.slot? i)
    (hcells : ∀ x y : Int, d.HasCell x y → d.tile? x y = e.tile? x y) : d = e := by
  obtain ⟨grid, slots, cells, background, score, gameOver, paused, hsize⟩ := d
  obtain ⟨grid', slots', cells', background', score', gameOver', paused', hsize'⟩ := e
  simp only [registers, Prod.mk.injEq] at hregisters
  obtain ⟨rfl, rfl, rfl, rfl, rfl⟩ := hregisters
  have hslotsEq : slots = slots' := by
    ext i hi : 1
    have hread := hslots i hi
    simpa only [slot?, Vector.getElem?_eq_getElem hi, Option.join_some] using hread
  have hcellsEq : cells = cells' := by
    refine Array.ext (hsize.trans hsize'.symm) fun i hi hi' => ?_
    have hpos : 0 < grid.cells := by cases grid <;> decide
    have hx := Nat.mod_lt i hpos
    have hy : i / grid.cells < grid.cells := Nat.div_lt_of_lt_mul (hsize ▸ hi)
    have hread := hcells (i % grid.cells : Nat) (i / grid.cells : Nat)
      ⟨Int.natCast_nonneg _, Int.ofNat_lt.mpr hx, Int.natCast_nonneg _, Int.ofNat_lt.mpr hy⟩
    rw [tile?_eq _ hx hy, tile?_eq _ hx hy] at hread
    simpa only [Nat.div_add_mod', Array.getElem?_eq_getElem hi, Array.getElem?_eq_getElem hi',
      Option.join_some] using hread
  subst hslotsEq hcellsEq
  rfl

/-- Requests that are made once more change nothing: the last one that names a place decided it
already. -/
theorem run_run (d : Display) (rs : List Request) : (d.run rs).run rs = d.run rs := by
  have hsettled : ∀ {α : Type} (last : Option α) (before : α),
      last.getD (last.getD before) = last.getD before := by
    intro α last before
    cases last <;> rfl
  refine eq_of_reads ?_ (fun i hi => ?_) fun x y hxy => ?_
  · have hfirst := registers_run d rs
    rw [registers_run, hfirst]
    simp only [registers, Prod.mk.injEq] at hfirst
    obtain ⟨hgrid, hbackground, hscore, hover, hpaused⟩ := hfirst
    rw [hgrid, hbackground, hscore, hover, hpaused]
    simp only [hsettled]
  · rw [slot?_run _ _ hi, slot?_run _ _ hi, hsettled]
  · simp only [HasCell, grid_run] at hxy
    rw [tile?_run _ _ (by simpa only [HasCell, grid_run] using hxy), tile?_run _ _ hxy, hsettled]

/-! ### The laws of a display -/

/-- What holds of a display that was new with a grid before some requests. -/
structure Stores (grid : GridSize) (rs : List Request) (d : Display) : Prop where
  /-- Each slot holds what the last request that named it put there. -/
  slot : ∀ i, i < slotCount → d.slot? i = (lastOf (Request.inSlot? i) rs).getD none
  tile : ∀ x y, d.HasCell x y → d.tile? x y = (lastOf (Request.inCell? x y) rs).getD none
  registers : d.registers = (grid, (lastOf Request.background? rs).getD 0,
    (lastOf Request.score? rs).getD 0, (lastOf Request.gameOver? rs).getD false,
    (lastOf Request.paused? rs).getD false)
  setSprite : ∀ slot p, SlotWritten slot (some p) d (d.setSprite slot p)
  clearSprite : ∀ slot, SlotWritten slot none d (d.clearSprite slot)
  setTile : ∀ x y tile, CellWritten x y (some tile) d (d.setTile x y tile)
  clearTile : ∀ x y, CellWritten x y none d (d.clearTile x y)
  /-- The occupied slots are listed once each, in their order. -/
  mem_sprites : ∀ i p, (i, p) ∈ d.sprites ↔ d.slot? i = some p
  sprites_ordered : d.sprites.Pairwise fun a b => a.1 < b.1
  mem_tiles : ∀ x y tile : Nat, ((x, y), tile) ∈ d.tiles ↔ d.tile? x y = some tile
  tiles_ordered : d.tiles.Pairwise fun a b => RowMajor a.1 b.1
  reset : d.reset = new grid

theorem slot?_new (grid : GridSize) (i : Nat) : (new grid).slot? i = none := by
  simp only [slot?, new, Vector.getElem?_replicate]
  split <;> rfl

theorem tile?_new (grid : GridSize) (x y : Int) : (new grid).tile? x y = none := by
  rw [tile?, Option.bind_eq_none_iff]
  intro i _
  simp only [new, Array.getElem?_replicate]
  split <;> rfl

/-- The laws of a display hold after any requests. -/
theorem stores_run (grid : GridSize) (rs : List Request) : Stores grid rs ((new grid).run rs) where
  slot i hi := by rw [slot?_run _ _ hi, slot?_new]
  tile x y hxy := by
    have hnew : (new grid).HasCell x y := by simpa only [HasCell, grid_run] using hxy
    rw [tile?_run _ _ hnew, tile?_new]
  registers := registers_run (new grid) rs
  setSprite slot p := slotWritten_putSlot _ slot (some p)
  clearSprite slot := slotWritten_putSlot _ slot none
  setTile x y tile := cellWritten_putCell _ x y (some tile)
  clearTile x y := cellWritten_putCell _ x y none
  mem_sprites := mem_sprites_iff _
  sprites_ordered := pairwise_occupied _ (fun i p => (i, p)) fun _ _ _ _ hlt => hlt
  mem_tiles := mem_tiles_iff _
  tiles_ordered := pairwise_occupied _ (fun i tile => ((i % _, i / _), tile))
    fun _ _ _ _ hlt => rowMajor_of_lt hlt
  reset := by rw [reset_eq_new, grid_run]; rfl

end Display

end Handheld
