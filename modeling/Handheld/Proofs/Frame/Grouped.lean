import Handheld.Frame.Apply

/-!
# What a grouped result shows

A grouped result comes down to a list of commands that run one after the other. This file reads
the display off the members of the object instead: a slot by its place in `sprites`, a cell by
the last element of `tiles` that names it, a register by its own member, and the game's end by
what it was and one member. Nothing here speaks of commands or of their order.

Numbers are doubles. A number is read through its floor, which is unbounded; only the registers
saturate. A sprite, a tile or a cell that saturates lies outside every range it is checked
against, so the bounds of a register never show there.

* `Json.floor?`, `unsigned32?`, `signed64`: numbers, without the bounds of a register and with them;
* `elements`, `placed?`, `tileWrite?`, `lastFor?`, `register`: how the members are read;
* `slot?_foldl_sprites`, `tile?_foldl_tiles`: the two lists, entry by entry;
* `Shown`: everything that an object leaves on a display;
* `apply_object`: applying the frame of an object leaves exactly that.
-/

namespace Handheld

/-! ### Numbers without the bounds of a register -/

/-- The floor of a double; none if it is not finite. -/
def Number.floor? (x : Float) : Option Int :=
  match Parts.ofFloat x with
  | .finite d => some d.floor
  | _ => none

/-- The floor of a number value. -/
def Json.floor? (v : Json) : Option Int := v.float?.bind Number.floor?

/-- The number of a sprite or a tile: any that fits 32 bits without a sign. -/
def unsigned32? (n : Int) : Option Nat :=
  if 0 ≤ n ∧ n ≤ 4294967295 then some n.toNat else none

/-- What a register of 64 bits holds of a number: the end of its range in place of what lies beyond
it. -/
def signed64 (n : Int) : Int := max (-9223372036854775808) (min 9223372036854775807 n)

theorem floor64?_eq (x : Float) :
    Number.floor64? x = (Number.floor? x).map Number.saturate64 := by
  unfold Number.floor64? Number.floor?
  cases Number.Parts.ofFloat x <;> rfl

/-- A register holds the floor, saturated. -/
theorem whole?_eq (v : Json) : v.whole? = v.floor?.map Number.saturate64 := by
  unfold Json.whole? Json.floor?
  cases v.float? with
  | none => rfl
  | some x => exact floor64?_eq x

/-- Saturating does not move a number into or out of the range of a sprite or tile. -/
theorem indexOf?_saturate64 (n : Int) : indexOf? (Number.saturate64 n) = unsigned32? n := by
  unfold indexOf? unsigned32? Number.saturate64 Number.clamp Number.least64 Number.greatest64
    greatestIndex
  by_cases h : 0 ≤ n ∧ n ≤ 4294967295
  · have hs : max (-9223372036854775808) (min 9223372036854775807 n) = n := by omega
    rw [hs]
  · rw [if_neg h, if_neg (by omega)]

/-- Saturating does not move a number onto a small one. -/
theorem saturate64_eq_iff {n m : Int} (h₀ : 0 ≤ m) (h₁ : m < 64) :
    Number.saturate64 n = m ↔ n = m := by
  unfold Number.saturate64 Number.clamp Number.least64 Number.greatest64
  omega

/-! ### How the members are read -/

/-- The elements of a member. A member that is no list has none. -/
def elements (member : Option Json) : List Json :=
  match member with
  | some (.list items) => items
  | _ => []

/-- The sprite that an element of `sprites` places: the element has three finite numbers, and the
floor of the first is a sprite's. -/
def placed? (entry : Json) : Option Placement := do
  let sprite ← (entry.field? "spriteId").bind Json.floor?
  let x ← (entry.field? "x").bind Json.finite?
  let y ← (entry.field? "y").bind Json.finite?
  (unsigned32? sprite).map fun n => ⟨n, Number.toSingle x, Number.toSingle y⟩

/-- An element of `tiles` that names a cell. Without a tile it empties the cell. -/
structure TileWrite where
  x : Int
  y : Int
  tile : Option Nat

/-- The cell and tile of an element of `tiles` that has its three numbers. -/
def tileWrite? (entry : Json) : Option TileWrite := do
  let x ← (entry.field? "x").bind Json.floor?
  let y ← (entry.field? "y").bind Json.floor?
  let tile ← (entry.field? "tileId").bind Json.floor?
  return ⟨x, y, unsigned32? tile⟩

/-- The last element of `tiles` that names a cell. -/
def lastFor? (x y : Int) (items : List Json) : Option TileWrite :=
  ((items.filterMap tileWrite?).filter fun e => e.x = x ∧ e.y = y).getLast?

/-- A register after a member: its floor if it is a number, and as before otherwise. -/
def register (before : Int) (member : Option Json) : Int :=
  ((member.bind Json.floor?).map signed64).getD before

/-- Whether a member is literally true. -/
def isLiterallyTrue : Option Json → Bool
  | some (.bool true) => true
  | _ => false

/-- Everything that an object leaves on a display. -/
structure Shown (ms : Json.Members) (before after : Display) (raised : Bool) : Prop where
  slot : ∀ i, i < 64 → after.slot? i
    = ((elements (Entries.get? ms "sprites"))[i]?).bind placed?
  tile : ∀ x y : Int, 0 ≤ x → x < before.grid.cells → 0 ≤ y → y < before.grid.cells →
    after.tile? x y =
      match lastFor? x y (elements (Entries.get? ms "tiles")) with
      | some e => e.tile
      | none => before.tile? x y
  background : after.background = register before.background (Entries.get? ms "background")
  score : after.score = register before.score (Entries.get? ms "score")
  gameOver : after.gameOver
    = (before.gameOver || isLiterallyTrue (Entries.get? ms "gameOver"))
  raised : raised = true ↔ before.gameOver = false ∧ after.gameOver = true
  grid : after.grid = before.grid
  paused : after.paused = before.paused

/-! ### Commands that leave a part of the display alone -/

/-- What every command of a list leaves alone, the list leaves alone. -/
theorem foldl_run_of_forall {α : Type} (view : Display → α) {cs : List Command}
    (h : ∀ c ∈ cs, ∀ d : Display, view (c.run d) = view d) (d : Display) :
    view (cs.foldl Command.run d) = view d := by
  induction cs generalizing d with
  | nil => rfl
  | cons c cs ih =>
    rw [List.foldl_cons, ih (fun e he => h e (List.mem_cons_of_mem c he))]
    exact h c List.mem_cons_self d

@[simp] theorem background_putSlot (d : Display) (slot : Int) (v : Option Placement) :
    (d.putSlot slot v).background = d.background := by
  unfold Display.putSlot
  split <;> rfl

@[simp] theorem score_putSlot (d : Display) (slot : Int) (v : Option Placement) :
    (d.putSlot slot v).score = d.score := by
  unfold Display.putSlot
  split <;> rfl

@[simp] theorem background_putCell (d : Display) (x y : Int) (v : Option Nat) :
    (d.putCell x y v).background = d.background := by
  unfold Display.putCell
  split <;> rfl

@[simp] theorem score_putCell (d : Display) (x y : Int) (v : Option Nat) :
    (d.putCell x y v).score = d.score := by
  unfold Display.putCell
  split <;> rfl

namespace FrameResult

/-- The reader of a result takes the same elements. -/
theorem itemsOf_eq (member : Option Json) : itemsOf member = elements member := rfl

/-! ### The list of sprites -/

/-- An element of `sprites` that gives a command has its three numbers. -/
theorem spriteCommand?_eq_some {slot : Nat} {entry : Json} {c : Command}
    (h : spriteCommand? slot entry = some c) :
    ∃ sprite x y, c = .placeSprite slot (Number.saturate64 sprite) x y ∧
      placed? entry = (unsigned32? sprite).map fun n => ⟨n, x, y⟩ := by
  unfold spriteCommand? wholeField? coordinateField? at h
  simp only [funext whole?_eq, bind, Option.bind_eq_some_iff, Option.map_eq_some_iff, pure,
    Option.some.injEq] at h
  obtain ⟨_, ⟨v, hv, sprite, hsprite, rfl⟩, _, ⟨x, hx, rfl⟩, _, ⟨y, hy, rfl⟩, rfl⟩ := h
  refine ⟨sprite, Number.toSingle x, Number.toSingle y, rfl, ?_⟩
  unfold placed?
  obtain ⟨vx, hvx, hfx⟩ := hx
  obtain ⟨vy, hvy, hfy⟩ := hy
  rw [hv, hvx, hvy]
  simp only [bind, Option.bind_some, hsprite, hfx, hfy]

/-- An element of `sprites` that gives no command places no sprite. -/
theorem placed?_of_spriteCommand?_eq_none {slot : Nat} {entry : Json}
    (h : spriteCommand? slot entry = none) : placed? entry = none := by
  unfold spriteCommand? wholeField? coordinateField? at h
  unfold placed?
  simp only [funext whole?_eq, bind, pure] at h ⊢
  cases hs : (entry.field? "spriteId").bind Json.floor? with
  | none => rfl
  | some sprite =>
    cases hx : (entry.field? "x").bind Json.finite? with
    | none => rfl
    | some x =>
      cases hy : (entry.field? "y").bind Json.finite? with
      | none => rfl
      | some y =>
        -- all three numbers are there, so there is a command
        obtain ⟨v, hv, hfloor⟩ := Option.bind_eq_some_iff.mp hs
        rw [hx, hy, hv] at h
        simp [hfloor] at h

/-- The command of an element writes what the element places into the slot of its place. -/
theorem slot?_run_spriteCommand {slot : Nat} {entry : Json} {c : Command}
    (h : spriteCommand? slot entry = some c) (d : Display) (i : Nat) :
    (c.run d).slot? i = if slot = i ∧ i < 64 then placed? entry else d.slot? i := by
  obtain ⟨sprite, x, y, rfl, hplaced⟩ := spriteCommand?_eq_some h
  rw [Command.run, Display.slot?_putSlot, indexOf?_saturate64, hplaced]
  simp only [Int.ofNat_inj]

/-- Slots from `k` on are empty and a list of elements begins at slot `k`: the slots from `k` on
then hold the elements of their place, and the slots before are as they were. -/
theorem slot?_foldl_sprites (items : List Json) (k : Nat) (d : Display)
    (hempty : ∀ j, k ≤ j → d.slot? j = none) (i : Nat) (hi : i < 64) :
    (((items.zipIdx k).filterMap fun e => spriteCommand? e.2 e.1).foldl Command.run d).slot? i
      = if i < k then d.slot? i else (items[i - k]?).bind placed? := by
  induction items generalizing k d with
  | nil =>
    by_cases hk : i < k
    · rw [if_pos hk]
      rfl
    · rw [if_neg hk]
      exact hempty i (by omega)
  | cons entry items ih =>
    rw [List.zipIdx_cons, List.filterMap_cons]
    cases hc : spriteCommand? k entry with
    | none =>
      have hnone := placed?_of_spriteCommand?_eq_none hc
      simp only
      rw [ih (k + 1) d fun j hj => hempty j (by omega)]
      rcases Nat.lt_trichotomy i k with hlt | rfl | hgt
      · rw [if_pos (by omega), if_pos hlt]
      · rw [if_pos (by omega), if_neg (by omega), Nat.sub_self, List.getElem?_cons_zero,
          Option.bind_some, hnone]
        exact hempty i (by omega)
      · rw [if_neg (by omega), if_neg (by omega), show i - k = (i - (k + 1)) + 1 by omega,
          List.getElem?_cons_succ]
    | some c =>
      have hrun := slot?_run_spriteCommand hc d
      simp only [List.foldl_cons]
      rw [ih (k + 1) (c.run d) fun j hj => by
        rw [hrun, if_neg (by omega)]
        exact hempty j (by omega)]
      rcases Nat.lt_trichotomy i k with hlt | rfl | hgt
      · rw [if_pos (by omega), if_pos hlt, hrun, if_neg (by omega)]
      · rw [if_pos (by omega), if_neg (by omega), Nat.sub_self, List.getElem?_cons_zero,
          Option.bind_some, hrun, if_pos ⟨rfl, hi⟩]
      · rw [if_neg (by omega), if_neg (by omega), show i - k = (i - (k + 1)) + 1 by omega,
          List.getElem?_cons_succ]

/-! ### The list of tiles -/

/-- An element of `tiles` that gives a command writes its cell. -/
theorem tileCommand?_eq_some {entry : Json} {c : Command} (h : tileCommand? entry = some c) :
    ∃ e : TileWrite, tileWrite? entry = some e ∧ ∀ d : Display,
      c.run d = d.putCell (Number.saturate64 e.x) (Number.saturate64 e.y) e.tile := by
  unfold tileCommand? wholeField? at h
  simp only [funext whole?_eq, bind, Option.bind_eq_some_iff, Option.map_eq_some_iff, pure,
    Option.some.injEq] at h
  obtain ⟨_, ⟨vx, hvx, x, hx, rfl⟩, _, ⟨vy, hvy, y, hy, rfl⟩, _, ⟨vt, hvt, tile, ht, rfl⟩, rfl⟩ := h
  refine ⟨⟨x, y, unsigned32? tile⟩, ?_, fun d => ?_⟩
  · rw [tileWrite?, hvx, hvy, hvt]
    simp only [bind, Option.bind_some, hx, hy, ht, pure]
  · rw [Command.run, indexOf?_saturate64]

/-- An element of `tiles` that gives no command names no cell. -/
theorem tileWrite?_of_tileCommand?_eq_none {entry : Json} (h : tileCommand? entry = none) :
    tileWrite? entry = none := by
  unfold tileCommand? wholeField? at h
  unfold tileWrite?
  simp only [funext whole?_eq, bind, pure] at h ⊢
  cases hx : (entry.field? "x").bind Json.floor? with
  | none => rfl
  | some x =>
    cases hy : (entry.field? "y").bind Json.floor? with
    | none => rfl
    | some y =>
      cases ht : (entry.field? "tileId").bind Json.floor? with
      | none => rfl
      | some tile =>
        obtain ⟨vx, hvx, hfx⟩ := Option.bind_eq_some_iff.mp hx
        obtain ⟨vy, hvy, hfy⟩ := Option.bind_eq_some_iff.mp hy
        obtain ⟨vt, hvt, hft⟩ := Option.bind_eq_some_iff.mp ht
        rw [hvx, hvy, hvt] at h
        simp [hfx, hfy, hft] at h

/-- One more element at the front decides a cell only if no later one names it. -/
theorem lastFor?_cons (x y : Int) (entry : Json) (items : List Json) :
    lastFor? x y (entry :: items) =
      (lastFor? x y items).or ((tileWrite? entry).filter fun e => e.x = x ∧ e.y = y) := by
  unfold lastFor?
  cases he : tileWrite? entry with
  | none => simp [he]
  | some e =>
    rw [List.filterMap_cons, he]
    by_cases hcell : e.x = x ∧ e.y = y
    · rw [List.filter_cons_of_pos (by simpa using hcell), List.getLast?_cons]
      cases ((items.filterMap tileWrite?).filter fun e => e.x = x ∧ e.y = y).getLast? <;>
        simp [Option.filter, hcell]
    · rw [List.filter_cons_of_neg (by simpa using hcell)]
      simp [Option.filter, hcell]

/-- After a list of elements a cell of the grid is as the last one that names it says, and as
before if none does. -/
theorem tile?_foldl_tiles (items : List Json) (d : Display) {x y : Int}
    (hx₀ : 0 ≤ x) (hx : x < d.grid.cells) (hy₀ : 0 ≤ y) (hy : y < d.grid.cells) :
    ((items.filterMap tileCommand?).foldl Command.run d).tile? x y =
      match lastFor? x y items with
      | some e => e.tile
      | none => d.tile? x y := by
  have hcells : d.grid.cells < 64 := by cases d.grid <;> decide
  induction items generalizing d with
  | nil => rfl
  | cons entry items ih =>
    rw [List.filterMap_cons, lastFor?_cons]
    cases hc : tileCommand? entry with
    | none =>
      rw [tileWrite?_of_tileCommand?_eq_none hc]
      simpa using ih d hx hy hcells
    | some c =>
      obtain ⟨e, he, hrun⟩ := tileCommand?_eq_some hc
      have hgrid : (c.run d).grid = d.grid := Frame.grid_run d c
      simp only [List.foldl_cons]
      rw [ih (c.run d) (hgrid ▸ hx) (hgrid ▸ hy) (hgrid ▸ hcells), he]
      cases lastFor? x y items with
      | some last => rfl
      | none =>
        -- no later element names the cell, so this one decides if it does
        have hsx := saturate64_eq_iff (n := e.x) hx₀ (by omega)
        have hsy := saturate64_eq_iff (n := e.y) hy₀ (by omega)
        rw [hrun, Display.tile?_putCell]
        by_cases hcell : e.x = x ∧ e.y = y
        · obtain ⟨rfl, rfl⟩ := hcell
          have hin : (d.cellIndex? (Number.saturate64 e.x) (Number.saturate64 e.y)).isSome := by
            rw [hsx.mpr rfl, hsy.mpr rfl]
            simp [Display.cellIndex?, hx₀, hx, hy₀, hy]
          rw [if_pos ⟨hsx.mpr rfl, hsy.mpr rfl, hin⟩]
          simp [Option.filter]
        · rw [if_neg fun h => hcell ⟨hsx.mp h.1, hsy.mp h.2.1⟩]
          simp [Option.filter, hcell]

/-! ### The frame of an object, part by part -/

/-- The commands of an object for its sprites. -/
def spriteCommands (ms : Json.Members) : List Command :=
  ((elements (Entries.get? ms "sprites")).zipIdx.filterMap fun e => spriteCommand? e.2 e.1)

/-- The commands of an object for its tiles. -/
def tileCommands (ms : Json.Members) : List Command :=
  (elements (Entries.get? ms "tiles")).filterMap tileCommand?

/-- The commands of an object for its registers, and the game's end. -/
def registerCommands (ms : Json.Members) : List Command :=
  (((Entries.get? ms "background").bind Json.whole?).map Command.setBackground).toList
    ++ (((Entries.get? ms "score").bind Json.whole?).map Command.setScore).toList
    ++ if isLiterallyTrue (Entries.get? ms "gameOver") then [.gameOver] else []

/-- A null member counts as missing, and a missing member gives no command either. -/
theorem groupedCommands_groupedOf (ms : Json.Members) :
    groupedCommands (groupedOf ms)
      = spriteCommands ms ++ tileCommands ms ++ registerCommands ms := by
  have hitems : ∀ v, itemsOf (Json.present? v) = elements v := by
    intro v
    rcases v with _ | v
    · rfl
    · cases v <;> rfl
  have hwhole : ∀ v, (Json.present? v).bind Json.whole? = v.bind Json.whole? := by
    intro v
    rcases v with _ | v
    · rfl
    · cases v <;> rfl
  have hends : ∀ v, groupedCommands { gameOver := Json.present? v }
      = if isLiterallyTrue v then [Command.gameOver] else [] := by
    intro v
    rcases v with _ | v
    · rfl
    · cases v with
      | bool b => cases b <;> rfl
      | _ => rfl
  have hparts : groupedCommands (groupedOf ms)
      = ((itemsOf (Json.present? (Entries.get? ms "sprites"))).zipIdx.filterMap fun e =>
          spriteCommand? e.2 e.1)
        ++ (itemsOf (Json.present? (Entries.get? ms "tiles"))).filterMap tileCommand?
        ++ (((Json.present? (Entries.get? ms "background")).bind Json.whole?).map
          Command.setBackground).toList
        ++ (((Json.present? (Entries.get? ms "score")).bind Json.whole?).map
          Command.setScore).toList
        ++ groupedCommands { gameOver := Json.present? (Entries.get? ms "gameOver") } := rfl
  rw [hparts, hends, hitems, hitems, hwhole, hwhole]
  unfold spriteCommands tileCommands registerCommands
  simp only [List.append_assoc]

theorem exists_of_mem_spriteCommands {ms : Json.Members} {c : Command}
    (h : c ∈ spriteCommands ms) : ∃ slot sprite x y, c = .placeSprite slot sprite x y := by
  obtain ⟨e, _, he⟩ := List.mem_filterMap.mp h
  obtain ⟨sprite, x, y, rfl, _⟩ := spriteCommand?_eq_some he
  exact ⟨_, _, x, y, rfl⟩

theorem eq_placeTile_of_tileCommand? {entry : Json} {c : Command}
    (h : tileCommand? entry = some c) : ∃ x y tile, c = .placeTile x y tile := by
  unfold tileCommand? at h
  simp only [bind, Option.bind_eq_some_iff, pure, Option.some.injEq] at h
  obtain ⟨x, _, y, _, tile, _, rfl⟩ := h
  exact ⟨x, y, tile, rfl⟩

theorem exists_of_mem_tileCommands {ms : Json.Members} {c : Command}
    (h : c ∈ tileCommands ms) : ∃ x y tile, c = .placeTile x y tile := by
  obtain ⟨e, _, he⟩ := List.mem_filterMap.mp h
  exact eq_placeTile_of_tileCommand? he

theorem exists_of_mem_registerCommands {ms : Json.Members} {c : Command}
    (h : c ∈ registerCommands ms) :
    (∃ n, c = .setBackground n) ∨ (∃ n, c = .setScore n) ∨ c = .gameOver := by
  unfold registerCommands at h
  simp only [List.mem_append, Option.mem_toList, Option.map_eq_some_iff] at h
  rcases h with (⟨n, _, rfl⟩ | ⟨n, _, rfl⟩) | h
  · exact Or.inl ⟨n, rfl⟩
  · exact Or.inr (Or.inl ⟨n, rfl⟩)
  · split at h
    · exact Or.inr (Or.inr (List.mem_singleton.mp h))
    · exact absurd h List.not_mem_nil

/-- Register commands leave slots and cells alone. -/
theorem foldl_registerCommands {α : Type} (view : Display → α) (ms : Json.Members)
    (hview : ∀ (d e : Display), d.grid = e.grid → d.slots = e.slots → d.cells = e.cells →
      view d = view e) (d : Display) :
    view ((registerCommands ms).foldl Command.run d) = view d := by
  apply foldl_run_of_forall
  intro c hc d
  rcases exists_of_mem_registerCommands hc with ⟨n, rfl⟩ | ⟨n, rfl⟩ | rfl <;>
    exact hview _ _ rfl rfl rfl

/-- The registers after the register commands. -/
theorem registers_foldl_registerCommands (ms : Json.Members) (d : Display) :
    ((registerCommands ms).foldl Command.run d).background
        = register d.background (Entries.get? ms "background") ∧
      ((registerCommands ms).foldl Command.run d).score
        = register d.score (Entries.get? ms "score") ∧
      ((registerCommands ms).foldl Command.run d).gameOver
        = (d.gameOver || isLiterallyTrue (Entries.get? ms "gameOver")) := by
  have hwhole : ∀ v : Option Json,
      v.bind Json.whole? = (v.bind Json.floor?).map signed64 := by
    intro v
    cases v with
    | none => rfl
    | some v => exact whole?_eq v
  unfold registerCommands register
  rw [hwhole, hwhole]
  cases ((Entries.get? ms "background").bind Json.floor?).map signed64 <;>
    cases ((Entries.get? ms "score").bind Json.floor?).map signed64 <;>
      cases isLiterallyTrue (Entries.get? ms "gameOver") <;>
        simp [Command.run, Display.setGameOver]

/-- Sprites and tiles leave the registers and the game's end alone. -/
theorem registers_foldl_lists (ms : Json.Members) (d : Display) :
    let e := (spriteCommands ms ++ tileCommands ms).foldl Command.run d
    e.background = d.background ∧ e.score = d.score ∧ e.gameOver = d.gameOver := by
  have hlists : ∀ c ∈ spriteCommands ms ++ tileCommands ms, ∀ d : Display,
      (c.run d).background = d.background ∧ (c.run d).score = d.score ∧
        (c.run d).gameOver = d.gameOver := by
    intro c hc d
    rcases List.mem_append.mp hc with h | h
    · obtain ⟨slot, sprite, x, y, rfl⟩ := exists_of_mem_spriteCommands h
      exact ⟨background_putSlot _ _ _, score_putSlot _ _ _, Frame.gameOver_run d _ nofun⟩
    · obtain ⟨x, y, tile, rfl⟩ := exists_of_mem_tileCommands h
      exact ⟨background_putCell _ _ _ _, score_putCell _ _ _ _, Frame.gameOver_run d _ nofun⟩
  exact ⟨foldl_run_of_forall Display.background (fun c hc d => (hlists c hc d).1) d,
    foldl_run_of_forall Display.score (fun c hc d => (hlists c hc d).2.1) d,
    foldl_run_of_forall Display.gameOver (fun c hc d => (hlists c hc d).2.2) d⟩

/-- An emptied sprite table is filled by the list of sprites, whatever comes after it. -/
theorem slot?_apply_grouped (ms : Json.Members) (d : Display) {i : Nat} (hi : i < 64) :
    ((grouped (groupedOf ms)).frame.apply d).slot? i
      = ((elements (Entries.get? ms "sprites"))[i]?).bind placed? := by
  have hcleared : ∀ j, 0 ≤ j → d.clearSprites.slot? j = none := by
    intro j _
    simp only [Display.slot?, Display.clearSprites, Vector.getElem?_replicate]
    split <;> rfl
  have hsprites := slot?_foldl_sprites (elements (Entries.get? ms "sprites")) 0 d.clearSprites
    hcleared i hi
  rw [if_neg (Nat.not_lt_zero i), Nat.sub_zero] at hsprites
  have htiles : ∀ e : Display,
      ((tileCommands ms).foldl Command.run e).slot? i = e.slot? i := by
    apply foldl_run_of_forall (fun e => e.slot? i)
    intro c hc e
    obtain ⟨x, y, tile, rfl⟩ := exists_of_mem_tileCommands hc
    exact Display.slot?_putCell e x y _ i
  have hregisters := foldl_registerCommands (fun e => e.slot? i) ms
    fun d e _ hslots _ => by simp only [Display.slot?, hslots]
  show ((groupedCommands (groupedOf ms)).foldl Command.run d.clearSprites).slot? i = _
  rw [groupedCommands_groupedOf, List.foldl_append, List.foldl_append, hregisters, htiles]
  exact hsprites

/-- A cell is decided by the list of tiles alone. -/
theorem tile?_apply_grouped (ms : Json.Members) (d : Display) {x y : Int}
    (hx₀ : 0 ≤ x) (hx : x < d.grid.cells) (hy₀ : 0 ≤ y) (hy : y < d.grid.cells) :
    ((grouped (groupedOf ms)).frame.apply d).tile? x y =
      match lastFor? x y (elements (Entries.get? ms "tiles")) with
      | some e => e.tile
      | none => d.tile? x y := by
  have hsprites : ∀ e : Display,
      ((spriteCommands ms).foldl Command.run e).tile? x y = e.tile? x y := by
    apply foldl_run_of_forall (fun e => e.tile? x y)
    intro c hc e
    obtain ⟨slot, sprite, px, py, rfl⟩ := exists_of_mem_spriteCommands hc
    exact Display.tile?_putSlot e slot _ x y
  have hgrid : ((spriteCommands ms).foldl Command.run d.clearSprites).grid = d.grid :=
    foldl_run_of_forall Display.grid (fun c _ e => Frame.grid_run e c) d.clearSprites
  have hregisters := foldl_registerCommands (fun e => e.tile? x y) ms fun d e hg _ hc => by
    simp only [Display.tile?, Display.cellIndex?, hg, hc]
  have htiles := tile?_foldl_tiles (elements (Entries.get? ms "tiles"))
    ((spriteCommands ms).foldl Command.run d.clearSprites) hx₀ (by rw [hgrid]; exact hx)
    hy₀ (by rw [hgrid]; exact hy)
  rw [hsprites] at htiles
  show ((groupedCommands (groupedOf ms)).foldl Command.run d.clearSprites).tile? x y = _
  rw [groupedCommands_groupedOf, List.foldl_append, List.foldl_append, hregisters]
  exact htiles

/-- The registers and the game's end are decided by their own members. -/
theorem registers_apply_grouped (ms : Json.Members) (d : Display) :
    let e := (grouped (groupedOf ms)).frame.apply d
    e.background = register d.background (Entries.get? ms "background") ∧
      e.score = register d.score (Entries.get? ms "score") ∧
      e.gameOver = (d.gameOver || isLiterallyTrue (Entries.get? ms "gameOver")) := by
  intro e
  have he : e = (registerCommands ms).foldl Command.run
      ((spriteCommands ms ++ tileCommands ms).foldl Command.run d.clearSprites) := by
    show (groupedCommands (groupedOf ms)).foldl Command.run d.clearSprites = _
    rw [groupedCommands_groupedOf, List.foldl_append]
  obtain ⟨hb, hs, ho⟩ := registers_foldl_lists ms d.clearSprites
  obtain ⟨hb', hs', ho'⟩ := registers_foldl_registerCommands ms
    ((spriteCommands ms ++ tileCommands ms).foldl Command.run d.clearSprites)
  rw [he]
  exact ⟨hb'.trans (by rw [hb]; rfl), hs'.trans (by rw [hs]; rfl), ho'.trans (by rw [ho]; rfl)⟩

/-- Every object is a frame, and applying the frame leaves on the display exactly what the
members of the object show. -/
theorem apply_object (ms : Json.Members) (d : Display) :
    ∃ r, ofJson? (.object ms) = some r ∧
      Shown ms d (r.frame.apply d) (r.frame.raises d) := by
  refine ⟨grouped (groupedOf ms), rfl, ?_⟩
  obtain ⟨hbackground, hscore, hover⟩ := registers_apply_grouped ms d
  constructor
  case slot => exact fun i hi => slot?_apply_grouped ms d hi
  case tile => exact fun x y hx₀ hx hy₀ hy => tile?_apply_grouped ms d hx₀ hx hy₀ hy
  case background => exact hbackground
  case score => exact hscore
  case gameOver => exact hover
  case raised =>
    rw [Frame.raises_eq, Bool.and_eq_true, Bool.not_eq_true']
  case grid => exact Frame.grid_apply _ d
  case paused => exact Frame.paused_apply _ d

end FrameResult

end Handheld
