import Handheld.Proofs.Breakout.Strike
import Handheld.Proofs.Sandbox.Realm

/-!
# The wall on the display

The bricks are counted by the game, and the tiles stand on the display. They meet only in what
the frames say: the first one lays a tile for every brick, and each frame clears the tile of the
brick that it takes away. That goes wrong in one way. A ball that strikes a brick from aside
takes the brick away and leaves its tile, and nothing ever clears a tile without a brick.

So a cell of the wall has a tile exactly if its brick is there or was struck from aside, and the
wall matches the bricks exactly as long as no brick was struck from aside. A frame that takes
long enough carries a ball far enough to the side for that.

* `exists_copies_picture`, `exists_copies_wallTiles`: the frames leave the sandbox, with their
  tiles;
* `brokenAside`: the bricks that are struck from aside;
* `Standing`, `standing_step`: what stands on the display, and what a frame does to it;
* `standing_frame`, `standing_run`: frame by frame, from the answer of the sandbox;
* `wall_run`: the wall and the bricks after any frames of a loaded game;
* `brick_lost_aside`: a game whose wall does not match.
-/

namespace Handheld

/-- The later elements decide about a cell before the earlier ones do. -/
theorem lastFor?_append (x y : ℤ) (first second : List Json) :
    lastFor? x y (first ++ second) = (lastFor? x y second).or (lastFor? x y first) := by
  unfold lastFor?
  rw [List.filterMap_append, List.filter_append, List.getLast?_append]

/-- The sandbox and the display after some frames, each result applied to the display. -/
def Sandbox.shownAfter (s : Sandbox) (d : Display) :
    List (Float × InputSnapshot) → Sandbox × Display
  | [] => (s, d)
  | f :: fs =>
    let r := s.invoke f.1 f.2
    shownAfter r.2.1 (r.1.frame.apply d) fs

/-- The game of a loaded Breakout that has begun. -/
def Sandbox.breakout? (s : Sandbox) : Option Guest.Bundled.Breakout.State :=
  s.realm.bind fun realm =>
    match realm.process with
    | .breakout game => game
    | _ => none

namespace Guest.Bundled.Breakout

open Handheld.Number (toRat?)

/-! ### Frames leave the sandbox -/

theorem exists_copies_spriteAt (room id : ℕ) (x y : Float) :
    ∃ j, Copies (room + 1) (spriteAt id x y) j := by
  obtain ⟨jid, hid⟩ := exists_copies_number room (Number.ofWhole id)
  obtain ⟨jx, hx⟩ := exists_copies_number room x
  obtain ⟨jy, hy⟩ := exists_copies_number room y
  exact ⟨.object [("spriteId", jid), ("x", jx), ("y", jy)],
    copies_object (.cons ⟨rfl, hid⟩ (.cons ⟨rfl, hx⟩ (.cons ⟨rfl, hy⟩ .nil)))⟩

/-- The sprites of a game have copies, wherever the paddle and the ball are. -/
theorem exists_copies_sprites (room : ℕ) (s : State) :
    ∃ js, List.Forall₂ (Copies (room + 1))
      (((List.range 4).map fun i => spriteAt paddleSprite (s.paddle + real (i * 8)) 236) ++
        match s.ball with
        | some b => [spriteAt ballSprite b.x b.y]
        | none => []) js := by
  refine exists_copies_items fun v hv => ?_
  rcases List.mem_append.mp hv with hpaddle | hball
  · obtain ⟨i, -, rfl⟩ := List.mem_map.mp hpaddle
    exact exists_copies_spriteAt room _ _ _
  · cases hb : s.ball with
    | none => simp [hb] at hball
    | some b =>
      simp only [hb, List.mem_singleton] at hball
      exact hball ▸ exists_copies_spriteAt room _ _ _

/-- The picture of a game has a copy if its tiles do. -/
theorem exists_copies_picture {room : ℕ} (s : State) {tiles : List Value} {ts : List Json}
    (h : List.Forall₂ (Copies (room + 1)) tiles ts) :
    ∃ sprites score ended, Copies (room + 3) (s.picture tiles)
      (.object [("sprites", sprites), ("tiles", .list ts), ("score", score),
        ("gameOver", ended)]) := by
  obtain ⟨js, hsprites⟩ := exists_copies_sprites room s
  obtain ⟨score, hscore⟩ := exists_copies_number (room + 2) (Number.ofWhole s.score)
  exact ⟨.list js, score, .bool _,
    copies_object (.cons ⟨rfl, copies_list hsprites⟩ (.cons ⟨rfl, copies_list h⟩
      (.cons ⟨rfl, hscore⟩ (.cons ⟨rfl, copies_bool _ _⟩ .nil))))⟩

theorem toRat?_real {n : ℕ} (h : n < 2 ^ 53) : toRat? (real n) = some ((n : ℤ) : ℚ) :=
  Number.toRat?_ofWhole_of_lt (by rwa [Int.natAbs_natCast])

theorem unsigned32?_natCast {n : ℕ} (h : n < 2 ^ 32) : unsigned32? n = some n := by
  unfold unsigned32?
  rw [if_pos (by omega), Int.toNat_natCast]

/-- A tile at a small cell arrives as it is. -/
theorem exists_copies_placed (room : ℕ) {x y id : ℕ} (hx : x < 32) (hy : y < 32) (hid : id < 32) :
    ∃ j, Copies (room + 1) (tileAt (real x) (real y) (real id)) j ∧
      tileWrite? j = some ⟨x, y, some id⟩ := by
  obtain ⟨jx, hjx⟩ := exists_copies_number room (real x)
  obtain ⟨jy, hjy⟩ := exists_copies_number room (real y)
  obtain ⟨jid, hjid⟩ := exists_copies_number room (real id)
  refine ⟨_, copies_tileAt hjx hjy hjid, ?_⟩
  rw [tileWrite?_tileEntry, floor?_of_copies (toRat?_real (by omega)) (by omega) hjx,
    floor?_of_copies (toRat?_real (by omega)) (by omega) hjy,
    floor?_of_copies (toRat?_real (by omega)) (by omega) hjid,
    ← unsigned32?_natCast (n := id) (by omega)]
  rfl

/-- The tile of the bricks in a row. -/
def rowTile (y : ℕ) : ℕ := if y % 2 = 0 then redTile else yellowTile

theorem rowTile_lt (y : ℕ) : rowTile y < 32 := by
  unfold rowTile
  split <;> decide

/-- The tiles of cells arrive as they are. -/
theorem exists_copies_tiles (room : ℕ) {cells : List (ℕ × ℕ)}
    (h : ∀ c ∈ cells, c.1 < 32 ∧ c.2 < 32) :
    ∃ ts, List.Forall₂ (Copies (room + 1))
        (cells.map fun c => tileAt (real c.1) (real c.2) (real (rowTile c.2))) ts ∧
      ts.filterMap tileWrite? = cells.map fun c => ⟨c.1, c.2, some (rowTile c.2)⟩ := by
  induction cells with
  | nil => exact ⟨[], .nil, rfl⟩
  | cons c cells ih =>
    obtain ⟨hx, hy⟩ := h c List.mem_cons_self
    obtain ⟨j, hj, hwrite⟩ := exists_copies_placed room hx hy (rowTile_lt c.2)
    obtain ⟨ts, hts, hwrites⟩ := ih fun c' hc' => h c' (List.mem_cons_of_mem c hc')
    refine ⟨j :: ts, .cons hj hts, ?_⟩
    rw [List.filterMap_cons, hwrite, hwrites]
    rfl

/-- The tiles of the wall leave the sandbox, and every cell of the wall gets one. -/
theorem exists_copies_wallTiles (room : ℕ) :
    ∃ ts, List.Forall₂ (Copies (room + 1)) wallTiles ts ∧
      ∀ x y : ℕ, OnWall x y → ∃ e, lastFor? x y ts = some e ∧ e.tile.isSome = true := by
  have hsmall : ∀ c ∈ wallCells, c.1 < 32 ∧ c.2 < 32 := fun c hc => by
    have hwall : OnWall c.1 c.2 := mem_wallCells.mp hc
    unfold OnWall at hwall
    omega
  obtain ⟨ts, hts, hwrites⟩ := exists_copies_tiles room hsmall
  refine ⟨ts, hts, fun x y hwall => ?_⟩
  unfold lastFor?
  rw [hwrites]
  have hmem : (⟨x, y, some (rowTile y)⟩ : TileWrite) ∈
      (wallCells.map fun c => (⟨c.1, c.2, some (rowTile c.2)⟩ : TileWrite)).filter
        fun e => e.x = (x : ℤ) ∧ e.y = (y : ℤ) :=
    List.mem_filter.mpr ⟨List.mem_map.mpr ⟨(x, y), mem_wallCells.mpr hwall, rfl⟩, by simp⟩
  obtain ⟨e, he⟩ := Option.isSome_iff_exists.mp
    (List.getLast?_isSome.mpr (List.ne_nil_of_mem hmem))
  refine ⟨e, he, ?_⟩
  obtain ⟨c, -, rfl⟩ := List.mem_map.mp (List.mem_of_mem_filter (List.mem_of_getLast? he))
  rfl

/-! ### What stands on the display -/

/-- The brick that a frame strikes from aside. -/
def State.brokenAside? (s : State) (scope : Scope) : Option ℤ :=
  (s.struck? scope).bind fun hit => if hit.1.isAside then some hit.2 else none

/-- The bricks that are struck from aside while frames are played one after the other. -/
def brokenAside : Option State → List Scope → List ℤ
  | _, [] => []
  | game, scope :: scopes =>
    ((game.getD .fresh).brokenAside? scope).toList
      ++ brokenAside (some (update game scope).2) scopes

/-- What is up in the wall: the bricks that are left and those that were struck from aside. -/
structure Standing (bricks aside : List ℤ) (up : ℕ → ℕ → Prop) : Prop where
  cell : ∀ key ∈ bricks ++ aside, ∃ x y, OnWall x y ∧ key = cellKey x y
  apart : ∀ key ∈ aside, key ∉ bricks
  up_iff : ∀ x y, OnWall x y → (up x y ↔ cellKey x y ∈ bricks ∨ cellKey x y ∈ aside)

/-- In the beginning every brick is up. -/
theorem standing_fresh {up : ℕ → ℕ → Prop} (h : ∀ x y, OnWall x y → up x y) :
    Standing State.fresh.bricks [] up where
  cell key hkey := by
    rw [List.append_nil] at hkey
    obtain ⟨c, hc, rfl⟩ := List.mem_map.mp hkey
    exact ⟨c.1, c.2, mem_wallCells.mp hc, rfl⟩
  apart := fun key hkey => absurd hkey List.not_mem_nil
  up_iff x y hwall :=
    iff_of_true (h x y hwall) (Or.inl (List.mem_map.mpr ⟨(x, y), mem_wallCells.mpr hwall, rfl⟩))

/-- Only what is up at the cells of the wall matters. -/
theorem Standing.congr {bricks aside : List ℤ} {up up' : ℕ → ℕ → Prop}
    (h : Standing bricks aside up) (heq : ∀ x y, OnWall x y → (up' x y ↔ up x y)) :
    Standing bricks aside up' where
  cell := h.cell
  apart := h.apart
  up_iff x y hwall := (heq x y hwall).trans (h.up_iff x y hwall)

/-- A brick that is struck goes, and with it what was up in its cell. -/
theorem Standing.broken {bricks aside : List ℤ} {up up' : ℕ → ℕ → Prop}
    (h : Standing bricks aside up) {x₀ y₀ : ℕ} (hmem : cellKey x₀ y₀ ∈ bricks)
    (hwall₀ : OnWall x₀ y₀)
    (heq : ∀ x y, OnWall x y → (up' x y ↔ up x y ∧ ¬(x = x₀ ∧ y = y₀))) :
    Standing (bricks.filter fun k => k ≠ cellKey x₀ y₀) aside up' where
  cell key hkey := h.cell key (by
    rcases List.mem_append.mp hkey with hleft | haside
    · exact List.mem_append_left _ (List.mem_of_mem_filter hleft)
    · exact List.mem_append_right _ haside)
  apart key haside hkey := h.apart key haside (List.mem_of_mem_filter hkey)
  up_iff x y hwall := by
    have hsame : cellKey x y = cellKey x₀ y₀ ↔ x = x₀ ∧ y = y₀ :=
      ⟨cellKey_inj hwall hwall₀, fun hcell => by rw [hcell.1, hcell.2]⟩
    have hkept : cellKey x y ∈ aside → ¬(x = x₀ ∧ y = y₀) := fun haside hcell =>
      h.apart _ haside (hsame.mpr hcell ▸ hmem)
    rw [heq x y hwall, h.up_iff x y hwall, List.mem_filter, decide_eq_true_iff, Ne, hsame]
    tauto

/-- A brick that is struck from aside goes, but what was up in its cell is left. -/
theorem Standing.struckAside {bricks aside : List ℤ} {up : ℕ → ℕ → Prop}
    (h : Standing bricks aside up) {key : ℤ} (hmem : key ∈ bricks) :
    Standing (bricks.filter fun k => k ≠ key) (aside ++ [key]) up where
  cell k hk := h.cell k (by
    simp only [List.mem_append, List.mem_filter, List.mem_singleton] at hk ⊢
    rcases hk with ⟨hleft, -⟩ | haside | rfl
    · exact Or.inl hleft
    · exact Or.inr haside
    · exact Or.inl hmem)
  apart k hk hleft := by
    obtain ⟨hbrick, hne⟩ := List.mem_filter.mp hleft
    rcases List.mem_append.mp hk with haside | hlast
    · exact h.apart k haside hbrick
    · exact of_decide_eq_true hne (List.mem_singleton.mp hlast)
  up_iff x y hwall := by
    rw [h.up_iff x y hwall, List.mem_filter, decide_eq_true_iff, List.mem_append,
      List.mem_singleton]
    by_cases hkey : cellKey x y = key
    · simp [hkey, hmem]
    · simp [hkey]

/-- What elements of `tiles` leave up. -/
def upAfter (ts : List Json) (up : ℕ → ℕ → Prop) (x y : ℕ) : Prop :=
  match lastFor? x y ts with
  | some e => e.tile.isSome = true
  | none => up x y

/-- A frame's tile leaves the sandbox, and it leaves up what is to be left. -/
theorem standing_step (room : ℕ) {s : State} {aside : List ℤ} {up : ℕ → ℕ → Prop}
    (h : Standing s.bricks aside up) (scope : Scope) :
    ∃ ts, List.Forall₂ (Copies (room + 1)) (s.step scope).1 ts ∧
      Standing (s.step scope).2.bricks (aside ++ (s.brokenAside? scope).toList)
        (upAfter ts up) := by
  rcases step_cases s scope with ⟨hstruck, hcleared, hbricks⟩ |
    ⟨b, key, hstruck, hkey, hmem, hcleared, hbricks⟩
  · have hnone : s.brokenAside? scope = none := by rw [State.brokenAside?, hstruck]; rfl
    rw [hcleared, hbricks, hnone, Option.toList_none, List.append_nil]
    exact ⟨[], .nil, h⟩
  · obtain ⟨x₀, y₀, hwall₀, rfl⟩ := h.cell key (List.mem_append_left _ hmem)
    obtain ⟨j, hj, hlast⟩ := exists_copies_cleared room hkey hwall₀
    rw [hcleared, hbricks]
    refine ⟨[j], .cons hj .nil, ?_⟩
    cases haside : b.isAside with
    | false =>
      have hnone : s.brokenAside? scope = none := by
        rw [State.brokenAside?, hstruck]
        simp [haside]
      rw [hnone, Option.toList_none, List.append_nil]
      refine h.broken hmem hwall₀ fun x y hwall => ?_
      rw [upAfter, hlast x y hwall]
      by_cases hcell : x = x₀ ∧ y = y₀ <;> simp [haside, hcell]
    | true =>
      have hsome : s.brokenAside? scope = some (cellKey x₀ y₀) := by
        rw [State.brokenAside?, hstruck]
        simp [haside]
      rw [hsome, Option.toList_some]
      refine (h.struckAside hmem).congr fun x y hwall => ?_
      rw [upAfter, hlast x y hwall]
      simp [haside]

/-! ### Frame by frame -/

/-- The wall as it stands beside a game. Before its first frame nothing is asked of the display:
that frame lays the whole wall. -/
def Stands (game : Option State) (aside : List ℤ) (d : Display) : Prop :=
  match game with
  | some s => Standing s.bricks aside fun x y => (d.tile? x y).isSome = true
  | none => aside = []

/-- What an update returns leaves the sandbox as an object whose tiles keep the wall standing. -/
theorem exists_copies_update (room : ℕ) {game : Option State} {aside : List ℤ} {d : Display}
    (h : Stands game aside d) (scope : Scope) :
    ∃ sprites ts score ended, Copies (room + 3) (update game scope).1
        (.object [("sprites", sprites), ("tiles", .list ts), ("score", score),
          ("gameOver", ended)]) ∧
      Standing (update game scope).2.bricks
        (aside ++ ((game.getD .fresh).brokenAside? scope).toList)
        (upAfter ts fun x y => (d.tile? x y).isSome = true) := by
  cases game with
  | some s =>
    obtain ⟨ts, hts, hstanding⟩ := standing_step room h scope
    obtain ⟨sprites, score, ended, hcopies⟩ := exists_copies_picture (s.step scope).2 hts
    exact ⟨sprites, ts, score, ended, hcopies, hstanding⟩
  | none =>
    obtain rfl : aside = [] := h
    obtain ⟨laid, hlaid, hlast⟩ := exists_copies_wallTiles room
    -- the wall is laid first, and then the frame is like any other
    have hfresh : Standing State.fresh.bricks []
        (upAfter laid fun x y => (d.tile? x y).isSome = true) := by
      refine standing_fresh fun x y hwall => ?_
      obtain ⟨e, he, hsome⟩ := hlast x y hwall
      rw [upAfter, he]
      exact hsome
    obtain ⟨ts, hts, hstanding⟩ := standing_step room hfresh scope
    obtain ⟨sprites, score, ended, hcopies⟩ :=
      exists_copies_picture (State.fresh.step scope).2 (List.rel_append hlaid hts)
    refine ⟨sprites, laid ++ ts, score, ended, hcopies, hstanding.congr fun x y _ => ?_⟩
    unfold upAfter
    rw [lastFor?_append]
    cases lastFor? x y ts <;> rfl

/-- An object that is returned and reports nothing is a frame. -/
theorem outcome_returned {v : Value} {es : Json.Members} (h : Copies depthLimit v (.object es))
    (herror : (FrameResult.groupedOf es).error = none) :
    Sandbox.outcome (.returned v) = .ok (.grouped (FrameResult.groupedOf es)) := by
  show (v.copyOut.mapError fun fault => GuestError.thrown fault.message) >>= Sandbox.classify = _
  rw [copyOut_eq h]
  simp [Except.mapError, bind, Except.bind, Sandbox.classify, FrameResult.ofJson?,
    FrameResult.report?, herror]

/-- A frame of a loaded Breakout is what its update returned. -/
theorem invoke_eq {s : Sandbox} {c : Cartridge} {game : Option State} (hready : s.ready = true)
    (hrealm : s.realm = some ⟨c, .breakout game⟩) (delta : Float) (input : InputSnapshot)
    {es : Json.Members} (hcopies : Copies depthLimit
      (update game { delta := delta, input := input.fields s.limits.systemButtons }).1
      (.object es)) (herror : (FrameResult.groupedOf es).error = none) :
    s.invoke delta input = (.grouped (FrameResult.groupedOf es),
      { s with realm := some ⟨c, .breakout (some
        (update game { delta := delta, input := input.fields s.limits.systemButtons }).2)⟩ },
      []) := by
  unfold Sandbox.invoke
  rw [hready, hrealm]
  simp only [Process.call, outcome_returned hcopies herror]
  rfl

/-- A frame of a loaded Breakout keeps the wall standing. -/
theorem standing_frame {s : Sandbox} {c : Cartridge} {game : Option State}
    (hready : s.ready = true) (hrealm : s.realm = some ⟨c, .breakout game⟩) {aside : List ℤ}
    {d : Display} (hgrid : d.grid = .large) (h : Stands game aside d) (delta : Float)
    (input : InputSnapshot) :
    let scope : Scope := { delta := delta, input := input.fields s.limits.systemButtons }
    (s.invoke delta input).2.1
        = { s with realm := some ⟨c, .breakout (some (update game scope).2)⟩ } ∧
      Stands (some (update game scope).2)
        (aside ++ ((game.getD .fresh).brokenAside? scope).toList)
        ((s.invoke delta input).1.frame.apply d) := by
  intro scope
  obtain ⟨sprites, ts, score, ended, hcopies, hstanding⟩ := exists_copies_update 124 h scope
  have hinvoke := invoke_eq hready hrealm delta input hcopies rfl
  rw [hinvoke]
  refine ⟨rfl, hstanding.congr fun x y hwall => ?_⟩
  unfold OnWall at hwall
  have hcells : d.grid.cells = 32 := by rw [hgrid]; rfl
  rw [FrameResult.tile?_apply_grouped _ d (by omega) (by omega) (by omega) (by omega), upAfter]
  show _ ↔ (match lastFor? x y ts with
    | some e => e.tile.isSome = true
    | none => (d.tile? x y).isSome = true)
  cases hlast : lastFor? x y ts <;> simp [elements, hlast, Entries.get?]

/-! ### Any number of frames -/

/-- What a cartridge sees of some frames. -/
def scopes (system : Bool) (frames : List (Float × InputSnapshot)) : List Scope :=
  frames.map fun f => { delta := f.1, input := f.2.fields system }

/-- Frames keep the wall standing. -/
theorem standing_run {s : Sandbox} {c : Cartridge} {game : State} (hready : s.ready = true)
    (hrealm : s.realm = some ⟨c, .breakout (some game)⟩) {aside : List ℤ} {d : Display}
    (hgrid : d.grid = .large) (h : Stands (some game) aside d)
    (frames : List (Float × InputSnapshot)) :
    ∃ game', (s.shownAfter d frames).1.breakout? = some game' ∧
      Stands (some game')
        (aside ++ brokenAside (some game) (scopes s.limits.systemButtons frames))
        (s.shownAfter d frames).2 := by
  induction frames generalizing s game aside d with
  | nil =>
    refine ⟨game, ?_, ?_⟩
    · show s.breakout? = some game
      rw [Sandbox.breakout?, hrealm]
      rfl
    · rw [scopes, List.map_nil, brokenAside, List.append_nil]
      exact h
  | cons f frames ih =>
    obtain ⟨hsandbox, hstands⟩ := standing_frame hready hrealm hgrid h f.1 f.2
    obtain ⟨game', hgame, hend⟩ := ih (s := (s.invoke f.1 f.2).2.1) (by rw [hsandbox]; exact hready)
      (by rw [hsandbox]) (by rw [Frame.grid_apply]; exact hgrid) hstands
    have hlimits : (s.invoke f.1 f.2).2.1.limits = s.limits := by rw [hsandbox]
    refine ⟨game', hgame, ?_⟩
    rw [List.append_assoc, hlimits] at hend
    exact hend

/-- A load that succeeds leaves a Breakout that has not begun. -/
theorem realm_of_load {s : Sandbox} (h : (s.load Bundled.breakout.cartridge).1.isOk = true) :
    let t := (s.load Bundled.breakout.cartridge).2.1
    t.ready = true ∧ t.realm = some ⟨Bundled.breakout.cartridge, .breakout none⟩ ∧
      t.limits = s.limits := by
  intro t
  rcases hload : s.load Bundled.breakout.cartridge with ⟨outcome, u, told⟩
  cases outcome with
  | error cause => rw [hload] at h; cases h
  | ok d =>
    obtain ⟨p, hinspect, hu⟩ := Sandbox.load_of_ok hload
    have hready := Sandbox.ready_of_ok hload
    have hprocess := Sandbox.process?_of_inspect hinspect
    obtain rfl : .breakout none = p := Option.some.inj hprocess
    have ht : t = { s with realm := some ⟨Bundled.breakout.cartridge, .breakout none⟩ } := by
      show (s.load Bundled.breakout.cartridge).2.1 = _
      rw [hload]
      exact hu
    rw [ht]
    exact ⟨hready, rfl, rfl⟩

/-- From the first frame of a loaded Breakout on the wall stands. -/
theorem standing_loaded {s : Sandbox} (h : (s.load Bundled.breakout.cartridge).1.isOk = true)
    {d : Display} (hgrid : d.grid = .large) (f : Float × InputSnapshot)
    (fs : List (Float × InputSnapshot)) :
    let shown := (s.load Bundled.breakout.cartridge).2.1.shownAfter d (f :: fs)
    ∃ game, shown.1.breakout? = some game ∧
      Standing game.bricks (brokenAside none (scopes s.limits.systemButtons (f :: fs)))
        fun x y => (shown.2.tile? x y).isSome = true := by
  obtain ⟨hready, hrealm, hlimits⟩ := realm_of_load h
  generalize (s.load Bundled.breakout.cartridge).2.1 = t at hready hrealm hlimits
  have hunbegun : Stands none [] d := rfl
  obtain ⟨hsandbox, hstands⟩ := standing_frame hready hrealm hgrid hunbegun f.1 f.2
  obtain ⟨game, hgame, hend⟩ := standing_run (s := (t.invoke f.1 f.2).2.1)
    (by rw [hsandbox]; exact hready) (by rw [hsandbox])
    (by rw [Frame.grid_apply]; exact hgrid) hstands fs
  have hsame : (t.invoke f.1 f.2).2.1.limits = s.limits := by rw [hsandbox, ← hlimits]
  refine ⟨game, hgame, ?_⟩
  rw [List.nil_append, hsame, hlimits] at hend
  exact hend

/-- After any frames of a loaded Breakout, a cell of the wall has a tile exactly if its brick is
left or was struck from aside. The wall matches the bricks exactly if no brick was struck from
aside. -/
theorem wall_run (s : Sandbox) (d : Display) (f : Float × InputSnapshot)
    (fs : List (Float × InputSnapshot))
    (hload : (s.load Bundled.breakout.cartridge).1.isOk = true) (hgrid : d.grid = .large) :
    let shown := (s.load Bundled.breakout.cartridge).2.1.shownAfter d (f :: fs)
    let aside := brokenAside none (scopes s.limits.systemButtons (f :: fs))
    ∃ game, shown.1.breakout? = some game ∧
      (∀ x y : ℕ, 2 ≤ x → x < 30 → 4 ≤ y → y < 8 →
        ((shown.2.tile? x y).isSome = true ↔
          cellKey x y ∈ game.bricks ∨ cellKey x y ∈ aside)) ∧
      ((∀ x y : ℕ, 2 ≤ x → x < 30 → 4 ≤ y → y < 8 →
          ((shown.2.tile? x y).isSome = true ↔ cellKey x y ∈ game.bricks)) ↔ aside = []) := by
  intro shown aside
  obtain ⟨game, hgame, hstanding⟩ := standing_loaded hload hgrid f fs
  refine ⟨game, hgame, fun x y h₁ h₂ h₃ h₄ => hstanding.up_iff x y ⟨h₁, h₂, h₃, h₄⟩, ?_⟩
  constructor
  · intro hmatches
    refine List.eq_nil_iff_forall_not_mem.mpr fun key hkey => ?_
    obtain ⟨x, y, hwall, rfl⟩ := hstanding.cell key (List.mem_append_right _ hkey)
    have hup := (hstanding.up_iff x y hwall).mpr (Or.inr hkey)
    obtain ⟨h₁, h₂, h₃, h₄⟩ := hwall
    exact hstanding.apart _ hkey ((hmatches x y h₁ h₂ h₃ h₄).mp hup)
  · intro hnone x y h₁ h₂ h₃ h₄
    have hup := hstanding.up_iff x y ⟨h₁, h₂, h₃, h₄⟩
    rw [show brokenAside none (scopes s.limits.systemButtons (f :: fs)) = [] from hnone] at hup
    simpa using hup

/-! ### A wall that matches and one that does not -/

def console : Sandbox := ({} : Sandbox).acquire.1

theorem load_breakout : (console.load Bundled.breakout.cartridge).1.isOk = true := by
  decide +kernel

/-- A frame without buttons. -/
def quiet (delta : Float) : Float × InputSnapshot := (delta, ⟨.empty, .empty⟩)

/-- A frame in which the ball is launched. -/
def launching (delta : Float) : Float × InputSnapshot :=
  (delta, ⟨Buttons.empty.insert .a, Buttons.empty.insert .a⟩)

/-- The ball turns at the right side and strikes a brick from below; the wall matches. -/
theorem wall_struck :
    let shown := (console.load Bundled.breakout.cartridge).2.1.shownAfter (.new .large)
      [quiet 0, launching 1.4, quiet 0.1, quiet 0.1]
    ∃ game, shown.1.breakout? = some game ∧
      ∀ x y : ℕ, 2 ≤ x → x < 30 → 4 ≤ y → y < 8 →
        ((shown.2.tile? x y).isSome = true ↔ cellKey x y ∈ game.bricks) := by
  obtain ⟨game, hgame, -, hmatches⟩ := wall_run console (.new .large) (quiet 0)
    [launching 1.4, quiet 0.1, quiet 0.1] load_breakout rfl
  exact ⟨game, hgame, hmatches.mpr (by decide +kernel)⟩

/-- After a stall the ball is to the right of the grid and has the number of a brick at its left:
the brick is gone, and its tile still stands. -/
theorem brick_lost_aside :
    let frames := [quiet 0, launching 1.6]
    let shown := (console.load Bundled.breakout.cartridge).2.1.shownAfter (.new .large) frames
    (∀ f ∈ frames, 0 ≤ f.1) ∧
      ∃ game, shown.1.breakout? = some game ∧ cellKey 2 5 ∉ game.bricks ∧
        (shown.2.tile? 2 5).isSome = true := by
  obtain ⟨game, hgame, hstanding⟩ := standing_loaded load_breakout (d := .new .large) rfl
    (quiet 0) [launching 1.6]
  have haside : brokenAside none
      (scopes console.limits.systemButtons [quiet 0, launching 1.6]) = [cellKey 2 5] := by
    decide +kernel
  rw [haside] at hstanding
  have hlost : cellKey 2 5 ∈ [cellKey 2 5] := List.mem_singleton.mpr rfl
  have hwall : OnWall 2 5 := by unfold OnWall; decide
  exact ⟨by decide +kernel, game, hgame, hstanding.apart _ hlost,
    (hstanding.up_iff 2 5 hwall).mpr (Or.inr hlost)⟩

end Guest.Bundled.Breakout

end Handheld
