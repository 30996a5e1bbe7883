import Handheld.Proofs.Display.Storage
import Handheld.Proofs.Frame.Shapes

/-!
# Frames, one after the other

A frame is a list of requests to the display, so a frame that is applied once more changes nothing
and does not end the game again. Flat lists that are applied one after the other, a frame each, do
what the one list does that holds the entries of both. In that list the last entry decides that
names a slot, a cell or a register and has all the numbers that it needs.

* `Command.request`, `Frame.requests`, `run_requests`: a frame as requests to the display;
* `apply_apply`, `not_raises_apply`: a frame that is applied once more;
* `asks?`: what an entry of a flat list asks of the display, read off its members;
* `Decided`, `decided_commands`: the last entry decides;
* `apply_succession`: both shapes once more, and flat lists one after the other.
-/

namespace Handheld

open Display (Request)

/-! ### Frames as requests -/

/-- A command as a request to the display. A number that no sprite or tile has empties the place. -/
def Command.request : Command → Request
  | .placeSprite slot sprite x y =>
    match indexOf? sprite with
    | some n => .setSprite slot ⟨n, x, y⟩
    | none => .clearSprite slot
  | .clearSprite slot => .clearSprite slot
  | .placeTile x y tile =>
    match indexOf? tile with
    | some n => .setTile x y n
    | none => .clearTile x y
  | .clearTile x y => .clearTile x y
  | .setBackground index => .setBackground index
  | .setScore score => .setScore score
  | .gameOver => .setGameOver true

theorem step_request (d : Display) (c : Command) : d.step c.request = c.run d := by
  cases c with
  | placeSprite slot sprite x y =>
    simp only [Command.request, Command.run]
    cases indexOf? sprite <;> rfl
  | placeTile x y tile =>
    simp only [Command.request, Command.run]
    cases indexOf? tile <;> rfl
  | clearSprite | clearTile | setBackground | setScore | gameOver => rfl

namespace Frame

/-- The requests of a frame, the emptying of the slots first. -/
def requests (f : Frame) : List Request :=
  (if f.clearSprites then [.clearSprites] else []) ++ f.commands.map Command.request

/-- Applying a frame is making its requests. -/
theorem run_requests (f : Frame) (d : Display) : d.run f.requests = f.apply d := by
  have hprepare : d.run (if f.clearSprites then [.clearSprites] else []) = f.prepare d := by
    unfold prepare
    split <;> rfl
  have hcommands : ∀ (cs : List Command) (e : Display),
      e.run (cs.map Command.request) = cs.foldl Command.run e := by
    intro cs
    induction cs with
    | nil => intro e; rfl
    | cons c cs ih =>
      intro e
      rw [List.map_cons, Display.run_cons, step_request, ih, List.foldl_cons]
  rw [requests, Display.run_append, hprepare, hcommands, apply]

/-- A frame that is applied once more changes nothing. -/
theorem apply_apply (f : Frame) (d : Display) : f.apply (f.apply d) = f.apply d := by
  rw [← run_requests, ← run_requests, Display.run_run]

/-- A frame that is applied once more does not end the game. -/
theorem not_raises_apply (f : Frame) (d : Display) : f.raises (f.apply d) = false := by
  rw [raises_eq, apply_apply]
  cases (f.apply d).gameOver <;> rfl

end Frame

namespace FrameResult

/-! ### What an entry of a flat list asks for -/

/-- What an entry of a flat list asks of the display, if it has the numbers that its kind needs. The
numbers of slots and cells are not held in registers here. -/
def asks? (entry : Json) : Option Request :=
  match entry.field? "type" with
  | some (.text "sprite") => do
    let slot ← (entry.field? "slotId").bind Json.floor?
    let sprite ← (entry.field? "spriteId").bind Json.floor?
    let x ← (entry.field? "x").bind Json.finite?
    let y ← (entry.field? "y").bind Json.finite?
    return match unsigned32? sprite with
      | some n => .setSprite slot ⟨n, Number.toSingle x, Number.toSingle y⟩
      | none => .clearSprite slot
  | some (.text "clearSprite") => ((entry.field? "slotId").bind Json.floor?).map .clearSprite
  | some (.text "tile") => do
    let x ← (entry.field? "x").bind Json.floor?
    let y ← (entry.field? "y").bind Json.floor?
    let tile ← (entry.field? "tileId").bind Json.floor?
    return match unsigned32? tile with
      | some n => .setTile x y n
      | none => .clearTile x y
  | some (.text "clearTile") => do
    let x ← (entry.field? "x").bind Json.floor?
    let y ← (entry.field? "y").bind Json.floor?
    return .clearTile x y
  | some (.text "background") =>
    ((entry.field? "colorIndex").bind Json.floor?).map fun n => .setBackground (signed64 n)
  | some (.text "score") =>
    ((entry.field? "value").bind Json.floor?).map fun n => .setScore (signed64 n)
  | _ => none

/-- A request with the numbers of its slot or cell held in registers. -/
def saturated : Request → Request
  | .setSprite slot p => .setSprite (Number.saturate64 slot) p
  | .clearSprite slot => .clearSprite (Number.saturate64 slot)
  | .setTile x y tile => .setTile (Number.saturate64 x) (Number.saturate64 y) tile
  | .clearTile x y => .clearTile (Number.saturate64 x) (Number.saturate64 y)
  | r => r

theorem wholeField?_eq (entry : Json) (key : String) :
    wholeField? entry key = ((entry.field? key).bind Json.floor?).map Number.saturate64 := by
  unfold wholeField?
  cases entry.field? key with
  | none => rfl
  | some v => exact whole?_eq v

theorem request_placeSprite (slot sprite : Int) (x y : Float32) :
    (Command.placeSprite (Number.saturate64 slot) (Number.saturate64 sprite) x y).request =
      saturated (match unsigned32? sprite with
        | some n => .setSprite slot ⟨n, x, y⟩
        | none => .clearSprite slot) := by
  simp only [Command.request, indexOf?_saturate64]
  cases unsigned32? sprite <;> rfl

theorem request_placeTile (x y tile : Int) :
    (Command.placeTile (Number.saturate64 x) (Number.saturate64 y)
        (Number.saturate64 tile)).request =
      saturated (match unsigned32? tile with
        | some n => .setTile x y n
        | none => .clearTile x y) := by
  simp only [Command.request, indexOf?_saturate64]
  cases unsigned32? tile <;> rfl

/-- The command of an entry is what the entry asks for. -/
theorem request_flatCommand (entry : Json) :
    (flatCommand? entry).map Command.request = (asks? entry).map saturated := by
  unfold flatCommand? tileCommand? coordinateField?
  simp only [wholeField?_eq]
  split
  case h_1 hkind =>
    rw [asks?, field?_type_of_kindOf hkind (by decide)]
    cases (entry.field? "slotId").bind Json.floor? with
    | none => rfl
    | some slot =>
      cases (entry.field? "spriteId").bind Json.floor? with
      | none => rfl
      | some sprite =>
        cases (entry.field? "x").bind Json.finite? with
        | none => rfl
        | some x =>
          cases (entry.field? "y").bind Json.finite? with
          | none => rfl
          | some y => exact congrArg some (request_placeSprite slot sprite _ _)
  case h_2 hkind =>
    rw [asks?, field?_type_of_kindOf hkind (by decide)]
    cases (entry.field? "slotId").bind Json.floor? <;> rfl
  case h_3 hkind =>
    rw [asks?, field?_type_of_kindOf hkind (by decide)]
    cases (entry.field? "x").bind Json.floor? with
    | none => rfl
    | some x =>
      cases (entry.field? "y").bind Json.floor? with
      | none => rfl
      | some y =>
        cases (entry.field? "tileId").bind Json.floor? with
        | none => rfl
        | some tile => exact congrArg some (request_placeTile x y tile)
  case h_4 hkind =>
    rw [asks?, field?_type_of_kindOf hkind (by decide)]
    cases (entry.field? "x").bind Json.floor? <;>
      cases (entry.field? "y").bind Json.floor? <;> rfl
  case h_5 hkind =>
    rw [asks?, field?_type_of_kindOf hkind (by decide)]
    cases (entry.field? "colorIndex").bind Json.floor? <;> rfl
  case h_6 hkind =>
    rw [asks?, field?_type_of_kindOf hkind (by decide)]
    cases (entry.field? "value").bind Json.floor? <;> rfl
  case h_7 hsprite hclearSprite htile hclearTile hbackground hscore =>
    unfold asks?
    split
    case h_1 htype => exact (hsprite (kindOf_of_field?_type htype)).elim
    case h_2 htype => exact (hclearSprite (kindOf_of_field?_type htype)).elim
    case h_3 htype => exact (htile (kindOf_of_field?_type htype)).elim
    case h_4 htype => exact (hclearTile (kindOf_of_field?_type htype)).elim
    case h_5 htype => exact (hbackground (kindOf_of_field?_type htype)).elim
    case h_6 htype => exact (hscore (kindOf_of_field?_type htype)).elim
    case h_7 => rfl

/-- A flat list makes the requests that its entries ask for. -/
theorem requests_commands (list : List Json) :
    (commands list).frame.requests = (list.filterMap asks?).map saturated := by
  show (list.filterMap flatCommand?).map Command.request = _
  rw [List.map_filterMap, List.map_filterMap]
  exact List.filterMap_congr fun entry _ => request_flatCommand entry

/-! ### The last entry decides -/

/-- A number that saturates is none of a slot. -/
theorem inSlot?_saturated {i : Nat} (hi : i < 64) (r : Request) :
    (saturated r).inSlot? i = r.inSlot? i := by
  have hslot : ∀ n : Int, Number.saturate64 n = i ↔ n = i := fun n =>
    saturate64_eq_iff (Int.natCast_nonneg i) (by omega)
  cases r with
  | setSprite slot p => simp only [saturated, Request.inSlot?, hslot]
  | clearSprite slot => simp only [saturated, Request.inSlot?, hslot]
  | _ => rfl

/-- A number that saturates is none of a cell. -/
theorem inCell?_saturated {d : Display} {x y : Int} (hxy : d.HasCell x y) (r : Request) :
    (saturated r).inCell? x y = r.inCell? x y := by
  have hcells : d.grid.cells < 64 := by cases d.grid <;> decide
  obtain ⟨hx₀, hx, hy₀, hy⟩ := hxy
  have hcolumn : ∀ n : Int, Number.saturate64 n = x ↔ n = x := fun n =>
    saturate64_eq_iff hx₀ (by omega)
  have hline : ∀ n : Int, Number.saturate64 n = y ↔ n = y := fun n =>
    saturate64_eq_iff hy₀ (by omega)
  cases r with
  | setTile x' y' tile => simp only [saturated, Request.inCell?, hcolumn, hline]
  | clearTile x' y' => simp only [saturated, Request.inCell?, hcolumn, hline]
  | _ => rfl

/-- What a flat list leaves on a display: each slot, cell and register is as the last entry has it
that names it and has the numbers that it needs, and as before if there is none. -/
structure Decided (list : List Json) (before after : Display) : Prop where
  slot : ∀ i, i < 64 →
    after.slot? i = (lastOf (Request.inSlot? i) (list.filterMap asks?)).getD (before.slot? i)
  cell : ∀ x y, before.HasCell x y →
    after.tile? x y = (lastOf (Request.inCell? x y) (list.filterMap asks?)).getD (before.tile? x y)
  background : after.background
    = (lastOf Request.background? (list.filterMap asks?)).getD before.background
  score : after.score = (lastOf Request.score? (list.filterMap asks?)).getD before.score
  gameOver : after.gameOver = before.gameOver
  paused : after.paused = before.paused
  grid : after.grid = before.grid

theorem decided_commands (list : List Json) (d : Display) :
    Decided list d ((commands list).frame.apply d) := by
  have hrun := Frame.run_requests (commands list).frame d
  rw [requests_commands] at hrun
  have hlast : ∀ {α : Type} (tells : Request → Option α),
      (∀ r, tells (saturated r) = tells r) →
        lastOf tells ((list.filterMap asks?).map saturated)
          = lastOf tells (list.filterMap asks?) := by
    intro α tells htells
    rw [lastOf_map, show tells ∘ saturated = tells from funext htells]
  have hregisters := Display.registers_run d ((list.filterMap asks?).map saturated)
  rw [hlast Request.background? fun r => by cases r <;> rfl,
    hlast Request.score? fun r => by cases r <;> rfl, hrun] at hregisters
  constructor
  case slot =>
    intro i hi
    rw [← hrun, Display.slot?_run _ _ hi, hlast _ (inSlot?_saturated hi)]
  case cell =>
    intro x y hxy
    rw [← hrun, Display.tile?_run _ _ hxy, hlast _ (inCell?_saturated hxy)]
  case background => exact congrArg (fun v => v.2.1) hregisters
  case score => exact congrArg (fun v => v.2.2.1) hregisters
  case gameOver => exact gameOver_apply_commands list d
  case paused => exact Frame.paused_apply _ d
  case grid => exact Frame.grid_apply _ d

theorem apply_commands_append (a b : List Json) (d : Display) :
    (commands b).frame.apply ((commands a).frame.apply d) = (commands (a ++ b)).frame.apply d := by
  show (b.filterMap flatCommand?).foldl Command.run
      ((a.filterMap flatCommand?).foldl Command.run d)
    = ((a ++ b).filterMap flatCommand?).foldl Command.run d
  rw [List.filterMap_append, List.foldl_append]

/-- A result of either shape that is applied once more changes nothing and does not end the game.
Two flat lists, a frame each, do what the one list does that holds the entries of both, and there
the last entry decides. -/
theorem apply_succession :
    (∀ (r : FrameResult) (d : Display),
      r.frame.apply (r.frame.apply d) = r.frame.apply d ∧
        r.frame.raises (r.frame.apply d) = false) ∧
    ∀ (a b : List Json) (d : Display),
      (commands b).frame.apply ((commands a).frame.apply d) = (commands (a ++ b)).frame.apply d ∧
        Decided (a ++ b) d ((commands b).frame.apply ((commands a).frame.apply d)) := by
  refine ⟨fun r d => ⟨r.frame.apply_apply d, r.frame.not_raises_apply d⟩, fun a b d => ?_⟩
  have happend := apply_commands_append a b d
  refine ⟨happend, ?_⟩
  rw [happend]
  exact decided_commands (a ++ b) d

end FrameResult

end Handheld
