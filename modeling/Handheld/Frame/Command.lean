import Handheld.Display
import Handheld.Frame.Result

/-!
# Frame commands

Both shapes of a frame's answer come down to one list of commands, preceded by the emptying of
all slots if the shape asks for it. Numbers are floored, and an entry that lacks a number where
it needs one is skipped without touching its neighbours.

The grouped shape describes the whole sprite table: slots are emptied first and filled by
position. Tiles, background and score persist until they are named again. The flat shape names
slots itself and empties nothing on its own.

## Contents

* `Command`, `Frame`: the commands and one frame of them.
* `FrameResult.frame`: the commands of a result.
* `FrameResult.remarks`: the entries that were skipped, for the log.
-/

namespace Handheld

/-- A single change of the display. -/
inductive Command
  /-- A sprite number that no sprite has empties the slot. -/
  | placeSprite (slot sprite : Int) (x y : Float32)
  | clearSprite (slot : Int)
  /-- A tile number that no tile has clears the cell. -/
  | placeTile (x y tile : Int)
  | clearTile (x y : Int)
  | setBackground (index : Int)
  | setScore (score : Int)
  | gameOver

/-- The commands of one frame. -/
structure Frame where
  /-- Whether every slot is emptied before the commands run. -/
  clearSprites : Bool := false
  commands : List Command := []

namespace Frame

/-- The frame that changes nothing. -/
def noop : Frame := {}

/-- Whether a frame changes nothing. -/
def isNoop (f : Frame) : Bool := !f.clearSprites && f.commands.isEmpty

end Frame

namespace FrameResult

/-- A member's number, floored. -/
def wholeField? (entry : Json) (key : String) : Option Int :=
  (entry.field? key).bind Json.whole?

/-- A member's finite number as a coordinate. -/
def coordinateField? (entry : Json) (key : String) : Option Float32 :=
  ((entry.field? key).bind Json.finite?).map Number.toSingle

/-- The command of an element of `sprites`. -/
def spriteCommand? (slot : Nat) (entry : Json) : Option Command := do
  let sprite ← wholeField? entry "spriteId"
  let x ← coordinateField? entry "x"
  let y ← coordinateField? entry "y"
  return .placeSprite slot sprite x y

/-- The command of an element of `tiles`. -/
def tileCommand? (entry : Json) : Option Command := do
  let x ← wholeField? entry "x"
  let y ← wholeField? entry "y"
  let tile ← wholeField? entry "tileId"
  return .placeTile x y tile

/-- The elements of a member that is a list. -/
def itemsOf : Option Json → List Json
  | some (.list items) => items
  | _ => []

/-- The commands of a grouped result: sprites, tiles, registers, and the game's end last. -/
def groupedCommands (g : Grouped) : List Command :=
  ((itemsOf g.sprites).zipIdx.filterMap fun e => spriteCommand? e.2 e.1)
    ++ (itemsOf g.tiles).filterMap tileCommand?
    ++ ((g.background.bind Json.whole?).map Command.setBackground).toList
    ++ ((g.score.bind Json.whole?).map Command.setScore).toList
    ++ (match g.gameOver with
      | some (.bool true) => [.gameOver]
      | _ => [])

/-- The kind of an entry of a flat list. -/
def kindOf (entry : Json) : String :=
  ((entry.field? "type").bind Json.text?).getD ""

/-- The command of an entry of a flat list. -/
def flatCommand? (entry : Json) : Option Command :=
  match kindOf entry with
  | "sprite" => do
    let slot ← wholeField? entry "slotId"
    let sprite ← wholeField? entry "spriteId"
    let x ← coordinateField? entry "x"
    let y ← coordinateField? entry "y"
    return .placeSprite slot sprite x y
  | "clearSprite" => (wholeField? entry "slotId").map .clearSprite
  | "tile" => tileCommand? entry
  | "clearTile" => do
    let x ← wholeField? entry "x"
    let y ← wholeField? entry "y"
    return .clearTile x y
  | "background" => (wholeField? entry "colorIndex").map .setBackground
  | "score" => (wholeField? entry "value").map .setScore
  | _ => none

/-- The commands of a result. -/
def frame : FrameResult → Frame
  | .empty => .noop
  | .grouped g => ⟨true, groupedCommands g⟩
  | .commands list => ⟨false, list.filterMap flatCommand?⟩

/-- What the log tells about an entry that gave no command. -/
inductive Remark
  | skippedSprite (slot : Nat)
  | skippedTile
  | skippedCommand (kind : String)
  | ignoredSound (sound : Option Json)
  | unknownKind (kind : String)

/-- The kinds of entries that give a command. -/
def knownKinds : List String :=
  ["sprite", "clearSprite", "tile", "clearTile", "background", "score"]

/-- The remark about an entry of a flat list, if it gave no command. -/
def flatRemark? (entry : Json) : Option Remark :=
  let kind := kindOf entry
  if kind = "sound" then some (.ignoredSound (entry.field? "soundId"))
  else if !knownKinds.contains kind then some (.unknownKind kind)
  else if (flatCommand? entry).isSome then none
  else some (.skippedCommand kind)

/-- The remarks about a result, in reading order. -/
def remarks : FrameResult → List Remark
  | .empty => []
  | .grouped g =>
    ((itemsOf g.sprites).zipIdx.filterMap fun e =>
        if (spriteCommand? e.2 e.1).isSome then none else some (.skippedSprite e.2))
      ++ (itemsOf g.tiles).filterMap fun e =>
        if (tileCommand? e).isSome then none else some .skippedTile
  | .commands list => list.filterMap flatRemark?

/-- No flat list ends the game or empties a slot it does not name. -/
theorem frame_commands_not_over (list : List Json) :
    (frame (.commands list)).clearSprites = false
      ∧ ∀ c ∈ (frame (.commands list)).commands, c ≠ .gameOver := by
  refine ⟨rfl, fun c hc hover => ?_⟩
  simp only [frame, List.mem_filterMap] at hc
  obtain ⟨entry, _, he⟩ := hc
  subst hover
  unfold flatCommand? at he
  split at he <;>
    simp [tileCommand?, Option.bind_eq_some_iff, bind, pure] at he

end FrameResult

end Handheld
