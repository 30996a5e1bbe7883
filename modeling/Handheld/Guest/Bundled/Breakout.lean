import Handheld.Guest.Bundled.Basic

/-!
# Breakout

A ball against a wall of tiles. Bricks are tiles of the display: the first frame lays them, and
a frame whose ball hits a brick clears the tile. The game counts the bricks apart from the
display, by cell numbers: row times thirty-two plus column.

The cell that the ball hits is computed in doubles. The number is looked up among the bricks,
and the tile that is cleared has the same column and row.
-/

namespace Handheld.Guest.Bundled.Breakout

/-- What the cartridge says about itself. -/
def metadata : Value :=
  metadataValue "Breakout" "Clear the wall without dropping the ball. Three lives."
    [hint "left / right" "move paddle", hint "a" "launch ball"]

/-- A brick of a border and a filling digit, half a cell high. -/
def brickRows (border filled : String) : Value :=
  let empty := Value.text "00000000"
  .list
    [.text border, .text filled, .text filled, .text border, empty, empty, empty, empty]

/-- The paddle and the ball; bricks and wall; and the corners that are there from the start. -/
def resources : Value :=
  .object
    [("sprites",
      .object
        [("paddle",
          .list
            [ numbers [0x00, 0xFF, 0xFF, 0xFF, 0xFF, 0x00, 0x00, 0x00],
              numbers [0x00, 0x00, 0x7E, 0x7E, 0x00, 0x00, 0x00, 0x00] ]),
         ("ball", .list [numbers [0x00, 0x00, 0x18, 0x3C, 0x3C, 0x18, 0x00, 0x00]])]),
     ("tiles",
      .object
        [("red", brickRows "66666666" "6cccccc6"),
         ("yellow", brickRows "99999999" "9bbbbbb9"),
         ("wall", .list [numbers (List.replicate 8 0xFF)])]),
     ("initialState",
      .object
        [("tiles", .list [tileAt 0 0 4, tileAt 31 0 4]), ("background", .ofNat 14)])]

def paddleSprite : Nat := 0

def ballSprite : Nat := 1

/-- The tile of the bricks in even rows. -/
def redTile : Nat := 2

/-- The tile of the bricks in odd rows. -/
def yellowTile : Nat := 3

/-- The columns and rows of the wall, row by row. -/
def wallCells : List (Nat × Nat) :=
  (List.range 4).flatMap fun row => (List.range 28).map fun column => (column + 2, row + 4)

def cellKey (x y : Nat) : Int := (y * 32 + x : Nat)

/-- The ball and its speed. -/
structure Ball where
  x : Float
  y : Float
  dx : Float
  dy : Float

/-- The state of a game. -/
structure State where
  paddle : Float := 112
  ball : Option Ball := none
  /-- The cell numbers of the bricks that are left. -/
  bricks : List Int := []
  score : Nat := 0
  lives : Int := 3
  left : Int := 112

/-- The game before its first frame. -/
def State.fresh : State :=
  { bricks := wallCells.map fun c => cellKey c.1 c.2 }

instance : Inhabited State := ⟨.fresh⟩

def wallTiles : List Value :=
  wallCells.map fun c =>
    tileAt (real c.1) (real c.2) (real (if c.2 % 2 = 0 then redTile else yellowTile))

def movePaddle (scope : Scope) (paddle : Float) : Float :=
  let x := if scope.isOn "left" then paddle - 160 * scope.delta else paddle
  let x := if scope.isOn "right" then x + 160 * scope.delta else x
  within 224 x

/-- The ball as it is launched from the paddle. -/
def launch (paddle : Float) : Ball := ⟨paddle + 12, 224, 90, -120⟩

def Ball.advance (b : Ball) (delta : Float) : Ball :=
  { b with x := b.x + b.dx * delta, y := b.y + b.dy * delta }

/-- The ball turned back if it is past a side. -/
def Ball.turnAside (b : Ball) : Ball :=
  if b.x < 0 || 248 < b.x then { b with dx := -b.dx } else b

/-- The ball turned back if it is past the upper edge. -/
def Ball.turnDown (b : Ball) : Ball :=
  if b.y < 0 then { b with dy := -b.dy } else b

/-- The ball after it has flown for a step, turned back at the edges. -/
def Ball.fly (b : Ball) (delta : Float) : Ball :=
  (b.advance delta).turnAside.turnDown

def Ball.column (b : Ball) : Float := Number.floorFloat ((b.x + 4) / 8)

def Ball.row (b : Ball) : Float := Number.floorFloat ((b.y + 4) / 8)

/-- The number of the cell of a ball's middle, if it has one. -/
def Ball.key? (b : Ball) : Option Int := Number.floor64? (b.row * 32 + b.column)

/-- Breaks the brick at the ball, if there is one; answers the tile that is cleared. -/
def State.strike (s : State) (b : Ball) : List Value × Ball × State :=
  match b.key? with
  | some key =>
    if s.bricks.contains key then
      ([tileAt b.column b.row (-1)], { b with dy := -b.dy },
        { s with
          bricks := s.bricks.filter fun k => k ≠ key
          score := s.score + 10
          left := s.left - 1 })
    else ([], b, s)
  | none => ([], b, s)

/-- The ball after the paddle had its chance. -/
def Ball.meet (b : Ball) (paddle : Float) : Ball :=
  if 0 < b.dy && 228 ≤ b.y && b.y ≤ 236 && paddle ≤ b.x + 8 && b.x ≤ paddle + 32 then
    { b with dy := -b.dy.abs }
  else b

/-- The game after the ball has moved, and the tile that is cleared. -/
def State.play (s : State) (b : Ball) (delta : Float) : List Value × State :=
  let (cleared, b, s) := s.strike (b.fly delta)
  let b := b.meet s.paddle
  if 256 < b.y then (cleared, { s with ball := none, lives := s.lives - 1 })
  else (cleared, { s with ball := some b })

/-- The game with the ball launched, if the player does. -/
def State.prepare (s : State) (scope : Scope) : State :=
  let s := { s with paddle := movePaddle scope s.paddle }
  if s.ball.isNone && scope.isOn "aPressed" then { s with ball := some (launch s.paddle) } else s

/-- The game after a frame, and the tile that is cleared. -/
def State.step (s : State) (scope : Scope) : List Value × State :=
  let s := s.prepare scope
  match s.ball with
  | some b => s.play b scope.delta
  | none => ([], s)

/-- What a frame shows. -/
def State.picture (s : State) (tiles : List Value) : Value :=
  let paddle := (List.range 4).map fun i =>
    spriteAt paddleSprite (s.paddle + real (i * 8)) 236
  let ball := match s.ball with
    | some b => [spriteAt ballSprite b.x b.y]
    | none => []
  .object
    [("sprites", .list (paddle ++ ball)),
     ("tiles", .list tiles),
     ("score", .ofNat s.score),
     ("gameOver", .bool (s.lives ≤ 0 || s.left ≤ 0))]

/-- A frame: what it shows, and the game after it. The first frame has no game before it and
lays the wall. -/
def update (game : Option State) (scope : Scope) : Value × State :=
  let (laid, s) := match game with
    | some s => ([], s)
    | none => (wallTiles, State.fresh)
  let (cleared, s) := s.step scope
  (s.picture (laid ++ cleared), s)

end Handheld.Guest.Bundled.Breakout
