import Handheld.Guest.Bundled.Basic

/-!
# Pong

A paddle game against the machine. The player serves; whoever lets the ball pass gives the
other side a point, and five points end the game.
-/

namespace Handheld.Guest.Bundled.Pong

/-- What the cartridge says about itself. -/
def metadata : Value :=
  metadataValue "Pong" "Keep the ball in play. First to 5 points wins."
    [hint "up / down" "move paddle", hint "start" "serve"]

/-- A piece of a paddle, the ball and the net. -/
def resources : Value :=
  .object
    [("sprites",
      .list
        [ .list [numbers (List.replicate 8 0x3C)],
          .list [numbers [0x00, 0x3C, 0x7E, 0x7E, 0x7E, 0x7E, 0x3C, 0x00]],
          .list [numbers [0x18, 0x18, 0x00, 0x00, 0x18, 0x18, 0x00, 0x00]] ]),
     ("palette", numbers [0x000000, 0xFFFFFF, 0x404040])]

def width : Float := 256

def height : Float := 256

def paddleHeight : Float := 32

/-- How far the player's paddle moves in a second. -/
def speed : Float := 150

/-- The ball and its speed. -/
structure Ball where
  x : Float
  y : Float
  dx : Float
  dy : Float

/-- The state of a game. -/
structure State where
  player : Float := 112
  machine : Float := 112
  playerScore : Nat := 0
  machineScore : Nat := 0
  /-- Waiting for the player to serve. -/
  waiting : Bool := true
  ball : Option Ball := none
  ended : Bool := false

instance : Inhabited State := ⟨{}⟩

/-- Puts the ball into the middle, moving in a direction. -/
def State.serve (s : State) (direction : Float) : State :=
  { s with
    ball := some ⟨width / 2 - 4, height / 2 - 4, 110 * direction, 70⟩
    waiting := false }

def movePlayer (scope : Scope) (player : Float) : Float :=
  let y := if scope.isOn "up" then player - speed * scope.delta else player
  let y := if scope.isOn "down" then y + speed * scope.delta else y
  within (height - paddleHeight) y

def Ball.advance (b : Ball) (delta : Float) : Ball :=
  { b with x := b.x + b.dx * delta, y := b.y + b.dy * delta }

/-- The ball turned back if it is past the upper or lower edge. -/
def Ball.turn (b : Ball) : Ball :=
  if b.y < 0 || height - 8 < b.y then { b with dy := -b.dy, y := within (height - 8) b.y }
  else b

/-- The ball after it has flown for a step. -/
def Ball.fly (b : Ball) (delta : Float) : Ball := (b.advance delta).turn

/-- The machine's paddle after it has followed the ball for a step. -/
def follow (b : Ball) (machine delta : Float) : Float :=
  let target := b.y - paddleHeight / 2
  machine
    + sign (target - machine) * smaller (target - machine).abs (speed * 0.8 * delta)

def Ball.isBeside (b : Ball) (paddle : Float) : Bool :=
  paddle ≤ b.y + 8 && b.y ≤ paddle + paddleHeight

def Ball.bounce (b : Ball) : Ball := { b with dx := -b.dx * 1.05 }

/-- The ball after the player's paddle had its chance. -/
def Ball.meetPlayer (b : Ball) (paddle : Float) : Ball :=
  if b.dx < 0 && b.x ≤ 16 && b.isBeside paddle then b.bounce else b

/-- The ball after the machine's paddle had its chance. -/
def Ball.meetMachine (b : Ball) (paddle : Float) : Ball :=
  if 0 < b.dx && width - 24 ≤ b.x && b.isBeside paddle then b.bounce else b

/-- The game after the ball has moved. -/
def State.play (s : State) (b : Ball) (delta : Float) : State :=
  let b := b.fly delta
  let machine := follow b s.machine delta
  let b := (b.meetPlayer s.player).meetMachine machine
  let s := { s with ball := some b, machine := machine }
  let s :=
    if b.x < -8 then { s with machineScore := s.machineScore + 1, waiting := true }
    else if width < b.x then { s with playerScore := s.playerScore + 1 }.serve (-1)
    else s
  { s with ended := 5 ≤ s.playerScore || 5 ≤ s.machineScore }

/-- The game after a frame. -/
def State.step (s : State) (scope : Scope) : State :=
  let s := { s with player := movePlayer scope s.player }
  if s.waiting then
    if scope.isOn "startPressed" || scope.isOn "aPressed" then s.serve 1 else s
  else
    match s.ball with
    | some b => s.play b scope.delta
    | none => s

/-- What a frame shows. -/
def State.picture (s : State) : Value :=
  let paddles := (List.range 4).flatMap fun i =>
    [spriteAt 0 8 (s.player + real (i * 8)), spriteAt 0 (width - 16) (s.machine + real (i * 8))]
  let ball := match s.ball with
    | some b => if s.waiting then [] else [spriteAt 1 b.x b.y]
    | none => []
  .object
    [("sprites", .list (paddles ++ ball)),
     ("tiles", .list ((List.range 32).map fun y => tileAt 15 (real y) 2)),
     ("score", .ofNat s.playerScore),
     ("gameOver", .bool s.ended)]

/-- A frame: what it shows, and the game after it. -/
def update (s : State) (scope : Scope) : Value × State :=
  let s := s.step scope
  (s.picture, s)

end Handheld.Guest.Bundled.Pong
