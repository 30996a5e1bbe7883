import Handheld.Guest.Script

/-!
# The basics of the bundled cartridges

The bundled cartridges compute with doubles and keep things within bounds. A value that is no
number passes through all of these functions as it is.

The simplest of them is a square that follows the arrow keys. Pressing A takes the next background.

## Contents

* `smaller`, `greater`, `within`, `sign`, `real`: arithmetic of doubles.
* `spriteAt`, `tileAt`, `numbers`, `hint`, `metadataValue`: the values that the cartridges return.
* `Movement`: the square.

## Main statements

* `Movement.background_step_lt`: the background is one of four.
-/

namespace Handheld.Guest.Bundled

def smaller (x y : Float) : Float :=
  if x.isNaN then x else if y.isNaN then y else if x < y then x else y

def greater (x y : Float) : Float :=
  if x.isNaN then x else if y.isNaN then y else if x < y then y else x

/-- A double kept between zero and a bound. -/
def within (bound x : Float) : Float := greater 0 (smaller bound x)

/-- One with the sign of a double; a zero stays zero. -/
def sign (x : Float) : Float :=
  if x < 0 then -1 else if 0 < x then 1 else x

/-- The double of a whole number. -/
def real (n : Nat) : Float := Number.ofWhole n

def spriteAt (id : Nat) (x y : Float) : Value :=
  .object [("spriteId", .ofNat id), ("x", .number x), ("y", .number y)]

def tileAt (x y id : Float) : Value :=
  .object [("x", .number x), ("y", .number y), ("tileId", .number id)]

def numbers (ns : List Nat) : Value := .list (ns.map .ofNat)

def hint (key action : String) : Value :=
  .object [("key", .text key), ("action", .text action)]

def metadataValue (title description : String) (controls : List Value) : Value :=
  .object
    [("title", .text title), ("description", .text description), ("controls", .list controls)]

namespace Movement

/-- What the cartridge says about itself. -/
def metadata : Value :=
  metadataValue "Simple Movement" "A square that follows the arrow keys. A changes its color."
    [hint "arrow keys" "move", hint "a" "cycle background"]

/-- The square. -/
def resources : Value :=
  .object
    [("sprites",
      .list
        [ .list
          [ .text "11111111",
            .text "1aaaaaa1",
            .text "1a9999a1",
            .text "1a9339a1",
            .text "1a9339a1",
            .text "1a9999a1",
            .text "1aaaaaa1",
            .text "11111111" ] ])]

/-- Where the square is, and the background. -/
structure State where
  x : Float := 124
  y : Float := 124
  background : Nat := 0

instance : Inhabited State := ⟨{}⟩

/-- A coordinate after a step between two opposite buttons. -/
def slide (scope : Scope) (back ahead : String) (z : Float) : Float :=
  let step := 96 * scope.delta
  let z := if scope.isOn back then z - step else z
  let z := if scope.isOn ahead then z + step else z
  within 248 z

/-- The game after a frame. -/
def State.step (s : State) (scope : Scope) : State :=
  { x := slide scope "left" "right" s.x
    y := slide scope "up" "down" s.y
    background := if scope.isOn "aPressed" then (s.background + 1) % 4 else s.background }

/-- What a frame shows. -/
def State.picture (s : State) : Value :=
  .object
    [("sprites", .list [spriteAt 0 s.x s.y]), ("background", .ofNat s.background)]

/-- A frame: what it shows, and the game after it. -/
def update (s : State) (scope : Scope) : Value × State :=
  let s := s.step scope
  (s.picture, s)

/-- The background is one of four. -/
theorem background_step_lt {s : State} (h : s.background < 4) (scope : Scope) :
    (s.step scope).background < 4 := by
  unfold State.step
  dsimp only
  split
  · exact Nat.mod_lt _ (by decide)
  · exact h

end Movement

end Handheld.Guest.Bundled
