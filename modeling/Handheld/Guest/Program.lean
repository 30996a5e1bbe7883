import Handheld.Guest.Bundled.Basic
import Handheld.Guest.Bundled.Breakout
import Handheld.Guest.Bundled.Pong
import Handheld.Guest.Bundled.Texts

/-!
# Programs of cartridges

A program is either scripted or one of the bundled games. Both are used alike: the entry points
`metadata` and `resources` are called once, and then `update` once a frame. What a program
remembers between frames is its process; a load starts a fresh one.

## Contents

* `Bundled`: the bundled games, by name.
* `Program`: its entry points, each of which may be missing.
* `Process`: a running program.
-/

namespace Handheld.Guest

/-- A game that comes with the console. -/
inductive Bundled
  | breakout
  | pong
  | movement
  deriving Repr, DecidableEq

namespace Bundled

/-- The bundled games, sorted by name. -/
def all : List Bundled := [.breakout, .pong, .movement]

def name : Bundled → String
  | .breakout => "breakout"
  | .pong => "pong"
  | .movement => "simple-movement"

def ofName? (name : String) : Option Bundled :=
  all.find? fun g => g.name == name

def text : Bundled → String
  | .breakout => breakoutText
  | .pong => pongText
  | .movement => movementText

def metadata : Bundled → Value
  | .breakout => Breakout.metadata
  | .pong => Pong.metadata
  | .movement => Movement.metadata

def resources : Bundled → Value
  | .breakout => Breakout.resources
  | .pong => Pong.resources
  | .movement => Movement.resources

end Bundled

/-- A running program, with what it remembers between frames. -/
inductive Process
  /-- A scripted program and the number of its calls. -/
  | script (playlist : Playlist) (calls : Nat)
  /-- No game is there before the first frame. -/
  | breakout (game : Option Bundled.Breakout.State)
  | pong (game : Bundled.Pong.State)
  | movement (game : Bundled.Movement.State)

namespace Process

/-- A fresh game. -/
def ofBundled : Bundled → Process
  | .breakout => .breakout none
  | .pong => .pong {}
  | .movement => .movement {}

/-- A call of `update`, and the process after it. -/
def call (p : Process) (delta : Float) (input : List (String × Bool)) : Run × Process :=
  let scope : Scope := { delta := delta, input := input }
  match p with
  | .script playlist calls =>
    ((playlist.entryAt (calls + 1)).run { scope with call := calls + 1 },
      .script playlist (calls + 1))
  | .breakout game =>
    let (v, game) := Bundled.Breakout.update game scope
    ({ completion := .returned v }, .breakout (some game))
  | .pong game =>
    let (v, game) := Bundled.Pong.update game scope
    ({ completion := .returned v }, .pong game)
  | .movement game =>
    let (v, game) := Bundled.Movement.update game scope
    ({ completion := .returned v }, .movement game)

end Process

/-- The program of a cartridge. -/
inductive Program
  | script (s : Script)
  | bundled (g : Bundled)

namespace Program

/-- What happens when the text is evaluated. -/
def opening : Program → Opening
  | .script s => s.opening
  | .bundled _ => .runs {}

/-- An entry that returns a value. -/
def giving (v : Value) : Entry := { action := .give (.value v) }

/-- The entry point `metadata`. -/
def metadata? : Program → Option Entry
  | .script s => s.metadata
  | .bundled g => some (giving g.metadata)

/-- The entry point `resources`. -/
def resources? : Program → Option Entry
  | .script s => s.resources
  | .bundled g => some (giving g.resources)

/-- A fresh process, if there is an entry point `update`. -/
def process? : Program → Option Process
  | .script s => s.update.map fun playlist => .script playlist 0
  | .bundled g => some (.ofBundled g)

end Program

/-- A cartridge: a program under a name, with the size of its text. -/
structure Cartridge where
  name : String
  /-- The length of the text in bytes. -/
  size : Nat
  program : Program
  /-- Whether the text stops evaluating once the cartridge is withdrawn. -/
  perishable : Bool := false

def Cartridge.bundled? (c : Cartridge) : Option Bundled :=
  match c.program with
  | .bundled g => some g
  | .script _ => none

def Bundled.cartridge (g : Bundled) : Cartridge :=
  { name := g.name, size := g.text.utf8ByteSize, program := .bundled g }

end Handheld.Guest
