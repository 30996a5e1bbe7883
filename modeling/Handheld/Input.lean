/-!
# Buttons and the input of a frame

The virtual controller has eight buttons. Host events press and release them at any time; a
frame sees one frozen snapshot: which buttons are held, and which were not held in the snapshot
before. A button is therefore just pressed in exactly one snapshot, however short the press.

## Contents

* `Button`: the eight buttons, their names and the keys bound to them.
* `Buttons`: a set of buttons.
* `InputState`: what is held now and what the last snapshot saw.
* `InputSnapshot`: the input of one frame, and its fields as a cartridge sees them.

## Main statements

* `contains_insert`, `contains_remove`, `contains_difference`: the set operations, per button.
* `snapshot_pressed`: which buttons a snapshot reports as just pressed.
-/

namespace Handheld

/-- A button of the virtual controller. -/
inductive Button
  | up
  | down
  | left
  | right
  | a
  | b
  | start
  | select
  deriving Repr, DecidableEq

namespace Button

/-- Every button, in the order of the input fields. -/
def all : List Button :=
  [.up, .down, .left, .right, .a, .b, .start, .select]

/-- The place of a button in a set. -/
def index : Button → Nat
  | .up => 0
  | .down => 1
  | .left => 2
  | .right => 3
  | .a => 4
  | .b => 5
  | .start => 6
  | .select => 7

/-- The name of the field that says whether the button is held. -/
def name : Button → String
  | .up => "up"
  | .down => "down"
  | .left => "left"
  | .right => "right"
  | .a => "a"
  | .b => "b"
  | .start => "start"
  | .select => "select"

/-- The name of the field that says whether the button was just pressed. -/
def pressedName : Button → String
  | .up => "upPressed"
  | .down => "downPressed"
  | .left => "leftPressed"
  | .right => "rightPressed"
  | .a => "aPressed"
  | .b => "bPressed"
  | .start => "startPressed"
  | .select => "selectPressed"

/-- Whether the button is exposed only where system buttons are enabled. -/
def isSystem : Button → Bool
  | .start | .select => true
  | _ => false

def ofName? (name : String) : Option Button :=
  all.find? fun x => x.name == name

/-- The keys of a keyboard that are bound to a button. -/
def keys : Button → List String
  | .up => ["ArrowUp", "KeyW"]
  | .down => ["ArrowDown", "KeyS"]
  | .left => ["ArrowLeft", "KeyA"]
  | .right => ["ArrowRight", "KeyD"]
  | .a => ["KeyZ"]
  | .b => ["KeyX"]
  | .start => ["Enter"]
  | .select => ["Space"]

/-- The button that a key is bound to. -/
def ofKey? (code : String) : Option Button :=
  all.find? fun x => x.keys.contains code

theorem index_lt (x : Button) : x.index < 8 := by
  cases x <;> decide

/-- Distinct buttons have distinct places. -/
theorem index_inj {x y : Button} (h : x.index = y.index) : x = y := by
  cases x <;> cases y <;> first | rfl | simp [index] at h

/-- Reading a name gives the button back. -/
theorem ofName?_name (x : Button) : ofName? x.name = some x := by
  cases x <;> decide

/-- Only its own name gives a button. -/
theorem name_of_ofName? {s : String} {x : Button} (h : ofName? s = some x) : x.name = s := by
  have := List.find?_some h
  simpa using this

end Button

/-- A set of buttons. -/
structure Buttons where
  bits : BitVec 8
  deriving Repr, DecidableEq

namespace Buttons

/-- No button. -/
def empty : Buttons := ⟨0⟩

/-- The set of one button. -/
def flag (x : Button) : BitVec 8 := BitVec.twoPow 8 x.index

/-- Whether a button is in the set. -/
def contains (s : Buttons) (x : Button) : Bool := s.bits.getLsbD x.index

/-- Adds a button. -/
def insert (s : Buttons) (x : Button) : Buttons := ⟨s.bits ||| flag x⟩

/-- Takes a button out. -/
def remove (s : Buttons) (x : Button) : Buttons := ⟨s.bits &&& ~~~flag x⟩

/-- The buttons of `s` that are not in `t`. -/
def difference (s t : Buttons) : Buttons := ⟨s.bits &&& ~~~t.bits⟩

@[simp] theorem contains_empty (x : Button) : empty.contains x = false := by
  simp [contains, empty]

@[simp] theorem contains_insert (s : Buttons) (x y : Button) :
    (s.insert x).contains y = (s.contains y || decide (x = y)) := by
  have hy := y.index_lt
  by_cases h : x = y
  · subst h
    simp [contains, insert, flag, hy]
  · have hne : x.index ≠ y.index := fun e => h (Button.index_inj e)
    simp [contains, insert, flag, BitVec.getLsbD_twoPow, hne, h]

@[simp] theorem contains_remove (s : Buttons) (x y : Button) :
    (s.remove x).contains y = (s.contains y && decide (x ≠ y)) := by
  have hy := y.index_lt
  by_cases h : x = y
  · subst h
    simp [contains, remove, flag, hy]
  · have hne : ¬y.index = x.index := fun e => h (Button.index_inj e).symm
    simp [contains, remove, flag, hne, h, hy]

@[simp] theorem contains_difference (s t : Buttons) (x : Button) :
    (s.difference t).contains x = (s.contains x && !t.contains x) := by
  have hx := x.index_lt
  simp [contains, difference, hx]

end Buttons

/-- The input of one frame; it does not change while the frame runs. -/
structure InputSnapshot where
  held : Buttons
  pressed : Buttons
  deriving Repr, DecidableEq

/-- The buttons held now, and those held when the last snapshot was taken. -/
structure InputState where
  current : Buttons := .empty
  previous : Buttons := .empty
  deriving Repr, DecidableEq

namespace InputState

def press (s : InputState) (x : Button) : InputState :=
  { s with current := s.current.insert x }

def release (s : InputState) (x : Button) : InputState :=
  { s with current := s.current.remove x }

def isHeld (s : InputState) (x : Button) : Bool := s.current.contains x

/-- The input of the next frame, and the state after it was taken. -/
def snapshot (s : InputState) : InputSnapshot × InputState :=
  (⟨s.current, s.current.difference s.previous⟩, { s with previous := s.current })

/-- Every button released, and no memory of earlier snapshots. -/
def clear (_ : InputState) : InputState := {}

@[simp] theorem isHeld_press (s : InputState) (x y : Button) :
    (s.press x).isHeld y = (s.isHeld y || decide (x = y)) := by
  simp [isHeld, press]

@[simp] theorem isHeld_release (s : InputState) (x y : Button) :
    (s.release x).isHeld y = (s.isHeld y && decide (x ≠ y)) := by
  simp [isHeld, release]

/-- A snapshot reports a press if the last snapshot did not hold the button. -/
theorem snapshot_pressed (s : InputState) (x : Button) :
    s.snapshot.1.pressed.contains x = (s.isHeld x && !s.previous.contains x) := by
  simp [snapshot, isHeld]

end InputState

namespace InputSnapshot

def isHeld (s : InputSnapshot) (x : Button) : Bool := s.held.contains x

def justPressed (s : InputSnapshot) (x : Button) : Bool := s.pressed.contains x

/-- The buttons that a cartridge may see. -/
def exposed (system : Bool) : List Button :=
  Button.all.filter fun x => system || !x.isSystem

/-- The fields that a cartridge sees: for every exposed button whether it is held, and after
those for every exposed button whether it was just pressed. -/
def fields (s : InputSnapshot) (system : Bool) : List (String × Bool) :=
  ((exposed system).map fun x => (x.name, s.isHeld x))
    ++ (exposed system).map fun x => (x.pressedName, s.justPressed x)

def field? (s : InputSnapshot) (system : Bool) (name : String) : Option Bool :=
  ((s.fields system).find? fun f => f.1 == name).map Prod.snd

end InputSnapshot

end Handheld
