import Handheld.Input
import Handheld.Number.Numeral
import Handheld.Text.Quoted
import Handheld.Text.Split

/-!
# Scripted input

A run can be given its input in advance: which button goes down or up before which frame. Each
is written `FRAME:BUTTON:down` or `FRAME:BUTTON:up`, with frames counted from zero.

## Contents

* `read`: the scripted input that a text is, or what is wrong with it.
* `text`: a scripted input as it is written.
-/

namespace Handheld

/-- A button that goes down or up before a frame. -/
structure ScriptedInput where
  frame : Nat
  button : Button
  down : Bool
  deriving Repr, DecidableEq

namespace ScriptedInput

/-- Why a text is no scripted input. -/
inductive Fault
  /-- It has fewer or more than three parts. -/
  | shape
  | frame
  | button (name : String)
  | direction (text : String)
  deriving Repr, DecidableEq

/-- What is said about a text that is no scripted input. -/
def Fault.message (text : String) : Fault → String
  | .shape => "expected FRAME:BUTTON:down|up, got " ++ Text.quote text
  | .frame => "invalid frame in " ++ Text.quote text
  | .button name => "unknown button " ++ Text.quote name
  | .direction shown => "expected down or up, got " ++ Text.quote shown

/-- Whether a button goes down. -/
def direction? (text : String) : Option Bool :=
  if text = "down" then some true else if text = "up" then some false else none

/-- The scripted input that three parts are. The parts are checked from the left. -/
def ofParts (frame button direction : List Char) : Except Fault ScriptedInput :=
  match Number.unsigned? Number.greatestRegister frame with
  | .error _ => .error .frame
  | .ok n =>
    let name := String.ofList button
    match Button.ofName? name with
    | none => .error (.button name)
    | some x =>
      let shown := String.ofList direction
      match direction? shown with
      | none => .error (.direction shown)
      | some down => .ok ⟨n, x, down⟩

def read (s : String) : Except Fault ScriptedInput :=
  match Text.split ':' s.toList with
  | [frame, button, direction] => ofParts frame button direction
  | _ => .error .shape

def directionText (i : ScriptedInput) : String := if i.down then "down" else "up"

/-- A scripted input as it is written. -/
def text (i : ScriptedInput) : String :=
  Nat.repr i.frame ++ ":" ++ i.button.name ++ ":" ++ i.directionText

end ScriptedInput

end Handheld
