import Handheld.Frame.Result
import Handheld.Guest.Script

/-!
# Reports of thrown values

Whatever `update` throws is caught inside the sandbox and becomes an object whose only member,
`error`, holds a message, a trace and a name as text. Errors have all three. Of other objects
the members of these names are taken; any other thrown value is its own message.

A value that refuses to become text makes the report itself fail.
-/

namespace Handheld.Guest

/-- The trace of an error. What the engine writes there is not part of the model. -/
def traceText : String := "<trace>"

def Value.member? (v : Value) (key : String) : Option Value :=
  match v with
  | .object ms => (ms.find? fun m => m.1 == key).map Prod.snd
  | _ => none

/-- A text as a value; a broken text is half a character. -/
def Coerced.value (c : Coerced) : Value :=
  if c.broken then .halfCharacter else .text c.text

/-- The report in the form in which it leaves the sandbox. -/
def reportValue (message stack name : Value) : Value :=
  .object [("error", .object [("message", message), ("stack", stack), ("name", name)])]

/-- A member's text if it counts as true, and another text otherwise. -/
def truthyText? (v : Option Value) (otherwise : String) : Option Value :=
  match v with
  | some v => if v.isTruthy then v.describe?.map Coerced.value else some (.text otherwise)
  | none => some (.text otherwise)

/-- The report of what was thrown; none if something in it refuses to become text. -/
def Thrown.report? : Thrown → Option Value
  | .error name message =>
    some (reportValue (.text message) (.text traceText) (.text name))
  | .value v => do
    let message ← ((v.member? "message").getD v).describe?
    let stack ← truthyText? (v.member? "stack") ""
    let name ← truthyText? (v.member? "name") "Error"
    return reportValue message.value stack name

/-- What a failed report is a fault with. -/
def unreportable : String := "Error: cannot convert symbol to string"

end Handheld.Guest
