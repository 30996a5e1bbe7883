import Handheld.Json.Compact

/-!
# What a frame returns

A cartridge answers each frame with a value. Three shapes are understood: nothing at all, an
object that groups what the frame shows, and the older flat list of commands. Any other value
is unusable.

An object with a member `error` is not a frame but a report of what the cartridge threw.

## Main statements

* `ofJson?_eq_none_iff`: exactly booleans, numbers and texts are unusable.
* `report?_isSome_iff`: a report is an object whose `error` is neither missing nor null.
-/

namespace Handheld

/-- What a cartridge threw, in the fields that an error has. -/
structure GuestReport where
  message : String := ""
  stack : String := ""
  name : String := ""
  deriving Repr, DecidableEq

/-- The members of a grouped result that matter; null counts as missing. -/
structure Grouped where
  sprites : Option Json := none
  tiles : Option Json := none
  background : Option Json := none
  score : Option Json := none
  gameOver : Option Json := none
  error : Option Json := none

/-- A frame's answer in one of the understood shapes. -/
inductive FrameResult
  | empty
  | grouped (g : Grouped)
  | commands (list : List Json)

namespace FrameResult

instance : Inhabited FrameResult := ⟨.empty⟩

def groupedOf (ms : Json.Members) : Grouped :=
  let member := fun key => Json.present? (Entries.get? ms key)
  { sprites := member "sprites"
    tiles := member "tiles"
    background := member "background"
    score := member "score"
    gameOver := member "gameOver"
    error := member "error" }

/-- The shape of a value; none if it is unusable. -/
def ofJson? : Json → Option FrameResult
  | .null => some .empty
  | .list items => some (.commands items)
  | .object ms => some (.grouped (groupedOf ms))
  | .bool _ | .number _ | .text _ => none

def unusable (v : Json) : String :=
  "expected an object or array, got " ++ v.compact

/-- Whether the result shows nothing new. -/
def isEmpty : FrameResult → Bool
  | .empty => true
  | _ => false

/-- A field of a report as text: texts as they are, nothing for null, other values as JSON. -/
def reportField (ms : Json.Members) (key : String) : String :=
  match Entries.get? ms key with
  | some (.text s) => s
  | some .null => ""
  | none => ""
  | some other => other.compact

/-- The report of an `error` member. -/
def reportOf : Json → GuestReport
  | .object ms =>
    { message := reportField ms "message"
      stack := reportField ms "stack"
      name := reportField ms "name" }
  | other => { message := other.compact, name := "Error" }

/-- The report that a result carries in place of a frame. -/
def report? : FrameResult → Option GuestReport
  | .grouped g => g.error.map reportOf
  | _ => none

/-- Exactly booleans, numbers and texts are unusable. -/
theorem ofJson?_eq_none_iff (v : Json) :
    ofJson? v = none ↔ (∃ b, v = .bool b) ∨ (∃ n, v = .number n) ∨ ∃ s, v = .text s := by
  cases v <;> simp [ofJson?]

/-- A report is an object whose `error` is neither missing nor null. -/
theorem report?_isSome_iff {v : Json} {r : FrameResult} (h : ofJson? v = some r) :
    r.report?.isSome ↔ (Json.present? (v.field? "error")).isSome := by
  cases v <;> simp [ofJson?] at h <;> subst h <;>
    simp [report?, groupedOf, Json.field?, Json.present?]

end FrameResult

end Handheld
