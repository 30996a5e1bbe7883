import Handheld.Entries
import Handheld.Number.Binary

/-!
# JSON values

Everything that a cartridge hands to the console is first copied into one of these values, and
the readers of sprites, palettes, frames and definitions take them apart. The order of an
object's members is kept: sprites named by an object are numbered in that order.

A number is either a whole number as it was written or a double. Readers that only care about
the magnitude use `Number.toFloat`, which rounds whole numbers beyond the doubles' precision.

## Contents

* `field?`, `text?`, `float?`, `finite?`, `whole?`, `present?`: how readers take a value apart.
-/

namespace Handheld

/-- A JSON number. -/
inductive Json.Number
  | whole (n : Int)
  | real (x : Float)

/-- A JSON value with ordered object members. -/
inductive Json
  | null
  | bool (b : Bool)
  | number (n : Json.Number)
  | text (s : String)
  | list (items : List Json)
  | object (members : List (String × Json))

instance : Inhabited Json := ⟨.null⟩

namespace Json

def Number.toFloat : Number → Float
  | .whole n => Number.ofWhole n
  | .real x => x

abbrev Members := Entries Json

/-- The member of a name, if the value is an object that has one. -/
def field? (v : Json) (key : String) : Option Json :=
  match v with
  | .object ms => Entries.get? ms key
  | _ => none

def text? : Json → Option String
  | .text s => some s
  | _ => none

/-- The magnitude of a number value. -/
def float? : Json → Option Float
  | .number n => some n.toFloat
  | _ => none

/-- The magnitude of a number value that is finite. -/
def finite? (v : Json) : Option Float :=
  v.float?.filter Handheld.Number.isFinite

/-- A finite number's floor in a saturating 64-bit register. -/
def whole? (v : Json) : Option Int :=
  v.float?.bind Handheld.Number.floor64?

/-- A value that is there and not null. -/
def present? : Option Json → Option Json
  | some .null => none
  | v => v

end Json

end Handheld
