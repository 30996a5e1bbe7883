import Handheld.Json.Basic
import Handheld.Number.Notation
import Handheld.Text.Quoted
import Handheld.Text.Split

/-!
# Written settings

Settings are written in files, in the environment and by callers, and each of these has values
of its own. A `Setting` is what they have in common. Whole numbers keep the register that their
source reads them into, because messages name it.

Tables are laid over one another: a table over a table joins the two, name by name, and
anything else takes the place of what was there.
-/

namespace Handheld

/-- A written setting. -/
inductive Setting
  | unit
  | bool (b : Bool)
  /-- A whole number from a source of unsigned numbers. -/
  | unsigned (n : Nat)
  /-- A whole number from a source of signed numbers. -/
  | signed (n : Int)
  | real (x : Float)
  | char (c : Char)
  | text (s : String)
  | list (items : List Setting)
  | table (entries : List (String × Setting))

instance : Inhabited Setting := ⟨.unit⟩

namespace Setting

mutual
def laidOn (below : Setting) : Setting → Setting
  | .table es =>
    match below with
    | .table bs => .table (entriesLaidOn bs es)
    | _ => .table es
  | s => s
/-- Entries laid over others, one after the other. -/
def entriesLaidOn (below : Entries Setting) : List (String × Setting) → Entries Setting
  | [] => below
  | (name, s) :: es =>
    entriesLaidOn (below.insert name (laidOn ((below.get? name).getD .unit) s)) es
end

/-- A setting under a path of names; a path ends at an empty name. -/
def nested (s : Setting) : List String → Setting
  | [] => s
  | name :: path => if name.isEmpty then s else .table [(name, nested s path)]

def under (s : Setting) (name : String) : Setting := s.nested (Text.splitText '.' name)

/-- A double in a message. -/
def realText (x : Float) : String :=
  match Number.Parts.ofFloat x with
  | .infinite negative => if negative then "-inf" else "inf"
  | _ => Number.Layout.plain.text x

/-- What a setting is called in a message. -/
def description : Setting → String
  | .unit => "unit"
  | .bool b => "bool " ++ (if b then "true" else "false")
  | .unsigned n => "unsigned int \x60" ++ Nat.repr n ++ "\x60"
  | .signed n => "signed int \x60" ++ Int.repr n ++ "\x60"
  | .real x => "float \x60" ++ realText x ++ "\x60"
  | .char c => "string " ++ Text.quote (String.singleton c)
  | .text s => "string " ++ Text.quote s
  | .list _ => "sequence"
  | .table _ => "map"

mutual
/-- The setting that a JSON value is: whole numbers are unsigned unless they are negative. -/
def ofJson : Json → Setting
  | .null => .unit
  | .bool b => .bool b
  | .number (.whole n) => if 0 ≤ n then .unsigned n.toNat else .signed n
  | .number (.real x) => .real x
  | .text s => .text s
  | .list items => .list (ofItems items)
  | .object members => .table (ofMembers members)
/-- The settings of a list. -/
def ofItems : List Json → List Setting
  | [] => []
  | v :: vs => ofJson v :: ofItems vs
def ofMembers : List (String × Json) → Entries Setting
  | [] => []
  | (name, v) :: ms => (name, ofJson v) :: ofMembers ms
end

end Setting

end Handheld
