import Handheld.Json.Decimal
import Handheld.Json.Compact

/-!
# Values inside the sandbox

Cartridges compute with the values of their scripting language. Two things ever happen to such
a value on the host's side: it is turned into text, for the log or for a report, and it is
copied out as JSON.

Text: lists join their elements by commas, with nothing for a missing element; objects have no
text of their own; a symbol inside refuses to become text.

Copying out is writing as JSON and reading back. Writing leaves out what JSON cannot hold, and
fails on values that cannot be written at all. Reading back refuses broken text and nesting
that is too deep; numbers come back as their written digits say.

## Contents

* `Value`, `Value.ofMembers`: values, and objects with their members in the language's order.
* `Value.coerce?`, `Value.describe?`: the text of a value.
* `Value.copyOut`: the copy that leaves the sandbox.
-/

namespace Handheld.Guest

/-- A value of the scripting language. -/
inductive Value
  | undefined
  | null
  | bool (b : Bool)
  | number (x : Float)
  | text (s : String)
  /-- A text that is half of a character. -/
  | halfCharacter
  | symbol (description : String)
  | function (source : String)
  | bigint (n : Int)
  /-- An object that contains itself. -/
  | circular
  /-- An object with a property that throws an error when it is read. -/
  | trap (message : String)
  /-- An object that says itself what it is to be written as. -/
  | writtenAs (value : Value)
  | list (items : List Value)
  | object (members : List (String × Value))

instance : Inhabited Value := ⟨.undefined⟩

/-- A whole number of the host as a value. -/
def Value.ofNat (n : Nat) : Value := .number (Number.ofWhole n)

/-- The number of a member name that counts as a list index. -/
def indexName? (key : String) : Option Nat :=
  let cs := key.toList
  if cs.isEmpty || !cs.all Char.isDigit || (1 < cs.length && cs.head? == some '0') then none
  else
    let n := Number.valueOf 10 (cs.map fun c => c.toNat - 48)
    if n < 4294967295 then some n else none

/-- An object with its members in the language's order: list indices first, by size. -/
def Value.ofMembers (ms : List (String × Value)) : Value :=
  let indexed := ms.filterMap fun m => (indexName? m.1).map fun n => (n, m)
  let named := ms.filter fun m => (indexName? m.1).isNone
  .object ((indexed.mergeSort fun a b => a.1 ≤ b.1).map Prod.snd ++ named)

/-- A text, and whether a half character stands somewhere in it. -/
structure Coerced where
  text : String
  broken : Bool := false
  deriving Repr, DecidableEq

/-- Texts with a separator between them. -/
def Coerced.join (separator : String) (parts : List Coerced) : Coerced :=
  ⟨separator.intercalate (parts.map Coerced.text), parts.any Coerced.broken⟩

mutual

/-- The text that a value becomes by itself; none if a symbol refuses. -/
def Value.coerce? : Value → Option Coerced
  | .undefined => some ⟨"undefined", false⟩
  | .null => some ⟨"null", false⟩
  | .bool b => some ⟨if b then "true" else "false", false⟩
  | .number x => some ⟨Number.Layout.guest.text x, false⟩
  | .text s => some ⟨s, false⟩
  | .halfCharacter => some ⟨"\ufffd", true⟩
  | .symbol _ => none
  | .function source => some ⟨source, false⟩
  | .bigint n => some ⟨Int.repr n, false⟩
  | .circular | .trap _ | .writtenAs _ | .object _ => some ⟨"[object Object]", false⟩
  | .list items => (coerceItems? items).map (Coerced.join ",")

/-- The texts of the elements of a list; missing elements are empty. -/
def coerceItems? : List Value → Option (List Coerced)
  | [] => some []
  | .undefined :: vs => (coerceItems? vs).map (⟨"", false⟩ :: ·)
  | .null :: vs => (coerceItems? vs).map (⟨"", false⟩ :: ·)
  | v :: vs => do
    let first ← v.coerce?
    let rest ← coerceItems? vs
    return first :: rest

end

/-- The text of a value when it is asked for: a symbol then describes itself. -/
def Value.describe? : Value → Option Coerced
  | .symbol description => some ⟨"Symbol(" ++ description ++ ")", false⟩
  | v => v.coerce?

def Value.isTruthy : Value → Bool
  | .undefined | .null => false
  | .bool b => b
  | .number x => !(x == 0 || x.isNaN)
  | .text s => !s.isEmpty
  | .bigint n => n ≠ 0
  | _ => true

/-- Why a value could not be copied out. -/
inductive CopyFault
  | circular
  | bigint
  | script (message : String)
  | brokenText
  | tooDeep
  | numberRange
  deriving Repr, DecidableEq

def CopyFault.message : CopyFault → String
  | .circular => "Error: circular reference"
  | .bigint => "Error: BigInt are forbidden in JSON.stringify"
  | .script message => "Error: " ++ message
  | .brokenText => "Malformed value: unexpected end of hex escape"
  | .tooDeep => "Malformed value: recursion limit exceeded"
  | .numberRange => "Malformed value: number out of range"

/-- What is left of a value when it is written: none if it is left out. -/
abbrev Written := Except CopyFault (Option Value)

mutual

/-- Writes a value. What `writtenAs` hands out is written as it is, without asking again. -/
def Value.written : Value → Written
  | .undefined | .symbol _ | .function _ => .ok none
  | .null => .ok (some .null)
  | .bool b => .ok (some (.bool b))
  | .number x => .ok (some (if Number.isFinite x then .number x else .null))
  | .text s => .ok (some (.text s))
  | .halfCharacter => .ok (some .halfCharacter)
  | .bigint _ => .error .bigint
  | .circular => .error .circular
  | .trap message => .error (.script message)
  | .writtenAs v =>
    match v with
    | .writtenAs _ => .ok (some (.object []))
    | v => v.written
  | .list items => (writtenItems items).map fun vs => some (.list vs)
  | .object members => (writtenMembers members).map fun ms => some (.object ms)

/-- Writes the elements of a list; what is left out becomes null. -/
def writtenItems : List Value → Except CopyFault (List Value)
  | [] => .ok []
  | v :: vs => do
    let first ← v.written
    let rest ← writtenItems vs
    return first.getD .null :: rest

/-- Writes the members of an object; what is left out is left out. -/
def writtenMembers : List (String × Value) → Except CopyFault (List (String × Value))
  | [] => .ok []
  | (key, v) :: ms => do
    let first ← v.written
    let rest ← writtenMembers ms
    return match first with
      | some v => (key, v) :: rest
      | none => rest

end

/-- The deepest nesting that is read back. -/
def depthLimit : Nat := 127

mutual

/-- Reads a written value back; `room` is how much deeper it may nest. -/
def Value.reread (room : Nat) : Value → Except CopyFault Json
  | .bool b => .ok (.bool b)
  | .number x =>
    match Json.Number.copied x with
    | some n => .ok (.number n)
    | none => .error .numberRange
  | .text s => .ok (.text s)
  | .halfCharacter => .error .brokenText
  | .list items =>
    match room with
    | 0 => .error .tooDeep
    | room + 1 => (rereadItems room items).map .list
  | .object members =>
    match room with
    | 0 => .error .tooDeep
    | room + 1 => (rereadMembers room members).map .object
  | _ => .ok .null

/-- Reads the elements of a list back. -/
def rereadItems (room : Nat) : List Value → Except CopyFault (List Json)
  | [] => .ok []
  | v :: vs => do
    let first ← v.reread room
    let rest ← rereadItems room vs
    return first :: rest

def rereadMembers (room : Nat) : List (String × Value) → Except CopyFault Json.Members
  | [] => .ok []
  | (key, v) :: ms => do
    let first ← v.reread room
    let rest ← rereadMembers room ms
    return (key, first) :: rest

end

/-- The copy of a value that leaves the sandbox. -/
def Value.copyOut (v : Value) : Except CopyFault Json := do
  match ← v.written with
  | none => return .null
  | some w => w.reread depthLimit

end Handheld.Guest
