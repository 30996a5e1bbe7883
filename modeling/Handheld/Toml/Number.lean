import Handheld.Number.Numeral
import Handheld.Settings.Value
import Handheld.Text.Hex
import Handheld.Text.Reader

/-!
# Numbers and dates in settings files

A whole number has an optional sign and no leading zero, or is written in base sixteen, eight or
two. A number with a point or an exponent is a double. An underscore may stand between two
digits. Whole numbers fit a signed 64-bit register, and doubles do not overflow upward.

Dates and times are recognised, so that a file may have them, but no setting is one: a date is
an empty table.

## Contents

* `real`, `whole`, `moment`: the three forms.
* `number`: any of them.
-/

namespace Handheld.Toml

open Handheld.Text Handheld.Text.Reader Handheld.Number

/-- Digits behind a first one, without the underscores between them. -/
def moreDigits (p : Char → Bool) : Reader (List Char) :=
  repeated (orElse (one p) (do let _ ← char '_'; committed (one p)))

/-- Digits of a class, of which there is at least one. -/
def digits (p : Char → Bool) : Reader (List Char) := do
  let first ← one p
  return first :: (← moreDigits p)

/-- Whether a sign was read and is a minus. -/
def isMinus (c : Option Char) : Bool := c == some '-'

def sign : Reader (Option Char) := optional (one fun c => c = '+' || c = '-')

def leadingDigits : Reader (List Char) :=
  orElse (do
      let first ← one fun c => c.isDigit && c ≠ '0'
      return first :: (← moreDigits Char.isDigit))
    (do return [← one Char.isDigit])

def values (cs : List Char) : List Nat := cs.filterMap decimalDigit?

def exponent : Reader Int := do
  let _ ← one fun c => c = 'e' || c = 'E'
  let negative ← sign
  let size : Int := valueOf 10 (values (← committed (digits Char.isDigit)))
  return if isMinus negative then -size else size

/-- The digits after a point, and an exponent. -/
def fraction : Reader (List Char × Int) := do
  let _ ← char '.'
  let cs ← committed (digits Char.isDigit)
  return (cs, (← optional exponent).getD 0)

/-- A number with a point or an exponent. -/
def decimal : Reader Float := do
  let negative ← sign
  let whole ← leadingDigits
  let (cs, e) ← orElse ((fun e => ([], e)) <$> exponent) fraction
  return nearestDecimal (isMinus negative) (values (whole ++ cs)) (e - cs.length)

/-- A double that did not overflow upward. -/
def bounded? (x : Float) : Option Float :=
  match Parts.ofFloat x with
  | .infinite false => none
  | _ => some x

/-- An infinity or NaN. -/
def special : Reader Float := do
  let negative ← sign
  let name := if isMinus negative then "-" else ""
  let found ← orElse (do literal "inf"; return "inf") (do literal "nan"; return "nan")
  return (decimal? (name ++ found)).getD 0

/-- A double. -/
def real : Reader Setting :=
  Setting.real <$> orElse (settled decimal bounded?) special

def signed? (n : Int) : Option Setting :=
  if least64 ≤ n ∧ n ≤ greatest64 then some (.signed n) else none

/-- A whole number in a base whose letter follows a zero. -/
def based (letter : String) (base : Nat) : Reader Setting :=
  let isDigit := fun c => (hexValue? c).any (· < base)
  settled (do literal letter; committed (digits isDigit))
    fun cs => signed? (valueOf base (cs.filterMap hexValue?))

def plainWhole : Reader Setting :=
  settled (do
      let negative ← sign
      let size : Int := valueOf 10 (values (← leadingDigits))
      return if isMinus negative then -size else size)
    signed?

def whole : Reader Setting :=
  orElse (based "0x" 16) (orElse (based "0o" 8) (orElse (based "0b" 2) plainWhole))

/-- A number of digits whose value lies in a range. -/
def ranged (count low high : Nat) : Reader Nat :=
  checked (exactly count Char.isDigit) fun cs =>
    let n := valueOf 10 (values cs)
    if low ≤ n ∧ n ≤ high then some n else none

def monthDays (year month : Nat) : Nat :=
  if month = 2 then
    if year % 4 = 0 ∧ (year % 100 ≠ 0 ∨ year % 400 = 0) then 29 else 28
  else if month = 4 ∨ month = 6 ∨ month = 9 ∨ month = 11 then 30
  else 31

def date : Reader Unit := do
  let year ← ranged 4 0 9999
  let _ ← char '-'
  let month ← committed (ranged 2 1 12)
  let _ ← committed (char '-')
  let _ ← committed (ranged 2 1 (monthDays year month))

def timeOfDay : Reader Unit := do
  let _ ← ranged 2 0 23
  let _ ← char ':'
  let _ ← committed (ranged 2 0 59)
  let _ ← committed (char ':')
  let _ ← committed (ranged 2 0 60)
  let _ ← optional (do let _ ← char '.'; run1 Char.isDigit)

def zone : Reader Unit :=
  orElse (do let _ ← one fun c => c = 'Z' || c = 'z')
    (do
      let _ ← one fun c => c = '+' || c = '-'
      committed (do
        let _ ← ranged 2 0 23
        let _ ← char ':'
        let _ ← ranged 2 0 59))

def timeBehind : Reader Unit := do
  let _ ← one fun c => c = 'T' || c = 't' || c = ' '
  timeOfDay
  let _ ← optional zone

/-- A date with or without a time, or a time alone. -/
def moment : Reader Setting := do
  orElse (do date; let _ ← optional timeBehind) timeOfDay
  return .table []

def number : Reader Setting := orElse moment (orElse real whole)

end Handheld.Toml
