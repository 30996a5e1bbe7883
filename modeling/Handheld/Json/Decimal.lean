import Handheld.Json.Basic
import Handheld.Number.Notation
import Handheld.Number.Numeral

/-!
# Reading JSON numbers

A number without a point and without an exponent is a whole number as long as it fits the
64-bit registers. Any other number is a double, formed in two steps: the digits are collected
into one 64-bit significand, which is rounded to a double, and that double is scaled by a single
power of ten. The two roundings can differ from the nearest double in the last bit, and the
console keeps that: a value that a cartridge computes takes the same two steps on its way out.

## Contents

* `Significand`: the digits collected so far.
* `scaled?`: a significand scaled by a power of ten.
* `number?`: the number at the head of a text, with what follows it.
* `Number.copied`: a double written by a cartridge and read back.
-/

namespace Handheld.Json

/-- Digits collected into a register, and how many places the result is to be moved. A digit
that no longer fits closes the significand. -/
structure Significand where
  value : Nat
  shift : Int
  full : Bool
  deriving Repr, DecidableEq

/-- Collects a digit before the point; one that does not fit counts as a zero. -/
def Significand.pushWhole (s : Significand) (digit : Nat) : Significand :=
  if s.full ∨ Number.greatestRegister < s.value * 10 + digit then
    { s with shift := s.shift + 1, full := true }
  else { s with value := s.value * 10 + digit }

/-- Collects a digit after the point; one that does not fit is dropped. -/
def Significand.pushFraction (s : Significand) (digit : Nat) : Significand :=
  if s.full ∨ Number.greatestRegister < s.value * 10 + digit then { s with full := true }
  else { s with value := s.value * 10 + digit, shift := s.shift - 1 }

def powerOfTen (n : Nat) : Float :=
  Float.ofScientific 1 false n

/-- Scales a double by a power of ten in as few steps as the table of powers allows; none if the
result is too large. -/
def scaleFloat? : Nat → Float → Int → Option Float
  | 0, x, _ => some x
  | steps + 1, x, exponent =>
    if exponent.natAbs ≤ 308 then
      if 0 ≤ exponent then
        let y := x * powerOfTen exponent.natAbs
        if Handheld.Number.isFinite y then some y else none
      else some (x / powerOfTen exponent.natAbs)
    else if x == 0 then some x
    else if 0 ≤ exponent then none
    else scaleFloat? steps (x / powerOfTen 308) (exponent + 308)

/-- The double of a significand; none if it is too large. -/
def scaled? (negative : Bool) (value : Nat) (exponent : Int) : Option Float :=
  (scaleFloat? 4 (Number.ofWhole value) exponent).map fun x => if negative then -x else x

/-- The exponent at the head of a text: none if there is none, an error as `none` outside. -/
def exponent? (cs : List Char) : Option (Option Int × List Char) :=
  match cs with
  | e :: rest =>
    if e = 'e' ∨ e = 'E' then
      let signed : Bool × List Char := match rest with
        | '-' :: r => (true, r)
        | '+' :: r => (false, r)
        | r => (false, r)
      let (digits, rest) := Number.spanDigits signed.2
      if digits.isEmpty then none
      else
        let size : Int := Number.valueOf 10 digits
        some (some (if signed.1 then -size else size), rest)
    else some (none, cs)
  | [] => some (none, [])

/-- The whole number of a significand, or its double if no register holds it. -/
def wholeNumber? (negative : Bool) (s : Significand) : Option Number :=
  if s.full then (scaled? negative s.value s.shift).map .real
  else if negative then
    if s.value = 0 ∨ 9223372036854775808 < s.value then some (.real (-(Number.ofWhole s.value)))
    else some (.whole (-s.value))
  else some (.whole s.value)

/-- The number at the head of a text, and what follows it. -/
def number? (cs : List Char) : Option (Number × List Char) := do
  let signed : Bool × List Char := match cs with
    | '-' :: r => (true, r)
    | r => (false, r)
  let (digits, rest) := Number.spanDigits signed.2
  guard (!digits.isEmpty)
  guard (digits.length = 1 ∨ digits.head? ≠ some 0)
  let collected := digits.foldl Significand.pushWhole ⟨0, 0, false⟩
  let (fraction, rest, pointed) : List Nat × List Char × Bool := match rest with
    | '.' :: r => ((Number.spanDigits r).1, (Number.spanDigits r).2, true)
    | r => ([], r, false)
  guard (!pointed || !fraction.isEmpty)
  let (exponent, rest) ← exponent? rest
  if !pointed && exponent.isNone then
    return (← wholeNumber? signed.1 collected, rest)
  let collected := fraction.foldl Significand.pushFraction { collected with full := false }
  return (.real (← scaled? signed.1 collected.value (collected.shift + exponent.getD 0)), rest)

/-- A finite double as a cartridge writes it, read back. -/
def Number.copied (x : Float) : Option Number :=
  (number? (Handheld.Number.Layout.guest.text x).toList).map Prod.fst

end Handheld.Json
