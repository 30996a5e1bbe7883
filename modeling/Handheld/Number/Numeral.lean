import Handheld.Number.Binary

/-!
# Reading numerals

Numbers as people write them in settings and on a command line: whole numbers with an optional
sign, and decimals with an optional point and exponent. A numeral is read from its first
character to its last; nothing may stand around it.

A decimal is the double nearest to it, with ties to the even neighbour, whatever its length.

## Contents

* `register?`: a whole number that fits an unsigned 64-bit register, or what is wrong with it.
* `signedRegister?`: a whole number that fits a signed 64-bit register.
* `nearestDecimal`: the double nearest to a decimal.
* `decimal?`: a decimal, an infinity or NaN.
-/

namespace Handheld.Number

/-- What can be wrong with the numeral of a whole number. -/
inductive NumeralFault
  | empty
  | digit
  | large
  deriving Repr, DecidableEq

def NumeralFault.message : NumeralFault → String
  | .empty => "cannot parse integer from empty string"
  | .digit => "invalid digit found in string"
  | .large => "number too large to fit in target type"

def decimalDigit? (c : Char) : Option Nat :=
  if c.isDigit then some (c.toNat - 48) else none

/-- The number that digits of a base stand for. -/
def valueOf (base : Nat) (digits : List Nat) : Nat :=
  digits.foldl (fun n d => n * base + d) 0

/-- Reads digits from the left into a register with a greatest value; the first digit that is
none or does not fit is the fault. -/
def collect (greatest : Nat) : Nat → List Char → Except NumeralFault Nat
  | n, [] => .ok n
  | n, c :: cs =>
    match decimalDigit? c with
    | none => .error .digit
    | some d =>
      if greatest < n * 10 + d then .error .large else collect greatest (n * 10 + d) cs

def afterPlus : List Char → List Char
  | '+' :: rest => rest
  | cs => cs

/-- A whole number up to a greatest value, after an optional plus. -/
def unsigned? (greatest : Nat) (cs : List Char) : Except NumeralFault Nat :=
  if cs.isEmpty then .error .empty
  else if (afterPlus cs).isEmpty then .error .digit
  else collect greatest 0 (afterPlus cs)

/-- The greatest value of an unsigned 64-bit register. -/
def greatestRegister : Nat := 18446744073709551615

/-- A whole number that fits an unsigned 64-bit register. -/
def register? (s : String) : Except NumeralFault Nat :=
  unsigned? greatestRegister s.toList

/-- A whole number with an optional sign that fits a signed 64-bit register. -/
def signedRegister? (s : String) : Option Int :=
  match s.toList with
  | '-' :: rest =>
    if rest.head? = some '+' then none
    else (unsigned? 9223372036854775808 rest).toOption.map fun n => -n
  | cs => (unsigned? 9223372036854775807 cs).toOption.map fun n => n

/-- The double nearest to a quotient. The quotient is taken with at least sixty-six bits, and a
remainder counts as one more bit, so that the rounding of `Width.encode` sees on which side of
every tie the quotient lies. -/
def nearestQuotient (negative : Bool) (num den : Nat) : Float :=
  let shift := 66 + den.log2 - num.log2
  let scaled := num * Nat.pow 2 shift
  let sticky := if scaled % den = 0 then 0 else 1
  .ofBits (UInt64.ofNat (Width.double.encode
    ⟨negative, 2 * (scaled / den) + sticky, -(shift : Int) - 1⟩))

/-- The double nearest to `digits · 10 ^ exponent`. Decimals far outside the range of doubles
are infinite or zero. -/
def nearestDecimal (negative : Bool) (digits : List Nat) (exponent : Int) : Float :=
  let size := valueOf 10 digits
  let point := (digits.dropWhile (· == 0)).length + exponent
  if size = 0 ∨ point < -400 then nearestQuotient negative 0 1
  else if 400 < point then .ofBits (if negative then 0xfff0000000000000 else 0x7ff0000000000000)
  else nearestQuotient negative (size * Nat.pow 10 exponent.toNat) (Nat.pow 10 (-exponent).toNat)

/-- The digits at the head of a text, and what follows them. -/
def spanDigits (cs : List Char) : List Nat × List Char :=
  ((cs.takeWhile Char.isDigit).filterMap decimalDigit?, cs.dropWhile Char.isDigit)

/-- The sign at the head of a text, and what follows it. -/
def spanSign : List Char → Bool × List Char
  | '-' :: rest => (true, rest)
  | '+' :: rest => (false, rest)
  | cs => (false, cs)

/-- The exponent that a text is; an empty text is none. -/
def exponentPart? : List Char → Option Int
  | [] => some 0
  | c :: cs =>
    if c = 'e' ∨ c = 'E' then
      let signed := spanSign cs
      let digits := spanDigits signed.2
      if digits.1.isEmpty ∨ !digits.2.isEmpty then none
      else
        let size : Int := valueOf 10 digits.1
        some (if signed.1 then -size else size)
    else none

def unsignedDecimal? (negative : Bool) (cs : List Char) : Option Float :=
  let whole := spanDigits cs
  let fraction := match whole.2 with
    | '.' :: rest => spanDigits rest
    | rest => ([], rest)
  if whole.1.isEmpty ∧ fraction.1.isEmpty then none
  else
    (exponentPart? fraction.2).map fun exponent =>
      nearestDecimal negative (whole.1 ++ fraction.1) (exponent - fraction.1.length)

/-- A decimal, an infinity or NaN, after an optional sign. The names are read in any case. -/
def decimal? (s : String) : Option Float :=
  let signed := spanSign s.toList
  let name := signed.2.map Char.toLower
  if name = "inf".toList ∨ name = "infinity".toList then
    some (.ofBits (if signed.1 then 0xfff0000000000000 else 0x7ff0000000000000))
  else if name = "nan".toList then some (.ofBits 0x7ff8000000000000)
  else unsignedDecimal? signed.1 signed.2

end Handheld.Number
