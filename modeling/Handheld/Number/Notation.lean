import Handheld.Number.Shortest

/-!
# Writing numbers

The digits of a number are chosen once, by the rule of the shortest decimal. How they are laid
out is a matter of the text they appear in, and each text states it as one `Layout`.

## Contents

* `Layout.guest`: numbers as a cartridge sees and prints them.
* `Layout.compact`: numbers in JSON that the console writes.
* `Layout.plain`: numbers in messages about settings, always without an exponent.
* `fixedPlaces`: a given number of decimal places, ties to even.
* `grouped`: a whole number with commas between thousands.
-/

namespace Handheld.Number

/-- How the digits of a double are laid out. -/
structure Layout where
  /-- The greatest place of the point that still gives a plain whole number. -/
  longestWhole : Int
  /-- The least place of the point that still gives a plain fraction. -/
  leastPoint : Int
  /-- Whether a whole number ends in `.0`. -/
  pointZero : Bool
  /-- Whether a positive exponent has a plus sign. -/
  plusSign : Bool
  /-- Whether a negative zero has a sign. -/
  signedZero : Bool
  deriving Repr, DecidableEq

/-- Numbers as a cartridge prints them: plain below `10 ^ 21`, an exponent with its sign
beyond, fractions plain from `10 ^ -6` on, and no negative zero. -/
def Layout.guest : Layout := ⟨21, -5, false, true, false⟩

/-- Numbers in compact JSON: a point in every double, plain below `10 ^ 16`. -/
def Layout.compact : Layout := ⟨16, -4, true, false, true⟩

/-- Numbers in messages: never an exponent. -/
def Layout.plain : Layout := ⟨400, -400, false, false, true⟩

def digitText (digits : List Nat) : String :=
  String.ofList (digits.map fun d => Char.ofNat (48 + d))

def zeros (n : Nat) : String :=
  String.ofList (List.replicate n '0')

def Layout.write (l : Layout) (d : Decimal) : String :=
  let count : Int := d.digits.length
  if count ≤ d.point ∧ d.point ≤ l.longestWhole then
    digitText d.digits ++ zeros (d.point - count).toNat ++ (if l.pointZero then ".0" else "")
  else if 0 < d.point ∧ d.point ≤ l.longestWhole then
    digitText (d.digits.take d.point.toNat) ++ "." ++ digitText (d.digits.drop d.point.toNat)
  else if l.leastPoint ≤ d.point ∧ d.point ≤ 0 then
    "0." ++ zeros (-d.point).toNat ++ digitText d.digits
  else
    let exponent := d.point - 1
    let sign := if exponent < 0 then "-" else if l.plusSign then "+" else ""
    let lead := digitText (d.digits.take 1)
    let rest := digitText (d.digits.drop 1)
    lead ++ (if rest.isEmpty then "" else "." ++ rest) ++ "e" ++ sign
      ++ Nat.repr exponent.natAbs

def Layout.text (l : Layout) (x : Float) : String :=
  match Parts.ofFloat x with
  | .nan => "NaN"
  | .infinite negative => if negative then "-Infinity" else "Infinity"
  | .finite d =>
    if d.mantissa = 0 then
      (if d.negative ∧ l.signedZero then "-0" else "0") ++ (if l.pointZero then ".0" else "")
    else
      (if d.negative then "-" else "") ++ l.write d.shortest

/-- A quotient with a fixed number of decimal places, ties to even. -/
def fixedQuotient (num den places : Nat) : String :=
  let scaled := roundQuotient .even (num * Nat.pow 10 places) den
  let whole := Nat.repr (scaled / Nat.pow 10 places)
  if places = 0 then whole
  else
    let fraction := Nat.repr (scaled % Nat.pow 10 places)
    whole ++ "." ++ zeros (places - fraction.length) ++ fraction

/-- A nonnegative double with a fixed number of decimal places. -/
def fixedPlaces (x : Float) (places : Nat) : String :=
  match Parts.ofFloat x with
  | .finite d =>
    fixedQuotient (d.mantissa * Nat.pow 2 d.exponent.toNat) (Nat.pow 2 (-d.exponent).toNat) places
  | .infinite _ => "inf"
  | .nan => "NaN"

/-- Digits in groups of three from the right, given from the right. -/
def groupThrees : List Char → List Char
  | a :: b :: c :: d :: rest => a :: b :: c :: ',' :: groupThrees (d :: rest)
  | short => short

/-- A whole number with commas between thousands. -/
def grouped (n : Nat) : String :=
  String.ofList (groupThrees (Nat.toDigits 10 n).reverse).reverse

end Handheld.Number
