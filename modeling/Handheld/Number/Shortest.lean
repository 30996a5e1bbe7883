import Handheld.Number.Binary

/-!
# The shortest decimal that reads back

A double stands for every real number that rounds to it. Among the decimals in that interval
the text of a double uses one with the fewest digits, and of those the nearest to the double.

The search is exact: for one digit, two digits and so on, the two points of the decimal grid
next to the value are compared with the ends of the interval by cross-multiplication, and the
first grid with a point inside wins. Seventeen digits always suffice.

## Main statements

* `Interval.hit?_spec`: an accepted point lies in the interval.
-/

namespace Handheld.Number

/-- A positive decimal `0.d₁d₂… · 10 ^ point`, without trailing zeros. -/
structure Decimal where
  digits : List Nat
  point : Int
  deriving Repr, DecidableEq

/-- The reals that round to a double, over a grid of decimals: the value is `value / unit` grid
steps, the ends are `low / unit` and `high / unit`, and they belong to it if `closed`. -/
structure Interval where
  unit : Nat
  low : Nat
  value : Nat
  high : Nat
  closed : Bool
  deriving Repr

/-- Whether the grid point `n` lies in the interval. -/
def Interval.contains (i : Interval) (n : Nat) : Bool :=
  if i.closed then i.low ≤ n * i.unit && n * i.unit ≤ i.high
  else i.low < n * i.unit && n * i.unit < i.high

/-- The grid point of the interval that is nearest to the value, if there is one; of two points
as near as each other the even one. -/
def Interval.hit? (i : Interval) : Option Nat :=
  let below := i.value / i.unit
  let rest := i.value % i.unit
  let first := if 2 * rest < i.unit then below
    else if i.unit < 2 * rest then below + 1
    else below + below % 2
  let second := if first = below then below + 1 else below
  if i.contains first then some first
  else if i.contains second then some second
  else none

/-- An accepted grid point lies in the interval. -/
theorem Interval.hit?_spec {i : Interval} {n : Nat} (h : i.hit? = some n) :
    i.contains n = true := by
  unfold Interval.hit? at h
  grind

/-- The interval of `mantissa · 2 ^ exponent` over the grid with step `10 ^ step`. The gap below
the least mantissa of a binade is half as wide. -/
def Interval.ofDyadic (d : Dyadic) (step : Int) : Interval :=
  let unit := Nat.pow 10 step.toNat * Nat.pow 2 (2 - d.exponent).toNat
  let scale := Nat.pow 10 (-step).toNat * Nat.pow 2 (d.exponent - 2).toNat
  let narrow := d.mantissa = Nat.pow 2 Width.double.fraction
    ∧ Width.double.leastExponent < d.exponent
  { unit := unit
    low := (4 * d.mantissa - if narrow then 1 else 2) * scale
    value := 4 * d.mantissa * scale
    high := (4 * d.mantissa + 2) * scale
    closed := d.mantissa % 2 == 0 }

/-- Raises a lower bound of the decimal exponent of `num / den` to the exponent itself. -/
def raiseExponent (num den : Nat) : Nat → Int → Int
  | 0, e => e
  | tries + 1, e =>
    if Nat.pow 10 (e + 1).toNat * den ≤ num * Nat.pow 10 (-(e + 1)).toNat then
      raiseExponent num den tries (e + 1)
    else e

/-- The exponent `e` with `10 ^ e ≤ value < 10 ^ (e + 1)`. The bit length gives it up to two. -/
def Dyadic.decimalExponent (d : Dyadic) : Int :=
  let num := d.mantissa * Nat.pow 2 d.exponent.toNat
  let den := Nat.pow 2 (-d.exponent).toNat
  let bits : Int := d.mantissa.log2 + d.exponent
  raiseExponent num den 3 (bits * 30103 / 100000 - 1)

/-- Drops the zeros at the end of a number. -/
def dropZeros : Nat → Nat → Nat
  | 0, n => n
  | fuel + 1, n => if n ≠ 0 ∧ n % 10 = 0 then dropZeros fuel (n / 10) else n

/-- The decimal digits of a number, first digit first. -/
def digitsOf (n : Nat) : List Nat :=
  (Nat.toDigits 10 n).map fun c => c.toNat - 48

/-- The decimal `n · 10 ^ step`. -/
def Decimal.ofGrid (n : Nat) (step : Int) : Decimal :=
  let digits := digitsOf n
  { digits := digitsOf (dropZeros digits.length n)
    point := digits.length + step }

def searchGrids (d : Dyadic) (top : Int) : Nat → Nat → Decimal
  | 0, _ => ⟨[0], 0⟩
  | tries + 1, count =>
    let step := top - count + 1
    match (Interval.ofDyadic d step).hit? with
    | some n => .ofGrid n step
    | none => searchGrids d top tries (count + 1)

def Dyadic.shortest (d : Dyadic) : Decimal :=
  searchGrids d d.decimalExponent 18 1

end Handheld.Number
