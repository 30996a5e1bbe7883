import Handheld.Number.Quotient

/-!
# Binary fractions behind doubles and singles

A finite double is a whole number times a power of two. Taking the bit pattern apart once
makes floors, truncations and changes of width exact arithmetic on natural numbers, so that
no rule below depends on how the machine rounds.

## Contents

* `Width`: the two layouts, doubles and singles.
* `Parts.ofFloat`, `Parts.ofSingle`: a bit pattern as sign, mantissa and exponent.
* `Dyadic.floor`, `Dyadic.truncate`, `Dyadic.nearest`: the whole numbers next to a fraction.
* `Width.encode`: the pattern nearest to a fraction, ties to the even neighbour.
* `clamp`: a whole number moved into a range.
-/

namespace Handheld.Number

/-- The number of fraction and exponent bits of a binary format. -/
structure Width where
  fraction : Nat
  exponent : Nat
  deriving Repr, DecidableEq

def Width.double : Width := ⟨52, 11⟩

def Width.single : Width := ⟨23, 8⟩

/-- A finite binary fraction, `mantissa · 2 ^ exponent` with a sign that zero keeps too. -/
structure Dyadic where
  negative : Bool
  mantissa : Nat
  exponent : Int
  deriving Repr, DecidableEq

/-- What a bit pattern stands for. -/
inductive Parts
  | finite (value : Dyadic)
  | infinite (negative : Bool)
  | nan
  deriving Repr, DecidableEq

/-- The exponent of the last fraction bit of the smallest numbers of a format. -/
def Width.leastExponent (w : Width) : Int :=
  2 - Nat.pow 2 (w.exponent - 1) - w.fraction

/-- Takes a bit pattern apart. -/
def Parts.decode (w : Width) (bits : Nat) : Parts :=
  let fraction := bits % Nat.pow 2 w.fraction
  let field := bits / Nat.pow 2 w.fraction % Nat.pow 2 w.exponent
  let negative := bits / Nat.pow 2 (w.fraction + w.exponent) % 2 == 1
  if field = Nat.pow 2 w.exponent - 1 then
    if fraction = 0 then .infinite negative else .nan
  else if field = 0 then
    .finite ⟨negative, fraction, w.leastExponent⟩
  else
    .finite ⟨negative, fraction + Nat.pow 2 w.fraction, w.leastExponent + (field - 1 : Nat)⟩

def Parts.ofFloat (x : Float) : Parts :=
  .decode .double x.toBits.toNat

def Parts.ofSingle (x : Float32) : Parts :=
  .decode .single x.toBits.toNat

/-- The signed numerator over `2 ^ (-exponent)`, or the whole number itself. -/
def Dyadic.signedMantissa (d : Dyadic) : Int :=
  if d.negative then -d.mantissa else d.mantissa

/-- The largest whole number that is not above the fraction. -/
def Dyadic.floor (d : Dyadic) : Int :=
  if 0 ≤ d.exponent then d.signedMantissa * Nat.pow 2 d.exponent.toNat
  else d.signedMantissa / Nat.pow 2 (-d.exponent).toNat

/-- The whole part, toward zero. -/
def Dyadic.truncate (d : Dyadic) : Int :=
  if 0 ≤ d.exponent then d.signedMantissa * Nat.pow 2 d.exponent.toNat
  else d.signedMantissa.tdiv (Nat.pow 2 (-d.exponent).toNat)

/-- The nearest whole number, a half going away from zero. -/
def Dyadic.nearest (d : Dyadic) : Int :=
  if 0 ≤ d.exponent then d.signedMantissa * Nat.pow 2 d.exponent.toNat
  else
    let size : Int := roundQuotient .away d.mantissa (Nat.pow 2 (-d.exponent).toNat)
    if d.negative then -size else size

/-- The nearest whole number, a half going up. -/
def Dyadic.nearestUp (d : Dyadic) : Int :=
  if 0 ≤ d.exponent then d.signedMantissa * Nat.pow 2 d.exponent.toNat
  else
    let unit : Int := Nat.pow 2 (-d.exponent).toNat
    (2 * d.signedMantissa + unit) / (2 * unit)

/-- Whether the fraction has no part after the point. -/
def Dyadic.isWhole (d : Dyadic) : Bool :=
  0 ≤ d.exponent || d.mantissa % Nat.pow 2 (-d.exponent).toNat == 0

/-- The bit pattern nearest to a fraction, ties to the even mantissa; a fraction that is too
large becomes infinite. The patterns of positive numbers count up without a gap, so a carry
out of the mantissa lands on the next exponent by itself. -/
def Width.encode (w : Width) (d : Dyadic) : Nat :=
  let sign := if d.negative then Nat.pow 2 (w.fraction + w.exponent) else 0
  if d.mantissa = 0 then sign
  else
    let last := max ((d.mantissa.log2 : Int) + d.exponent - w.fraction) w.leastExponent
    let rounded :=
      if last ≤ d.exponent then d.mantissa * Nat.pow 2 (d.exponent - last).toNat
      else roundQuotient .even d.mantissa (Nat.pow 2 (last - d.exponent).toNat)
    let pattern := (last - w.leastExponent).toNat * Nat.pow 2 w.fraction + rounded
    sign + min pattern ((Nat.pow 2 w.exponent - 1) * Nat.pow 2 w.fraction)

def toSingle (x : Float) : Float32 :=
  match Parts.ofFloat x with
  | .finite d => .ofBits (UInt32.ofNat (Width.single.encode d))
  | .infinite negative => .ofBits (if negative then 0xff800000 else 0x7f800000)
  | .nan => .ofBits 0x7fc00000

def ofWhole (n : Int) : Float :=
  .ofBits (UInt64.ofNat (Width.double.encode ⟨n < 0, n.natAbs, 0⟩))

/-- Whether a double is neither infinite nor NaN. -/
def isFinite (x : Float) : Bool :=
  match Parts.ofFloat x with
  | .finite _ => true
  | _ => false

/-- Moves a whole number into the range from `low` to `high`. -/
def clamp (low high n : Int) : Int :=
  max low (min high n)

/-- The least value of a signed 64-bit register. -/
def least64 : Int := -9223372036854775808

/-- The greatest value of a signed 64-bit register. -/
def greatest64 : Int := 9223372036854775807

/-- A whole number stored in a signed 64-bit register that saturates. -/
def saturate64 (n : Int) : Int := clamp least64 greatest64 n

/-- A whole number stored in a signed 32-bit register that saturates. -/
def saturate32 (n : Int) : Int := clamp (-2147483648) 2147483647 n

/-- The floor of a double as a saturating 64-bit number; none if it is not finite. -/
def floor64? (x : Float) : Option Int :=
  match Parts.ofFloat x with
  | .finite d => some (saturate64 d.floor)
  | _ => none

/-- The floor of a double, as a double; zeros keep their sign. -/
def floorFloat (x : Float) : Float :=
  match Parts.ofFloat x with
  | .finite d => if d.isWhole then x else ofWhole d.floor
  | _ => x

/-- The whole double nearest to a double, a half going up. -/
def nearestUpFloat (x : Float) : Float :=
  match Parts.ofFloat x with
  | .finite d => if d.isWhole then x else ofWhole d.nearestUp
  | _ => x

/-- The nearest pixel of a coordinate, a half going away from zero, in a saturating 32-bit
register; NaN is read as zero. -/
def pixelOf (x : Float32) : Int :=
  match Parts.ofSingle x with
  | .finite d => saturate32 d.nearest
  | .infinite negative => if negative then -2147483648 else 2147483647
  | .nan => 0

/-- Clamping lands in the range. -/
theorem clamp_mem {low high : Int} (h : low ≤ high) (n : Int) :
    low ≤ clamp low high n ∧ clamp low high n ≤ high := by
  unfold clamp
  omega

/-- Clamping leaves members of the range alone. -/
theorem clamp_of_mem {low high n : Int} (h₁ : low ≤ n) (h₂ : n ≤ high) :
    clamp low high n = n := by
  unfold clamp
  omega

end Handheld.Number
