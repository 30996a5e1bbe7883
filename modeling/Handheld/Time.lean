import Handheld.Number.Notation

/-!
# Durations and instants

All times are whole nanoseconds: a duration is a `Nat`, an instant an `Int` counted from an
arbitrary start. Seconds as a double appear only where a cartridge or a statistic asks
for them.

## Contents

* `seconds`: the seconds of a duration, whole seconds and fraction rounded apart and added.
* `ofSeconds`: the duration nearest to a number of seconds, ties to even.
* `elapsed`: the time from one instant to another, zero if it runs backwards.
* `shortText`, `fullText`: durations in log lines, in the largest unit that leaves a whole part.
-/

namespace Handheld

namespace Duration

def perSecond : Nat := 1000000000

def ofMillis (n : Nat) : Nat := n * 1000000

def seconds (d : Nat) : Float :=
  Number.ofWhole (d / perSecond : Nat) + Number.ofWhole (d % perSecond : Nat) / 1e9

/-- The duration nearest to a number of seconds, ties to even. -/
def ofSeconds (x : Float) : Nat :=
  match Number.Parts.ofFloat x with
  | .finite d =>
    Number.roundQuotient .even (d.mantissa * perSecond * Nat.pow 2 d.exponent.toNat)
      (Nat.pow 2 (-d.exponent).toNat)
  | _ => 0

/-- The largest unit that leaves a whole part, in nanoseconds, and its name. -/
def unit (d : Nat) : Nat × String :=
  if 1000000000 ≤ d then (1000000000, "s")
  else if 1000000 ≤ d then (1000000, "ms")
  else if 1000 ≤ d then (1000, "µs")
  else (1, "ns")

/-- A duration with two decimal places. -/
def shortText (d : Nat) : String :=
  Number.fixedQuotient d (unit d).1 2 ++ (unit d).2

/-- A duration with as many decimal places as it has. -/
def fullText (d : Nat) : String :=
  let (size, name) := unit d
  let whole := Nat.repr (d / size)
  let rest := d % size
  if rest = 0 then whole ++ name
  else
    let places := (Nat.repr size).length - 1
    let digits := Nat.repr rest
    let shown := Nat.repr (Number.dropZeros places rest)
    whole ++ "." ++ Number.zeros (places - digits.length) ++ shown ++ name

end Duration

namespace Instant

/-- The time from one instant to another, zero if it runs backwards. -/
def elapsed (start now : Int) : Nat := (now - start).toNat

end Instant

end Handheld
