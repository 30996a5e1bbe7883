import Handheld.Time

/-!
# Frame timing

For each phase of a tick the last thirty durations are kept. Their mean and sample deviation are
computed in one pass: each sample moves the running mean by its share and adds the product of
its two distances, before and after the move, to the sum of squared deviations.

The pass is written over any type with the four operations, so that the same loop that runs on
doubles can be read over the rationals.

## Contents

* `Moments`: the one-pass statistics.
* `TimingBuffer`: a window of durations.
* `Phase`, `FrameTimings`: one window per phase, and a summary line.

## Main statements

* `buffer_add_same`, `buffer_add_other`: a phase's durations go to its own window.
-/

namespace Handheld

/-- The count, mean and sum of squared deviations of the samples so far. -/
structure Moments (α : Type) where
  count : Nat
  mean : α
  squares : α

namespace Moments

/-- No samples. -/
def start {α : Type} (zero : α) : Moments α := ⟨0, zero, zero⟩

/-- One more sample; `ofCount` reads a count as a number. -/
def add {α : Type} [Add α] [Sub α] [Mul α] [Div α] (ofCount : Nat → α) (m : Moments α) (x : α) :
    Moments α :=
  let count := m.count + 1
  let before := x - m.mean
  let mean := m.mean + before / ofCount count
  let after := x - mean
  ⟨count, mean, m.squares + before * after⟩

def ofList {α : Type} [Add α] [Sub α] [Mul α] [Div α] (ofCount : Nat → α) (zero : α)
    (xs : List α) : Moments α :=
  xs.foldl (add ofCount) (start zero)

/-- The sample variance: zero for a single sample. -/
def variance {α : Type} [Div α] (ofCount : Nat → α) (zero : α) (m : Moments α) : α :=
  if 1 < m.count then m.squares / ofCount (m.count - 1) else zero

end Moments

/-- A window of durations, oldest first. -/
structure TimingBuffer where
  window : List Nat := []
  deriving Repr, DecidableEq

namespace TimingBuffer

/-- How many durations a window keeps. -/
def capacity : Nat := 30

/-- Adds a duration; the oldest gives way in a full window. -/
def add (b : TimingBuffer) (d : Nat) : TimingBuffer :=
  let grown := b.window ++ [d]
  ⟨grown.drop (grown.length - capacity)⟩

/-- The window without durations. -/
def clear (_ : TimingBuffer) : TimingBuffer := {}

/-- The last duration added, or zero. -/
def mostRecent (b : TimingBuffer) : Nat := b.window.getLast?.getD 0

/-- How many durations the window holds. -/
def size (b : TimingBuffer) : Nat := b.window.length

/-- The greater of a double and zero; NaN counts as zero. -/
def atLeastZero (x : Float) : Float := if 0 < x then x else 0

/-- The statistics of the window in seconds. -/
def moments (b : TimingBuffer) : Moments Float :=
  .ofList (fun n => Number.ofWhole n) 0 (b.window.map Duration.seconds)

/-- The mean and the sample deviation of the window. -/
def stats (b : TimingBuffer) : Nat × Nat :=
  let m := b.moments
  if m.count = 0 then (0, 0)
  else
    let variance := m.variance (fun n => Number.ofWhole n) 0
    (Duration.ofSeconds (atLeastZero m.mean),
      Duration.ofSeconds (atLeastZero variance).sqrt)

end TimingBuffer

/-- The timed phases of a tick. -/
inductive Phase
  | update
  | apply
  | render
  | total
  deriving Repr, DecidableEq

namespace Phase

/-- Every phase, in the order of the summary. -/
def all : List Phase := [.update, .apply, .render, .total]

def name : Phase → String
  | .update => "update"
  | .apply => "apply"
  | .render => "render"
  | .total => "total"

end Phase

/-- A window per phase. -/
structure FrameTimings where
  update : TimingBuffer := {}
  apply : TimingBuffer := {}
  render : TimingBuffer := {}
  total : TimingBuffer := {}
  deriving Repr, DecidableEq

namespace FrameTimings

/-- The window of a phase. -/
def buffer (t : FrameTimings) : Phase → TimingBuffer
  | .update => t.update
  | .apply => t.apply
  | .render => t.render
  | .total => t.total

/-- Adds a duration to a phase. -/
def add (t : FrameTimings) (p : Phase) (d : Nat) : FrameTimings :=
  match p with
  | .update => { t with update := t.update.add d }
  | .apply => { t with apply := t.apply.add d }
  | .render => { t with render := t.render.add d }
  | .total => { t with total := t.total.add d }

/-- Every window emptied. -/
def clear (_ : FrameTimings) : FrameTimings := {}

/-- The rate that a tick's duration leaves room for: with commas above a hundred, with a decimal
below ten. -/
def capacityText (total : Nat) : String :=
  let seconds := Duration.seconds total
  if seconds ≤ 0 then "∞"
  else
    let rate := 1 / seconds
    if 100 < rate then Number.grouped rate.toUInt64.toNat
    else if rate < 10 then Number.fixedPlaces rate 1
    else Number.fixedPlaces rate 0

/-- The mean and deviation of a phase as text. -/
def phaseText (t : FrameTimings) (p : Phase) : String :=
  let (mean, deviation) := (t.buffer p).stats
  p.name ++ " " ++ Duration.shortText mean ++ " ± " ++ Duration.shortText deviation

def summary (t : FrameTimings) : String :=
  capacityText t.total.stats.1 ++ " ticks/s capacity ("
    ++ ", ".intercalate (Phase.all.map t.phaseText) ++ ")"

/-- A duration is added to the window of its phase. -/
theorem buffer_add_same (t : FrameTimings) (p : Phase) (d : Nat) :
    (t.add p d).buffer p = (t.buffer p).add d := by
  cases p <;> rfl

/-- The windows of the other phases stay as they are. -/
theorem buffer_add_other (t : FrameTimings) {p q : Phase} (d : Nat) (h : p ≠ q) :
    (t.add p d).buffer q = t.buffer q := by
  cases p <;> cases q <;> first | rfl | exact absurd rfl h

end FrameTimings

end Handheld
