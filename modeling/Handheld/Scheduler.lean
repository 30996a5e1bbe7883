import Handheld.Timing

/-!
# The frame scheduler

The scheduler decides when a tick is due and what it is to do. It never reads a clock: whoever
asks brings the time along. A tick is begun when it is due and ended when its work is done; the
next one is planned only then, a period after this one began, so a tick that took long is
followed by single ticks and not by a burst.

Running, a tick updates the game and carries the time since the update before. Paused, it only
renders. The first update after a pause was ended or the timing reset starts counting afresh; a
start changes nothing about what was counted.

## Contents

* `Scheduler` and its operations.
* `Scheduler.Request`, `Scheduler.step`: the operations as values, for runs of any length.

## Main statements

* `beginTick_stopped`: a stopped scheduler begins nothing.
-/

namespace Handheld

/-- What the scheduler is doing. -/
inductive SchedulerState
  | stopped
  | running
  | paused
  deriving Repr, DecidableEq

def SchedulerState.name : SchedulerState → String
  | .stopped => "Stopped"
  | .running => "Running"
  | .paused => "Paused"

/-- What a due tick is to do. -/
inductive Tick
  /-- Run the game, `delta` nanoseconds after the update before, and render. -/
  | update (delta : Nat)
  /-- Render only. -/
  | renderOnly
  deriving Repr, DecidableEq

/-- The period of sixty ticks a second, in nanoseconds. -/
def standardPeriod : Nat := 16666666

/-- After how many ticks the timing summary is logged. -/
def summaryPeriod : Nat := 3600

/-- The pending tick and what it depends on. Times are instants in nanoseconds. -/
structure Scheduler where
  period : Nat := standardPeriod
  state : SchedulerState := .stopped
  /-- When the pending tick is due. -/
  nextTick : Option Int := none
  /-- When the tick in flight began. -/
  inFlight : Option Int := none
  /-- When the last update began. -/
  lastUpdate : Option Int := none
  /-- Updates since the last reset of timing. -/
  frames : Nat := 0
  /-- All ticks ever begun. -/
  ticks : Nat := 0
  timings : FrameTimings := {}
  deriving Repr, DecidableEq

namespace Scheduler

/-- A stopped scheduler. -/
def new (period : Nat) : Scheduler := { period := period }

/-- Running or paused. -/
def isActive (s : Scheduler) : Bool := s.state ≠ .stopped

def isPaused (s : Scheduler) : Bool := s.state = .paused

/-- Starts ticking with a first tick due at once; refused unless stopped. -/
def start (s : Scheduler) (now : Int) : Bool × Scheduler :=
  match s.state with
  | .stopped => (true, { s with state := .running, nextTick := some now })
  | _ => (false, s)

/-- Stops ticking and drops the pending tick; answers whether anything was to be stopped. -/
def stop (s : Scheduler) : Bool × Scheduler :=
  match s.state with
  | .stopped => (false, { s with nextTick := none })
  | _ => (true, { s with state := .stopped, nextTick := none })

def pause (s : Scheduler) : Bool × Scheduler :=
  match s.state with
  | .running => (true, { s with state := .paused })
  | _ => (false, s)

/-- Resumes, with the next update counting afresh; refused unless paused. -/
def unpause (s : Scheduler) : Bool × Scheduler :=
  match s.state with
  | .paused => (true, { s with state := .running, lastUpdate := none })
  | _ => (false, s)

/-- Forgets what was counted and measured. -/
def resetTiming (s : Scheduler) : Scheduler :=
  { s with lastUpdate := none, frames := 0, timings := s.timings.clear }

/-- How long until the pending tick is due. -/
def untilNext? (s : Scheduler) (now : Int) : Option Nat :=
  s.nextTick.map fun due => Instant.elapsed now due

def isDue (s : Scheduler) (now : Int) : Bool :=
  s.isActive && match s.nextTick with
    | some due => due ≤ now
    | none => false

/-- The time since the last update, or none yet. -/
def delta (s : Scheduler) (now : Int) : Nat :=
  match s.lastUpdate with
  | some last => Instant.elapsed last now
  | none => 0

/-- Begins the pending tick if it is due. -/
def beginTick (s : Scheduler) (now : Int) : Option Tick × Scheduler :=
  if s.isDue now then
    let begun := { s with nextTick := none, inFlight := some now, ticks := s.ticks + 1 }
    match s.state with
    | .paused => (some .renderOnly, begun)
    | _ =>
      (some (.update (s.delta now)),
        { begun with lastUpdate := some now, frames := s.frames + 1 })
  else (none, s)

def record (s : Scheduler) (phase : Phase) (duration : Nat) : Scheduler :=
  { s with timings := s.timings.add phase duration }

/-- Ends the tick in flight and plans the next one a period after this one began, unless the
scheduler was stopped meanwhile. -/
def endTick (s : Scheduler) (now : Int) : Scheduler :=
  match s.inFlight with
  | none => s
  | some began =>
    { s with
      inFlight := none
      timings := s.timings.add .total (Instant.elapsed began now)
      nextTick := if s.isActive then some (began + s.period) else s.nextTick }

/-- Begins the pending tick if it is due, and ends it at once after `cost`. -/
def tick (s : Scheduler) (now : Int) (cost : Nat) : Option Tick × Scheduler :=
  match s.beginTick now with
  | (some t, begun) => (some t, begun.endTick (now + cost))
  | (none, same) => (none, same)

/-- How many of a number of such ticks, a step apart, were due, and when the next one would be. -/
def tickEvery (s : Scheduler) (now step : Int) (cost : Nat) : Nat → Nat × Int × Scheduler
  | 0 => (0, now, s)
  | n + 1 =>
    let (t, s) := s.tick now cost
    let (due, later, s) := tickEvery s (now + step) step cost n
    (due + t.isSome.toNat, later, s)

/-- A request to the scheduler. -/
inductive Request
  | start (now : Int)
  | stop
  | pause
  | unpause
  | resetTiming
  | beginTick (now : Int)
  | record (phase : Phase) (duration : Nat)
  | endTick (now : Int)
  deriving Repr, DecidableEq

/-- The answer to a request. -/
inductive Answer
  | done
  | accepted (yes : Bool)
  | tick (t : Option Tick)
  deriving Repr, DecidableEq

/-- Serves a request. -/
def step (s : Scheduler) : Request → Answer × Scheduler
  | .start now => let r := s.start now; (.accepted r.1, r.2)
  | .stop => let r := s.stop; (.accepted r.1, r.2)
  | .pause => let r := s.pause; (.accepted r.1, r.2)
  | .unpause => let r := s.unpause; (.accepted r.1, r.2)
  | .resetTiming => (.done, s.resetTiming)
  | .beginTick now => let r := s.beginTick now; (.tick r.1, r.2)
  | .record phase duration => (.done, s.record phase duration)
  | .endTick now => (.done, s.endTick now)

/-- The answers to a list of requests, and the scheduler after them. -/
def run (s : Scheduler) : List Request → List Answer × Scheduler
  | [] => ([], s)
  | r :: rs =>
    let first := s.step r
    let later := run first.2 rs
    (first.1 :: later.1, later.2)

/-- A stopped scheduler begins nothing. -/
theorem beginTick_stopped {s : Scheduler} (h : s.state = .stopped) (now : Int) :
    s.beginTick now = (none, s) := by
  simp [beginTick, isDue, isActive, h]

/-- A tick is begun exactly if one is due. -/
theorem beginTick_isSome_iff (s : Scheduler) (now : Int) :
    (s.beginTick now).1.isSome ↔ s.isDue now := by
  unfold beginTick
  split
  · rename_i h
    cases s.state <;> simp [h]
  · rename_i h
    simp [h]

end Scheduler

end Handheld
