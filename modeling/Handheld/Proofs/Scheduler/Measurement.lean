import Handheld.Scheduler
import Mathlib.Data.List.Forall2

/-!
# Measuring does not disturb

A scheduler keeps books: it counts all ticks, and it is told when a tick ended and how long the
phases of a tick took. No request reads them: the next tick is planned by when this one began. So
two runs that differ in what was measured give the same answers, and leave the same scheduler but
for its timings.

* `Remeasured`: requests that differ in what was measured;
* `rebooked`, `step_rebooked`: schedulers that differ in their books serve such requests alike, and
  each goes on with its own;
* `step_retimed`, `run_retimed`: schedulers that differ in their timings alone;
* `remeasured_run`: runs that differ in what was measured agree after every request.
-/

namespace Handheld.Scheduler

/-- Requests that are the same but for what was measured: when a tick ended, or which phase took
how long. -/
inductive Remeasured : Request → Request → Prop
  | same (r : Request) : Remeasured r r
  | ended (now later : Int) : Remeasured (.endTick now) (.endTick later)
  | recorded (phase phase' : Phase) (duration duration' : Nat) :
      Remeasured (.record phase duration) (.record phase' duration')

/-- The scheduler with other timings. -/
def retimed (s : Scheduler) (timings : FrameTimings) : Scheduler := { s with timings := timings }

/-- The scheduler with other books: another count of all ticks, and other timings. -/
def rebooked (s : Scheduler) (ticks : Nat) (timings : FrameTimings) : Scheduler :=
  { s with ticks := ticks, timings := timings }

/-- How many ticks an answer counts for. -/
def Answer.begun : Answer → Nat
  | .tick (some _) => 1
  | _ => 0

/-- The timings after a request, with the tick in flight. -/
def Request.timed (inFlight : Option Int) (timings : FrameTimings) : Request → FrameTimings
  | .resetTiming => timings.clear
  | .record phase duration => timings.add phase duration
  | .endTick now =>
    inFlight.elim timings fun began => timings.add .total (Instant.elapsed began now)
  | _ => timings

section

variable (s : Scheduler) (timings : FrameTimings)

/-! ### Requests -/

theorem beginTick_rebooked (ticks : Nat) (now : Int) :
    (s.rebooked ticks timings).beginTick now =
      ((s.beginTick now).1,
        (s.beginTick now).2.rebooked (ticks + (Answer.tick (s.beginTick now).1).begun) timings) := by
  have hdue : (s.rebooked ticks timings).isDue now = s.isDue now := rfl
  have hstate : (s.rebooked ticks timings).state = s.state := rfl
  unfold beginTick
  rw [hdue, hstate]
  cases s.isDue now with
  | false => rfl
  | true => cases s.state <;> rfl

/-- The books have no say in what a request does, and a request does to them what it always does. -/
theorem step_rebooked (ticks : Nat) {r r' : Request} (h : Remeasured r r') :
    (s.rebooked ticks timings).step r' =
      ((s.step r).1,
        (s.step r).2.rebooked (ticks + (s.step r).1.begun) (r'.timed s.inFlight timings)) := by
  have hbegin := s.beginTick_rebooked timings ticks
  obtain ⟨period, state, nextTick, inFlight, lastUpdate, frames, counted, measured⟩ := s
  cases h with
  | recorded phase phase' duration duration' => rfl
  | ended now later => cases inFlight <;> rfl
  | same =>
    cases r with
    | start | stop | pause | unpause => cases state <;> rfl
    | resetTiming | record => rfl
    | endTick => cases inFlight <;> rfl
    | beginTick now => simp only [step, hbegin, Request.timed]

theorem step_retimed {r r' : Request} (h : Remeasured r r') :
    ∃ timings', (s.retimed timings).step r' = ((s.step r).1, (s.step r).2.retimed timings') := by
  have hcounted : (s.step r).2.ticks = s.ticks + (s.step r).1.begun :=
    congrArg (fun answered => answered.2.ticks) (s.step_rebooked s.timings s.ticks (.same r))
  refine ⟨r'.timed s.inFlight timings, (s.step_rebooked timings s.ticks h).trans ?_⟩
  rw [← hcounted]
  rfl

/-! ### Runs -/

theorem run_retimed {rs rs' : List Request} (h : List.Forall₂ Remeasured rs rs') :
    ∃ timings', (s.retimed timings).run rs' = ((s.run rs).1, (s.run rs).2.retimed timings') := by
  induction h generalizing s timings with
  | nil => exact ⟨timings, rfl⟩
  | @cons r r' rs rs' hr hrs ih =>
    obtain ⟨between, hfirst⟩ := s.step_retimed timings hr
    obtain ⟨timings', hlater⟩ := ih (s.step r).2 between
    refine ⟨timings', ?_⟩
    simp only [run, hfirst, hlater]

end

/-- Two runs that differ in what was measured give the same answers, and after every request they
leave the same scheduler but for its timings. -/
theorem remeasured_run (s : Scheduler) {rs rs' : List Request}
    (h : List.Forall₂ Remeasured rs rs') :
    (s.run rs').1 = (s.run rs).1 ∧
      ∀ n, ∃ timings,
        (s.run (rs'.take n)).2 = { (s.run (rs.take n)).2 with timings := timings } := by
  have hrun : ∀ {qs qs' : List Request}, List.Forall₂ Remeasured qs qs' →
      ∃ timings, s.run qs' = ((s.run qs).1, (s.run qs).2.retimed timings) :=
    fun hqs => s.run_retimed s.timings hqs
  constructor
  · obtain ⟨timings, hall⟩ := hrun h
    rw [hall]
  · intro n
    obtain ⟨timings, htake⟩ := hrun (List.forall₂_take n h)
    exact ⟨timings, by rw [htake]; rfl⟩

/-- A tick that is ended in time and one that is ended late: only the timings tell. -/
theorem remeasured_run_late :
    let s := new standardPeriod
    let quick : List Request :=
      [.start 0, .beginTick 0, .record .update 2000, .endTick 5000, .pause, .beginTick 20000000]
    let slow : List Request :=
      [.start 0, .beginTick 0, .record .render 40000000, .endTick 50000000, .pause,
        .beginTick 20000000]
    List.Forall₂ Remeasured quick slow ∧ (s.run slow).1 = (s.run quick).1 ∧
      (∀ n, ∃ timings,
        (s.run (slow.take n)).2 = { (s.run (quick.take n)).2 with timings := timings }) ∧
      (s.run slow).2.timings ≠ (s.run quick).2.timings := by
  intro s quick slow
  have hmeasured : List.Forall₂ Remeasured quick slow :=
    .cons (.same _) <| .cons (.same _) <| .cons (.recorded _ _ _ _) <| .cons (.ended _ _) <|
      .cons (.same _) <| .cons (.same _) .nil
  obtain ⟨hanswers, hstates⟩ := remeasured_run s hmeasured
  exact ⟨hmeasured, hanswers, hstates, by decide⟩

end Handheld.Scheduler
