import Handheld.Scheduler
import Mathlib.Data.List.Induction

/-!
# What is planned and what is in flight

A stopped scheduler has nothing pending and begins nothing. A running or paused one never falls
asleep: a tick is pending, or one is in flight whose end plans the next. That holds in every order
of requests, also when a stop and a start come during a tick and leave both.

Paused is a scheduler after a pause that found it running, until it is resumed or stopped.

* `SchedulerState.after`, `state_run`: what the scheduler is doing, without its ticks;
* `Tended`, `tended_run`: what is planned suits what the scheduler is doing;
* `isSome_nextTick_endTick`: after an end a scheduler that is not stopped has a tick pending;
* `planned_run`: all of it, after any run.
-/

namespace Handheld

/-- What a scheduler is doing after a request. -/
def SchedulerState.after : SchedulerState → Scheduler.Request → SchedulerState
  | .stopped, .start _ => .running
  | .running, .pause => .paused
  | .paused, .unpause => .running
  | _, .stop => .stopped
  | state, _ => state

/-- Only pausing a running scheduler leads into a pause, and only resuming or stopping leads out. -/
theorem SchedulerState.after_eq_paused_iff (state : SchedulerState) (r : Scheduler.Request) :
    state.after r = .paused ↔
      (state = .running ∧ r = .pause) ∨ (state = .paused ∧ r ≠ .unpause ∧ r ≠ .stop) := by
  cases state <;> cases r <;> simp [after]

namespace Scheduler

variable {s : Scheduler}

/-! ### What the scheduler is doing -/

theorem state_beginTick (s : Scheduler) (now : Int) : (s.beginTick now).2.state = s.state := by
  unfold beginTick
  split
  · split <;> rfl
  · rfl

theorem state_endTick (s : Scheduler) (now : Int) : (s.endTick now).state = s.state := by
  unfold endTick
  split <;> rfl

theorem state_step (s : Scheduler) (r : Request) : (s.step r).2.state = s.state.after r := by
  cases r with
  | start now =>
    show (s.start now).2.state = _
    cases hstate : s.state <;> simp [start, hstate, SchedulerState.after]
  | stop =>
    show s.stop.2.state = _
    cases hstate : s.state <;> simp [stop, hstate, SchedulerState.after]
  | pause =>
    show s.pause.2.state = _
    cases hstate : s.state <;> simp [pause, hstate, SchedulerState.after]
  | unpause =>
    show s.unpause.2.state = _
    cases hstate : s.state <;> simp [unpause, hstate, SchedulerState.after]
  | beginTick now =>
    rw [step, state_beginTick]
    cases s.state <;> rfl
  | endTick now =>
    rw [step, state_endTick]
    cases s.state <;> rfl
  | resetTiming | record => cases hstate : s.state <;> exact hstate

theorem state_run (s : Scheduler) (rs : List Request) :
    (s.run rs).2.state = rs.foldl SchedulerState.after s.state := by
  induction rs generalizing s with
  | nil => rfl
  | cons r rs ih => rw [List.foldl_cons, ← state_step, ← ih, run]

theorem state_run_concat (s : Scheduler) (rs : List Request) (r : Request) :
    (s.run (rs ++ [r])).2.state = (s.run rs).2.state.after r := by
  rw [state_run, state_run, List.foldl_append]
  rfl

/-- A scheduler is paused after a pause that found it running, until it is resumed or stopped. -/
theorem paused_run_iff (hs : s.state ≠ .paused) (rs : List Request) :
    (s.run rs).2.state = .paused ↔
      ∃ before after, rs = before ++ .pause :: after ∧ (s.run before).2.state = .running ∧
        ∀ r ∈ after, r ≠ .unpause ∧ r ≠ .stop := by
  induction rs using List.reverseRecOn with
  | nil => simp [run, hs]
  | append_singleton rs r ih =>
    rw [state_run_concat, SchedulerState.after_eq_paused_iff, ih]
    constructor
    · rintro (⟨hrunning, rfl⟩ | ⟨⟨before, after, rfl, hrunning, hafter⟩, hr⟩)
      · exact ⟨rs, [], rfl, hrunning, by simp⟩
      · refine ⟨before, after ++ [r], by simp, hrunning, ?_⟩
        intro r' hr'
        rcases List.mem_append.mp hr' with hold | hnew
        · exact hafter r' hold
        · rwa [List.mem_singleton.mp hnew]
    · rintro ⟨before, after, hrs, hrunning, hafter⟩
      -- the pause is the last request, or the last request is one that left the pause alone
      rcases List.eq_nil_or_concat after with rfl | ⟨after, last, rfl⟩
      · obtain ⟨rfl, hlast⟩ := List.append_inj' hrs rfl
        exact Or.inl ⟨hrunning, List.singleton_inj.mp hlast⟩
      · have hsplit : rs ++ [r] = (before ++ .pause :: after) ++ [last] := by simp [hrs]
        obtain ⟨rfl, hlast⟩ := List.append_inj' hsplit rfl
        obtain rfl := List.singleton_inj.mp hlast
        refine Or.inr ⟨⟨before, after, rfl, hrunning, ?_⟩, hafter r (by simp)⟩
        exact fun r' hr' => hafter r' (by simp [hr'])

/-! ### What is planned -/

/-- What is planned suits what the scheduler is doing. -/
structure Tended (s : Scheduler) : Prop where
  stopped : s.state = .stopped → s.nextTick = none
  /-- Both are there after a stop and a start during a tick. -/
  active : s.state ≠ .stopped → s.nextTick.isSome = true ∨ s.inFlight.isSome = true

theorem tended_new (period : Nat) : Tended (new period) where
  stopped := fun _ => rfl
  active := fun hactive => absurd rfl hactive

/-- A request that leaves the ticks alone, and neither starts nor stops. -/
theorem Tended.aside (h : Tended s) {t : Scheduler} (hnext : t.nextTick = s.nextTick)
    (hflight : t.inFlight = s.inFlight) (hstate : t.state = .stopped ↔ s.state = .stopped) :
    Tended t where
  stopped hstopped := by rw [hnext, h.stopped (hstate.mp hstopped)]
  active hactive := by
    rw [hnext, hflight]
    exact h.active fun hstopped => hactive (hstate.mpr hstopped)

theorem Tended.start (h : Tended s) (now : Int) : Tended (s.start now).2 := by
  unfold Scheduler.start
  split
  · exact ⟨fun hstopped => SchedulerState.noConfusion hstopped, fun _ => Or.inl rfl⟩
  · exact h

theorem tended_stop (s : Scheduler) : Tended s.stop.2 := by
  unfold stop
  split
  · rename_i hstopped
    exact ⟨fun _ => rfl, fun hactive => absurd hstopped hactive⟩
  · exact ⟨fun _ => rfl, fun hactive => absurd rfl hactive⟩

theorem Tended.pause (h : Tended s) : Tended s.pause.2 := by
  unfold Scheduler.pause
  split
  · rename_i hrunning
    exact h.aside rfl rfl (by simp [hrunning])
  · exact h

theorem Tended.unpause (h : Tended s) : Tended s.unpause.2 := by
  unfold Scheduler.unpause
  split
  · rename_i hpaused
    exact h.aside rfl rfl (by simp [hpaused])
  · exact h

/-- A tick that is begun is taken from what is pending, and is in flight. -/
theorem Tended.beginTick (h : Tended s) (now : Int) : Tended (s.beginTick now).2 := by
  unfold Scheduler.beginTick
  split
  · split <;> exact ⟨fun _ => rfl, fun _ => Or.inr rfl⟩
  · exact h

/-- Ending the tick in flight leaves a tick pending, unless the scheduler was stopped. -/
theorem isSome_nextTick_endTick (h : Tended s) (hactive : s.state ≠ .stopped) (now : Int) :
    (s.endTick now).nextTick.isSome = true := by
  unfold Scheduler.endTick
  cases hflight : s.inFlight with
  | none =>
    rcases h.active hactive with hnext | hsome
    · exact hnext
    · simp [hflight] at hsome
  | some began => simp [isActive, hactive]

theorem Tended.endTick (h : Tended s) (now : Int) : Tended (s.endTick now) where
  stopped hstopped := by
    rw [state_endTick] at hstopped
    unfold Scheduler.endTick
    cases s.inFlight <;> simp [isActive, hstopped, h.stopped hstopped]
  active hactive := by
    rw [state_endTick] at hactive
    exact Or.inl (isSome_nextTick_endTick h hactive now)

theorem tended_step (h : Tended s) (r : Request) : Tended (s.step r).2 := by
  cases r with
  | start now => exact h.start now
  | stop => exact tended_stop s
  | pause => exact h.pause
  | unpause => exact h.unpause
  | resetTiming => exact h.aside rfl rfl Iff.rfl
  | beginTick now => exact h.beginTick now
  | record phase duration => exact h.aside rfl rfl Iff.rfl
  | endTick now => exact h.endTick now

theorem tended_run (h : Tended s) (rs : List Request) : Tended (s.run rs).2 := by
  induction rs generalizing s with
  | nil => exact h
  | cons r rs ih => exact ih (tended_step h r)

/-- After any run, a stopped scheduler has nothing pending and begins nothing, and any other has a
tick pending or in flight, so that the end of a tick leaves one pending. A pause begins only when a
running scheduler is paused, and ends only when it is resumed or stopped. -/
theorem planned_run (period : Nat) (rs : List Request) :
    let s := ((new period).run rs).2
    (s.state = .stopped → s.nextTick = none ∧ ∀ now, s.beginTick now = (none, s)) ∧
      (s.state ≠ .stopped → (s.nextTick.isSome = true ∨ s.inFlight.isSome = true) ∧
        ∀ now, (s.endTick now).nextTick.isSome = true) ∧
      (∀ r, (s.step r).2.state = .paused ↔
        (s.state = .running ∧ r = .pause) ∨ (s.state = .paused ∧ r ≠ .unpause ∧ r ≠ .stop)) ∧
      (s.state = .paused ↔ ∃ before after, rs = before ++ .pause :: after ∧
        ((new period).run before).2.state = .running ∧ ∀ r ∈ after, r ≠ .unpause ∧ r ≠ .stop) := by
  intro s
  have htended : Tended s := tended_run (tended_new period) rs
  refine ⟨?_, ?_, ?_, ?_⟩
  · intro hstopped
    exact ⟨htended.stopped hstopped, beginTick_stopped hstopped⟩
  · intro hactive
    exact ⟨htended.active hactive, isSome_nextTick_endTick htended hactive⟩
  · intro r
    rw [state_step]
    exact SchedulerState.after_eq_paused_iff s.state r
  · exact paused_run_iff (s := new period) (fun hpaused => SchedulerState.noConfusion hpaused) rs

/-- Stopped and started during a tick, a scheduler has one in flight and the next one pending. -/
example :
    let s := ((new standardPeriod).run [.start 0, .beginTick 0, .stop, .start 1]).2
    (s.nextTick, s.inFlight) = (some 1, some 0) := rfl

end Scheduler

end Handheld
