import Handheld.Proofs.Session.Poll

/-!
# The ticks of a session

A poll runs the tick that is due, and plans the next one a period later, unless the tick ended the
game. This file says what becomes of the scheduler and of the input in a poll; all else is in
`PollLeaves`.

* `Begins`, `begins`: the three ways in which a tick can begin;
* `poll_of_none`, `poll_of_some`: a poll, by the tick that it begins;
* `input_poll`: the input after a poll;
* `TickLeaves`, `tickLeaves_poll`: the scheduler after a poll;
* `isActive_poll`: whether ticks are to come after an update tick.
-/

namespace Handheld

/-! ### Ticks that begin -/

/-- How a tick begins. -/
inductive Scheduler.Begins (sch : Scheduler) (now : Int) : Option Tick × Scheduler → Prop
  | idle (hdue : sch.isDue now = false) : Begins sch now (none, sch)
  | draws (hdue : sch.isDue now = true) (hpaused : sch.state = .paused) :
      Begins sch now
        (some .renderOnly,
          { sch with nextTick := none, inFlight := some now, ticks := sch.ticks + 1 })
  | updates (hdue : sch.isDue now = true) (hrunning : sch.state = .running) :
      Begins sch now
        (some (.update (sch.delta now)),
          { sch with
            nextTick := none, inFlight := some now, ticks := sch.ticks + 1
            lastUpdate := some now, frames := sch.frames + 1 })

theorem Scheduler.begins (sch : Scheduler) (now : Int) : sch.Begins now (sch.beginTick now) := by
  cases hdue : sch.isDue now with
  | false =>
    rw [beginTick, hdue]
    exact .idle hdue
  | true =>
    rw [beginTick, hdue, if_pos rfl]
    obtain ⟨period, state, nextTick, inFlight, lastUpdate, frames, ticks, timings⟩ := sch
    cases state with
    | stopped => cases hdue
    | running => exact .updates hdue rfl
    | paused => exact .draws hdue rfl

namespace Session

variable {s : Session} {now : Int}

/-! ### Polls, by the tick -/

theorem poll_of_none {begun : Scheduler} (h : s.scheduler.beginTick now = (none, begun)) :
    ∃ board submission, s.poll now =
      ⟨none, { s with deferred := s.deferred.rest now, board := board, submission := submission },
        (s.runDeferred now).2⟩ := by
  obtain ⟨board, submission, hdone⟩ := s.runDeferred_fst now
  refine ⟨board, submission, ?_⟩
  have htick : (s.runDeferred now).1.scheduler.beginTick now = (none, begun) := by
    rw [hdone]
    exact h
  rw [poll_eq, runTick_of_none htick, hdone]
  exact congrArg (Reply.mk none _) (List.append_nil _)

theorem poll_of_some {tick : Tick} {begun : Scheduler}
    (h : s.scheduler.beginTick now = (some tick, begun)) :
    ∃ board submission,
      let t : Session :=
        { s with
          deferred := s.deferred.rest now, board := board, submission := submission
          scheduler := begun }
      s.poll now =
        ⟨some tick, ((t.work now tick).1.finishTick now).1,
          (s.runDeferred now).2
            ++ (.ticked :: (t.work now tick).2 ++ ((t.work now tick).1.finishTick now).2)⟩ := by
  obtain ⟨board, submission, hdone⟩ := s.runDeferred_fst now
  refine ⟨board, submission, ?_⟩
  have htick : (s.runDeferred now).1.scheduler.beginTick now = (some tick, begun) := by
    rw [hdone]
    exact h
  rw [poll_eq, runTick_of_some htick, hdone]

/-- An update stops the scheduler if its answer is the first to report the game's end. -/
theorem scheduler_update (s : Session) (now : Int) (delta : Nat) :
    (s.update now delta).1.scheduler =
      if !s.display.gameOver && endsGame (s.sandbox.answer (Duration.seconds delta)
        s.input.snapshot.1) then s.timed.scheduler.stop.2 else s.timed.scheduler := by
  rw [← raises_frame, ← Sandbox.invoke_result]
  unfold update
  simp only
  split <;> rfl

/-- The input and the scheduler after an update tick, before it is finished. -/
theorem work_update (s : Session) (now : Int) (delta : Nat) :
    (s.work now (.update delta)).1.input = (s.update now delta).1.input ∧
      (s.work now (.update delta)).1.scheduler = (s.update now delta).1.render.1.scheduler := by
  obtain ⟨queued, promised, -, hpromise⟩ := (s.update now delta).1.render.1.promiseFrame_eq now
  show ((s.update now delta).1.render.1.promiseFrame now).input = _ ∧
    ((s.update now delta).1.render.1.promiseFrame now).scheduler = _
  rw [hpromise]
  exact ⟨rfl, rfl⟩

theorem input_poll (s : Session) (now : Int) :
    (s.poll now).session.input =
      match (s.poll now).value with
      | some (.update _) => s.input.snapshot.2
      | _ => s.input := by
  rcases htick : s.scheduler.beginTick now with ⟨_ | tick, begun⟩
  · obtain ⟨board, submission, hpoll⟩ := poll_of_none htick
    rw [hpoll]
  · obtain ⟨board, submission, hpoll⟩ := poll_of_some htick
    rw [hpoll]
    cases tick with
    | renderOnly => rfl
    | update delta =>
      refine (work_update _ now delta).1.trans ?_
      obtain ⟨scheduler, hupdate⟩ := update_fst
        { s with
          deferred := s.deferred.rest now, board := board, submission := submission
          scheduler := begun } now delta _ rfl
      rw [hupdate]

/-! ### The scheduler -/

/-- What a poll leaves of the scheduler, by the tick that it ran. -/
inductive TickLeaves (sch : Scheduler) (now : Int) : Option Tick → Scheduler → Prop
  | idle (hdue : sch.isDue now = false) : TickLeaves sch now none sch
  | drawn {ticks timings} (hdue : sch.isDue now = true) (hpaused : sch.state = .paused) :
      TickLeaves sch now (some .renderOnly)
        { sch with
          nextTick := some (now + sch.period), inFlight := none
          ticks := ticks, timings := timings }
  | updated {ticks timings} (hdue : sch.isDue now = true) (hrunning : sch.state = .running) :
      TickLeaves sch now (some (.update (sch.delta now)))
        { sch with
          nextTick := some (now + sch.period), inFlight := none, lastUpdate := some now
          frames := sch.frames + 1, ticks := ticks, timings := timings }
  /-- The update ended the game. -/
  | ended {ticks timings} (hdue : sch.isDue now = true) (hrunning : sch.state = .running) :
      TickLeaves sch now (some (.update (sch.delta now)))
        { sch with
          state := .stopped, nextTick := none, inFlight := none, lastUpdate := some now
          frames := sch.frames + 1, ticks := ticks, timings := timings }

/-- The tick that begins is worked on and ended, with all of it in between. -/
theorem scheduler_of_some {tick : Tick} {begun : Scheduler}
    (h : s.scheduler.beginTick now = (some tick, begun)) :
    ∃ t : Session, t.scheduler = begun ∧ (s.poll now).value = some tick ∧
      (s.poll now).session.scheduler = (t.work now tick).1.scheduler.endTick now := by
  obtain ⟨board, submission, hpoll⟩ := poll_of_some h
  rw [hpoll]
  exact ⟨_, rfl, rfl, rfl⟩

/-- A tick that only rendered is ended. -/
theorem TickLeaves.ofDrawn {sch begun : Scheduler} (h : sch.Begins now (some .renderOnly, begun)) :
    TickLeaves sch now (some .renderOnly) ((begun.record .render 0).endTick now) := by
  obtain ⟨period, state, nextTick, inFlight, lastUpdate, frames, ticks, timings⟩ := sch
  cases h with
  | draws hdue hpaused =>
    obtain rfl : state = .paused := hpaused
    exact .drawn hdue rfl

/-- An update is ended, and may have ended the game before. -/
theorem TickLeaves.ofUpdated {sch begun : Scheduler} {delta : Nat}
    (h : sch.Begins now (some (.update delta), begun)) :
    let updated := (begun.record .update 0).record .apply 0
    TickLeaves sch now (some (.update delta)) ((updated.record .render 0).endTick now) ∧
      TickLeaves sch now (some (.update delta)) ((updated.stop.2.record .render 0).endTick now) := by
  obtain ⟨period, state, nextTick, inFlight, lastUpdate, frames, ticks, timings⟩ := sch
  cases h with
  | updates hdue hrunning =>
    obtain rfl : state = .running := hrunning
    exact ⟨.updated hdue rfl, .ended hdue rfl⟩

theorem tickLeaves_poll (s : Session) (now : Int) :
    TickLeaves s.scheduler now (s.poll now).value (s.poll now).session.scheduler := by
  have hbegins := s.scheduler.begins now
  rcases htick : s.scheduler.beginTick now with ⟨_ | tick, begun⟩
  · rw [htick] at hbegins
    obtain ⟨board, submission, hpoll⟩ := poll_of_none htick
    rw [hpoll]
    cases hbegins with
    | idle hdue => exact .idle hdue
  · rw [htick] at hbegins
    obtain ⟨t, hbegun, hvalue, hleft⟩ := scheduler_of_some htick
    rw [hvalue, hleft]
    cases tick with
    | renderOnly =>
      rw [← hbegun] at hbegins
      exact .ofDrawn hbegins
    | update delta =>
      rw [← hbegun] at hbegins
      have hdrawn : (t.work now (.update delta)).1.scheduler
          = (t.update now delta).1.scheduler.record .render 0 := (work_update t now delta).2
      rw [hdrawn]
      obtain ⟨hplays, hends⟩ := TickLeaves.ofUpdated hbegins
      rw [t.scheduler_update now delta]
      split
      · exact hends
      · exact hplays

theorem isActive_endTick (sch : Scheduler) (now : Int) :
    (sch.endTick now).isActive = sch.isActive := by
  unfold Scheduler.endTick
  cases sch.inFlight <;> rfl

/-- After an update tick more ticks are to come, unless it ended the game. -/
theorem isActive_poll {delta : Nat} (h : (s.poll now).value = some (.update delta)) :
    (s.poll now).session.scheduler.isActive =
      !(!s.display.gameOver && endsGame (s.sandbox.answer (Duration.seconds delta)
        s.input.snapshot.1)) := by
  have hbegins := s.scheduler.begins now
  rcases htick : s.scheduler.beginTick now with ⟨_ | tick, begun⟩
  · obtain ⟨board, submission, hpoll⟩ := poll_of_none htick
    rw [hpoll] at h
    cases h
  · rw [htick] at hbegins
    obtain ⟨board, submission, hpoll⟩ := poll_of_some htick
    rw [hpoll] at h ⊢
    obtain rfl : tick = .update delta := Option.some.inj h
    let t : Session :=
      { s with
        deferred := s.deferred.rest now, board := board, submission := submission
        scheduler := begun }
    have hrunning : t.timed.scheduler.isActive = true := by
      cases hbegins with
      | updates hdue hrunning => exact ((Bool.and_eq_true _ _).mp hdue).1
    show ((t.work now (.update delta)).1.scheduler.endTick now).isActive = _
    rw [isActive_endTick, (work_update t now delta).2]
    show (t.update now delta).1.scheduler.isActive = _
    rw [scheduler_update]
    show _ = !(!t.display.gameOver && endsGame (t.sandbox.answer (Duration.seconds delta)
        t.input.snapshot.1))
    cases !t.display.gameOver && endsGame _ with
    | false => exact hrunning
    | true =>
      exact (Bool.eq_false_iff).mpr (not_isActive_stop _)

end Session

end Handheld
