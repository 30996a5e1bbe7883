import Handheld.Proofs.Frame.Grouped
import Handheld.Proofs.Session.History

/-!
# What a poll leaves

A poll does the deferred work that is due and then runs the tick that is due. The deferred work
touches only what is known of the leaderboard, a tick that renders touches only the renderer and
the timing, and an update tick puts the game's answer on the display. An answer that is the first
to report the game's end queues the report of the score, and nothing else queues one.

* `Display.after`, `endsGame`, `reportOf`: what an update tick does to the display
  and to the queue;
* `PollLeaves`, `pollLeaves_poll`: the three ways in which a poll can end.
-/

namespace Handheld

/-- A display after the game's answer to a frame. A fault leaves it as it was. -/
def Display.after (d : Display) : Except GuestError FrameResult → Display
  | .ok r => r.frame.apply d
  | .error _ => d

namespace Session

/-- Whether the game's answer to a frame reports its end. -/
def endsGame : Except GuestError FrameResult → Bool
  | .ok (.grouped g) => isLiterallyTrue g.gameOver
  | .ok .empty | .ok (.commands _) | .error _ => false

/-- The work that the end of a game queues. -/
def reportOf (time score : Int) : List (Int × DeferredTask) :=
  [(time, .submitScore score), (time, .fetchLeaderboard)]

/-! ### The game's end -/

theorem gameOver_mem_groupedCommands (g : Grouped) :
    .gameOver ∈ FrameResult.groupedCommands g ↔ isLiterallyTrue g.gameOver = true := by
  have hsprites : Command.gameOver ∉ (FrameResult.itemsOf g.sprites).zipIdx.filterMap fun e =>
      FrameResult.spriteCommand? e.2 e.1 := by
    intro h
    obtain ⟨e, _, he⟩ := List.mem_filterMap.mp h
    obtain ⟨sprite, x, y, hcommand, _⟩ := FrameResult.spriteCommand?_eq_some he
    cases hcommand
  have htiles : Command.gameOver ∉
      (FrameResult.itemsOf g.tiles).filterMap FrameResult.tileCommand? := by
    intro h
    obtain ⟨e, _, he⟩ := List.mem_filterMap.mp h
    obtain ⟨x, y, tile, hcommand⟩ := FrameResult.eq_placeTile_of_tileCommand? he
    cases hcommand
  unfold FrameResult.groupedCommands isLiterallyTrue
  simp only [List.mem_append, hsprites, htiles, Option.mem_toList, Option.map_eq_some_iff,
    reduceCtorEq, and_false, exists_false, false_or]
  split <;> simp_all

theorem gameOver_mem_frame (answer : Except GuestError FrameResult) :
    .gameOver ∈ (Sandbox.resultOf answer).frame.commands ↔ endsGame answer = true := by
  cases answer with
  | error cause => exact iff_of_false List.not_mem_nil Bool.false_ne_true
  | ok r =>
    cases r with
    | empty => exact iff_of_false List.not_mem_nil Bool.false_ne_true
    | grouped g => exact gameOver_mem_groupedCommands g
    | commands list =>
      have hnever := (FrameResult.frame_commands_not_over list).2
      exact iff_of_false (fun h => hnever _ h rfl) Bool.false_ne_true

/-- A frame raises the game's end if its answer reports it and nothing was marked before. -/
theorem raises_frame (answer : Except GuestError FrameResult) (d : Display) :
    (Sandbox.resultOf answer).frame.raises d = (!d.gameOver && endsGame answer) := by
  rw [Bool.eq_iff_iff, Frame.raises_iff, Bool.and_eq_true, Bool.not_eq_true', gameOver_mem_frame]

theorem apply_frame (answer : Except GuestError FrameResult) (d : Display) :
    (Sandbox.resultOf answer).frame.apply d = d.after answer := by
  cases answer <;> rfl

/-- The mark of the game's end stays, and is made by an answer that reports the end. -/
theorem gameOver_after (d : Display) (answer : Except GuestError FrameResult) :
    (d.after answer).gameOver = (d.gameOver || endsGame answer) := by
  rw [← apply_frame, Bool.eq_iff_iff, Frame.gameOver_apply, Bool.or_eq_true, gameOver_mem_frame]

theorem grid_after (d : Display) (answer : Except GuestError FrameResult) :
    (d.after answer).grid = d.grid := by
  cases answer with
  | error cause => rfl
  | ok r => exact Frame.grid_apply r.frame d

/-! ### The session after the parts of a poll -/

/-- Deferred work touches only what is known of the leaderboard. -/
theorem runTasks_fst (s : Session) (tasks : List DeferredTask) :
    ∃ board submission,
      (s.runTasks tasks).1 = { s with board := board, submission := submission } := by
  induction tasks generalizing s with
  | nil => exact ⟨s.board, s.submission, rfl⟩
  | cons task tasks ih =>
    have htask : ∃ board submission,
        (s.runTask task).1 = { s with board := board, submission := submission } := by
      cases task with
      | submitScore score =>
        unfold runTask submitScore
        cases s.services.submit with
        | error cause => exact ⟨s.board, s.submission, rfl⟩
        | ok answer => exact ⟨s.board, some answer, rfl⟩
      | fetchLeaderboard =>
        unfold runTask fetchLeaderboard
        cases s.services.fetch with
        | error cause => exact ⟨s.board, s.submission, rfl⟩
        | ok entries => exact ⟨some entries, s.submission, rfl⟩
      | firstFrame => exact ⟨s.board, s.submission, rfl⟩
    obtain ⟨board, submission, htask⟩ := htask
    obtain ⟨board', submission', hrest⟩ := ih (s.runTask task).1
    refine ⟨board', submission', ?_⟩
    show ((s.runTask task).1.runTasks tasks).1 = _
    rw [hrest, htask]

theorem runDeferred_fst (s : Session) (now : Int) :
    ∃ board submission, (s.runDeferred now).1 =
      { s with deferred := s.deferred.rest now, board := board, submission := submission } :=
  runTasks_fst { s with deferred := s.deferred.rest now } (s.deferred.due now)

/-- An update puts the answer on the display, and queues the report if it ends the game. -/
theorem update_fst (s : Session) (now : Int) (delta : Nat) (answer : Except GuestError FrameResult)
    (hanswer : s.sandbox.answer (Duration.seconds delta) s.input.snapshot.1 = answer) :
    ∃ scheduler, (s.update now delta).1 =
      { s with
        input := s.input.snapshot.2
        sandbox := (s.sandbox.invoke (Duration.seconds delta) s.input.snapshot.1).2.1
        display := s.display.after answer
        scheduler := scheduler
        deferred :=
          ⟨s.deferred.pending ++
            if !s.display.gameOver && endsGame answer
            then reportOf now (s.display.after answer).score else []⟩ } := by
  have hresult := s.sandbox.invoke_result (Duration.seconds delta) s.input.snapshot.1
  rw [hanswer] at hresult
  have hraises := raises_frame answer s.display
  have happly := apply_frame answer s.display
  rw [← hresult] at hraises happly
  unfold update
  simp only [hraises, happly]
  split
  · exact ⟨_, by simp only [endGame, halted, timed, DeferredQueue.schedule, reportOf,
      List.append_assoc, List.cons_append, List.nil_append]; rfl⟩
  · exact ⟨_, by simp only [timed, List.append_nil]; rfl⟩

theorem runTick_of_none {s : Session} {now : Int} {begun : Scheduler}
    (h : s.scheduler.beginTick now = (none, begun)) : s.runTick now = quiet none s := by
  unfold runTick
  rw [h]

theorem runTick_of_some {s : Session} {now : Int} {tick : Tick} {begun : Scheduler}
    (h : s.scheduler.beginTick now = (some tick, begun)) :
    s.runTick now =
      let t : Session := { s with scheduler := begun }
      ⟨some tick, ((t.work now tick).1.finishTick now).1,
        .ticked :: (t.work now tick).2 ++ ((t.work now tick).1.finishTick now).2⟩ := by
  unfold runTick
  rw [h]

/-- A promise queues nothing but first frames. -/
theorem promiseFrame_eq (s : Session) (now : Int) :
    ∃ queued promised, (∀ e ∈ promised, e.2 = .firstFrame) ∧
      s.promiseFrame now =
        { s with firstFrameQueued := queued, deferred := ⟨s.deferred.pending ++ promised⟩ } := by
  unfold promiseFrame
  split
  · refine ⟨true, [(now + hookDelay, .firstFrame)], ?_, rfl⟩
    intro e he
    rw [List.mem_singleton.mp he]
  · refine ⟨s.firstFrameQueued, [], fun e he => absurd he List.not_mem_nil, ?_⟩
    rw [List.append_nil]

/-! ### The session after a poll -/

/-- What a poll leaves, by the update tick that it ran. What is known of the leaderboard, the
renderer and the timing go their own ways. -/
inductive PollLeaves (s : Session) (now : Int) : Option UpdateTick → Session → Prop
  /-- No tick is due. -/
  | idle {board submission} :
      PollLeaves s now none
        { s with deferred := s.deferred.rest now, board := board, submission := submission }
  /-- The tick that is due only renders. -/
  | drawn {board submission scheduler renderer} (hactive : s.scheduler.isActive = true) :
      PollLeaves s now none
        { s with
          deferred := s.deferred.rest now, board := board, submission := submission
          scheduler := scheduler, renderer := renderer }
  /-- The tick that is due calls the game. -/
  | updated {board submission scheduler renderer input firstFrameQueued}
      (tick : UpdateTick) (delta : Float) (snapshot : InputSnapshot)
      (promised : List (Int × DeferredTask)) (hactive : s.scheduler.isActive = true)
      (hscore : tick.score = (s.display.after tick.answer).score)
      (hpromised : ∀ e ∈ promised, e.2 = .firstFrame) :
      PollLeaves s now (some tick)
        { s with
          input := input
          sandbox := (s.sandbox.invoke delta snapshot).2.1
          display := s.display.after tick.answer
          deferred :=
            ⟨(s.deferred.rest now).pending
              ++ (if !s.display.gameOver && endsGame tick.answer
                then reportOf now tick.score else [])
              ++ promised⟩
          board := board, submission := submission, scheduler := scheduler
          renderer := renderer, firstFrameQueued := firstFrameQueued }

theorem isActive_of_beginTick {sch after : Scheduler} {now : Int} {tick : Tick}
    (h : sch.beginTick now = (some tick, after)) : sch.isActive = true := by
  have hdue : sch.isDue now = true := (sch.beginTick_isSome_iff now).mp (by rw [h]; rfl)
  unfold Scheduler.isDue at hdue
  exact ((Bool.and_eq_true _ _).mp hdue).1

theorem stop_stopped (sch : Scheduler) :
    sch.stop.2.state = .stopped ∧ sch.stop.2.nextTick = none := by
  unfold Scheduler.stop
  split
  · rename_i hstopped
    exact ⟨hstopped, rfl⟩
  · exact ⟨rfl, rfl⟩

theorem not_isActive_stop (sch : Scheduler) : ¬ sch.stop.2.isActive = true := by
  rw [Scheduler.isActive, (stop_stopped sch).1]
  exact Bool.false_ne_true

theorem poll_eq (s : Session) (now : Int) :
    s.poll now =
      let ticked := (s.runDeferred now).1.runTick now
      ⟨ticked.value, ticked.session, (s.runDeferred now).2 ++ ticked.effects⟩ := rfl

theorem poll_session (s : Session) (now : Int) :
    (s.poll now).session = ((s.runDeferred now).1.runTick now).session := by
  rw [poll_eq]

theorem pollLeaves_poll (s : Session) (now : Int) :
    PollLeaves s now (s.updateTick? now) (s.poll now).session := by
  obtain ⟨board, submission, hdeferred⟩ := s.runDeferred_fst now
  -- the session that the tick finds, with the deferred work done
  let t : Session :=
    { s with deferred := s.deferred.rest now, board := board, submission := submission }
  have hpoll : (s.poll now).session = (t.runTick now).session := by
    rw [poll_session, hdeferred]
  rcases htick : t.scheduler.beginTick now with ⟨_ | tick, begun⟩
  · have hleft : (s.poll now).session = t := by
      rw [hpoll, runTick_of_none htick]
      rfl
    have hnone : s.updateTick? now = none := by
      rw [updateTick?, htick]
    rw [hleft, hnone]
    exact .idle
  · have hactive := isActive_of_beginTick htick
    let u : Session := { t with scheduler := begun }
    have hwork : (s.poll now).session = ((u.work now tick).1.finishTick now).1 := by
      rw [hpoll, runTick_of_some htick]
    cases tick with
    | renderOnly =>
      have hnone : s.updateTick? now = none := by
        rw [updateTick?, htick]
      rw [hwork, hnone]
      exact .drawn hactive
    | update delta =>
      let answer := s.sandbox.answer (Duration.seconds delta) s.input.snapshot.1
      obtain ⟨scheduler, hupdate⟩ := u.update_fst now delta answer rfl
      obtain ⟨queued, promised, hpromised, hpromise⟩ :=
        (u.update now delta).1.render.1.promiseFrame_eq now
      have hleft : (s.poll now).session =
          (((u.update now delta).1.render.1.promiseFrame now).finishTick now).1 := hwork
      rw [hpromise, hupdate] at hleft
      have hscore : (s.poll now).session.display.score = (s.display.after answer).score := by
        rw [hleft]
        rfl
      have hsome : s.updateTick? now = some ⟨answer, (s.poll now).session.display.score⟩ := by
        rw [updateTick?, htick]
      rw [hsome, hscore, hleft]
      exact .updated ⟨answer, (s.display.after answer).score⟩ (Duration.seconds delta)
        s.input.snapshot.1 promised hactive rfl hpromised

end Session

end Handheld
