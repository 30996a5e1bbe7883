import Handheld.Proofs.Session.PauseMark

/-!
# Who paused the game

A game is paused by its player, or by opening the leaderboard while it runs. Closing the
leaderboard is meant to resume only what opening it paused. Which of the two it was is remembered
as one mark, which opening the leaderboard sets. Closing it, resuming, loading and disposing take
the mark away. A stop does not. So once a game is stopped that the leaderboard paused, and started
again, a pause of the player counts as one of the leaderboard, and closing the leaderboard or
failing to open it ends that pause.

A pause of the leaderboard is always resumed. A pause of the player is left in force, throughout a
run, exactly if no pause of the player finds the mark still set.

* `pauses`, `pauserAfter`, `pauser`: who made the pause in force, read off a run;
* `ClosesTo`, `closesTo`: the state in which closing the leaderboard leaves a paused scheduler;
* `PauseStep`, `pauseStep`: what an operation can do to a pause and to the mark;
* `Attributed`, `attributed_run`: there is a pauser while the scheduler is paused, and the mark is
  set while it is the leaderboard;
* `pauser_run`: when closing the leaderboard leaves the pauses of the player alone;
* `resumed_restarted`: a pause of the player that it does not leave alone.
-/

namespace Handheld.Session

/-! ### Pausers -/

/-- Who made a pause. -/
inductive Pauser
  | player
  | leaderboard
  deriving Repr, DecidableEq

/-- Who pauses a game that runs, if the operation pauses it. -/
def pauses (s : Session) : Operation → Option Pauser
  | .pause => if s.pause.value then some .player else none
  | .openLeaderboard => if s.scheduler.state = .running then some .leaderboard else none
  | _ => none

/-- Who made the pause in force after an operation, given who made the one before it. -/
def pauserAfter (s : Session) (before : Option Pauser) (op : Operation) : Option Pauser :=
  if (s.step op).session.scheduler.isPaused then (s.pauses op).or before else none

/-- Who made the pause in force after a run. -/
def pauser (before : Option Pauser) (s : Session) : List Operation → Option Pauser
  | [] => before
  | op :: ops => pauser (s.pauserAfter before op) (s.step op).session ops

variable {s t : Session}

theorem pauser_append (before : Option Pauser) (s : Session) (xs ys : List Operation) :
    pauser before s (xs ++ ys) = pauser (pauser before s xs) (s.run xs).session ys := by
  induction xs generalizing before s with
  | nil => rfl
  | cons x xs ih => exact ih (s.pauserAfter before x) (s.step x).session

theorem pause_of_running (h : s.scheduler.state = .running) :
    s.pause.value = true ∧ s.pause.session.scheduler.isPaused = true := by
  have hpause : s.scheduler.pause = (true, { s.scheduler with state := .paused }) := by
    rw [Scheduler.pause, h]
  have hvalue : s.pause.value = s.scheduler.pause.1 := rfl
  have hscheduler : s.pause.session.scheduler = s.scheduler.pause.2 := rfl
  rw [hvalue, hscheduler, hpause]
  exact ⟨rfl, rfl⟩

theorem pause_of_not_running (h : s.scheduler.state ≠ .running) :
    s.pause.value = false ∧ s.pause.session.scheduler = s.scheduler := by
  have hpause : s.scheduler.pause = (false, s.scheduler) := by
    rw [Scheduler.pause]
    split
    · exact absurd ‹_› h
    · rfl
  have hvalue : s.pause.value = s.scheduler.pause.1 := rfl
  have hscheduler : s.pause.session.scheduler = s.scheduler.pause.2 := rfl
  rw [hvalue, hscheduler, hpause]
  exact ⟨rfl, rfl⟩

theorem state_of_isPaused (h : s.scheduler.isPaused = true) : s.scheduler.state = .paused :=
  of_decide_eq_true h

/-- Nobody pauses a game that is paused. -/
theorem pauses_of_isPaused (h : s.scheduler.isPaused = true) (op : Operation) :
    s.pauses op = none := by
  have hnot : s.scheduler.state ≠ .running := by
    rw [state_of_isPaused h]
    exact nofun
  cases op with
  | pause => rw [pauses, (pause_of_not_running hnot).1, if_neg Bool.false_ne_true]
  | openLeaderboard => rw [pauses, if_neg hnot]
  | _ => rfl

/-! ### Closing the leaderboard -/

/-- Resuming leaves nothing paused, and what was paused runs. -/
theorem isPaused_unpause (s : Session) : s.unpause.session.scheduler.isPaused = false := by
  show s.scheduler.unpause.2.isPaused = false
  unfold Scheduler.unpause
  split
  · rfl
  · rename_i hnot
    exact Scheduler.isPaused_of_ne hnot

theorem closeLeaderboard_session (s : Session) :
    s.closeLeaderboard.session
      = if s.pausedForOverlay then s.uncovered.unpause.session else s.uncovered := by
  unfold closeLeaderboard
  cases s.pausedForOverlay <;> rfl

/-- In which state closing the leaderboard leaves the scheduler, and so does opening it if the
leaderboard cannot be fetched. -/
structure ClosesTo (s : Session) (state : SchedulerState) : Prop where
  close : s.closeLeaderboard.session.scheduler.state = state
  refused : ∀ services cause, services.fetch = .error cause →
    ({ s with services := services } : Session).openLeaderboard.session.scheduler.state = state

theorem pausedFor_of_not_running (h : s.scheduler.state ≠ .running) : s.pausedFor = (s, []) := by
  unfold pausedFor
  split
  · exact absurd ‹_› h
  · rfl

theorem openLeaderboard_of_error {told : List Effect} {cause : ServiceError}
    (hpaused : s.pausedFor = (t, told)) (hfetch : t.services.fetch = .error cause) :
    s.openLeaderboard.session = t.closeLeaderboard.session := by
  unfold openLeaderboard
  rw [hpaused]
  simp only [hfetch]

theorem openLeaderboard_of_ok {told : List Effect} {entries : List LeaderboardEntry}
    (hpaused : s.pausedFor = (t, told)) (hfetch : t.services.fetch = .ok entries) :
    s.openLeaderboard.session = { t with overlay := some entries, board := some entries } := by
  unfold openLeaderboard
  rw [hpaused]
  simp only [hfetch]

theorem state_closeLeaderboard (h : s.scheduler.isPaused = true) :
    s.closeLeaderboard.session.scheduler.state
      = if s.pausedForOverlay then .running else .paused := by
  rw [closeLeaderboard_session]
  cases s.pausedForOverlay with
  | false => exact state_of_isPaused h
  | true =>
    show s.scheduler.unpause.2.state = .running
    rw [Scheduler.unpause, state_of_isPaused h]

/-- The mark alone decides what becomes of a pause. -/
theorem closesTo (h : s.scheduler.isPaused = true) :
    ClosesTo s (if s.pausedForOverlay then .running else .paused) where
  close := state_closeLeaderboard h
  refused := by
    intro services cause hfetch
    have hnot : s.scheduler.state ≠ .running := by
      rw [state_of_isPaused h]
      exact nofun
    rw [openLeaderboard_of_error (pausedFor_of_not_running (s := { s with services := services })
      hnot) hfetch]
    exact state_closeLeaderboard (s := { s with services := services }) h

/-! ### Single operations -/

/-- What an operation can do to a pause and to the mark that says whose it is. -/
inductive PauseStep (s : Session) : Operation → Session → Prop
  /-- Nothing is paused after it. -/
  | playing {op : Operation} {t : Session} (hplaying : t.scheduler.isPaused = false) : PauseStep s op t
  /-- What was paused still is. -/
  | kept {op : Operation} {t : Session} (hbefore : s.scheduler.isPaused = true)
      (hafter : t.scheduler.isPaused = true)
      (hmark : t.pausedForOverlay = s.pausedForOverlay) : PauseStep s op t
  /-- The player pauses a game that runs. -/
  | paused {t : Session} (hrunning : s.scheduler.state = .running) (hafter : t.scheduler.isPaused = true)
      (hmark : t.pausedForOverlay = s.pausedForOverlay) : PauseStep s .pause t
  /-- The leaderboard is opened over a game that runs. -/
  | opened {t : Session} (hrunning : s.scheduler.state = .running) (hafter : t.scheduler.isPaused = true)
      (hmark : t.pausedForOverlay = true) : PauseStep s .openLeaderboard t

theorem PauseStep.same {op : Operation} (hpaused : t.scheduler.isPaused = s.scheduler.isPaused)
    (hmark : t.pausedForOverlay = s.pausedForOverlay) : PauseStep s op t := by
  cases hbefore : s.scheduler.isPaused with
  | false => exact .playing (hpaused.trans hbefore)
  | true => exact .kept hbefore (hpaused.trans hbefore) hmark

/-- A load ends stopped, whatever it comes to. -/
theorem isPaused_load (s : Session) (c : Guest.Cartridge) :
    (s.load c).session.scheduler.isPaused = false := by
  have hstop := s.scheduler.isPaused_stop
  have hleaves := s.loadLeaves_load c
  generalize s.loadEvent c = e at hleaves
  generalize (s.load c).session = t at hleaves ⊢
  cases hleaves <;> exact hstop

theorem isPaused_startAt (s : Session) (now : Int) :
    (s.startAt now).session.scheduler.isPaused = s.scheduler.isPaused := by
  unfold startAt
  split
  · rfl
  · exact s.scheduler.isPaused_start now

theorem pauseStep_pause (s : Session) : PauseStep s .pause s.pause.session := by
  by_cases hrunning : s.scheduler.state = .running
  · exact .paused hrunning (pause_of_running hrunning).2 rfl
  · exact .same (congrArg Scheduler.isPaused (pause_of_not_running hrunning).2) rfl

theorem pauseStep_closeLeaderboard (s : Session) (op : Operation) :
    PauseStep s op s.closeLeaderboard.session := by
  rw [closeLeaderboard_session]
  cases hmark : s.pausedForOverlay with
  | false => exact .same rfl hmark.symm
  | true => exact .playing s.uncovered.isPaused_unpause

theorem pauseStep_openLeaderboard (s : Session) :
    PauseStep s .openLeaderboard s.openLeaderboard.session := by
  by_cases hrunning : s.scheduler.state = .running
  · let t : Session := { s.pause.session with pausedForOverlay := true }
    have hpaused : s.pausedFor = (t, s.pause.effects) := by
      unfold pausedFor
      rw [hrunning]
    cases hfetch : t.services.fetch with
    | ok entries =>
      rw [openLeaderboard_of_ok hpaused hfetch]
      exact .opened hrunning (pause_of_running hrunning).2 rfl
    | error cause =>
      -- the mark was just set, so the game is resumed at once
      rw [openLeaderboard_of_error hpaused hfetch, closeLeaderboard_session]
      exact .playing t.uncovered.isPaused_unpause
  · have hpaused := pausedFor_of_not_running hrunning
    cases hfetch : s.services.fetch with
    | ok entries =>
      rw [openLeaderboard_of_ok hpaused hfetch]
      exact .same rfl rfl
    | error cause =>
      rw [openLeaderboard_of_error hpaused hfetch]
      exact s.pauseStep_closeLeaderboard .openLeaderboard

theorem pausedForOverlay_poll (s : Session) (now : Int) :
    (s.poll now).session.pausedForOverlay = s.pausedForOverlay := by
  have hleaves := s.pollLeaves_poll now
  generalize s.updateTick? now = tick at hleaves
  generalize (s.poll now).session = t at hleaves ⊢
  cases hleaves <;> rfl

theorem pauseStep (s : Session) (op : Operation) : PauseStep s op (s.step op).session := by
  cases op with
  | load c => exact .playing (s.isPaused_load c)
  | loadBundled name =>
    show PauseStep s _ (s.loadBundled name).session
    unfold loadBundled
    split
    · exact .playing (s.isPaused_load _)
    · exact .same rfl rfl
  | create description =>
    show PauseStep s _ (s.create description).session
    unfold create
    split
    · exact .same rfl rfl
    · exact .playing (s.isPaused_load _)
  | restart clock =>
    show PauseStep s _ (s.restart clock).session
    unfold restart
    split
    · exact .same rfl rfl
    · rename_i c _
      simp only
      split
      · exact .playing (s.isPaused_load c)
      · exact .playing (((s.load c).session.isPaused_startAt clock).trans (s.isPaused_load c))
  | startAt now =>
    refine .same (s.isPaused_startAt now) ?_
    show (s.startAt now).session.pausedForOverlay = s.pausedForOverlay
    unfold startAt
    split <;> rfl
  | stop => exact .playing s.scheduler.isPaused_stop
  | pause => exact s.pauseStep_pause
  | unpause => exact .playing s.isPaused_unpause
  | poll now => exact .same (s.isPaused_poll now) (s.pausedForOverlay_poll now)
  | openLeaderboard => exact s.pauseStep_openLeaderboard
  | closeLeaderboard => exact s.pauseStep_closeLeaderboard .closeLeaderboard
  | dispose => exact .playing s.scheduler.isPaused_stop
  | keyDown code =>
    show PauseStep s _ (s.keyDown code).2
    unfold keyDown
    split <;> exact .same rfl rfl
  | keyUp code =>
    show PauseStep s _ (s.keyUp code).2
    unfold keyUp
    split <;> exact .same rfl rfl
  | acquire | reset | press | release | setHook | arrange | withdraw => exact .same rfl rfl

/-! ### Runs -/

/-- There is a pauser while the scheduler is paused, and a pause of the leaderboard is marked. -/
structure Attributed (s : Session) (who : Option Pauser) : Prop where
  force : who.isSome = s.scheduler.isPaused
  leaderboard : who = some .leaderboard → s.pausedForOverlay = true

theorem attributed_step {before : Option Pauser} (h : Attributed s before) (op : Operation) :
    Attributed (s.step op).session (s.pauserAfter before op) := by
  have hstep := s.pauseStep op
  unfold pauserAfter
  generalize (s.step op).session = t at hstep ⊢
  cases hstep with
  | playing hplaying =>
    rw [hplaying, if_neg Bool.false_ne_true]
    exact ⟨hplaying.symm, nofun⟩
  | kept hbefore hafter hmark =>
    rw [if_pos hafter, pauses_of_isPaused hbefore, Option.none_or]
    refine ⟨h.force.trans (hbefore.trans hafter.symm), fun hboard => ?_⟩
    rw [hmark]
    exact h.leaderboard hboard
  | paused hrunning hafter =>
    rw [if_pos hafter, pauses, (pause_of_running hrunning).1]
    exact ⟨hafter.symm, nofun⟩
  | opened hrunning hafter hmark =>
    rw [if_pos hafter, pauses, if_pos hrunning]
    exact ⟨hafter.symm, fun _ => hmark⟩

theorem attributed_run {before : Option Pauser} (h : Attributed s before) (ops : List Operation) :
    Attributed (s.run ops).session (pauser before s ops) := by
  induction ops generalizing s before with
  | nil => exact h
  | cons op ops ih => exact ih (attributed_step h op)

/-- A pause of the player is not marked, if none of them ever finds a mark. -/
theorem unmarked_run {before : Option Pauser}
    (h : before = some .player → s.pausedForOverlay = false) (ops : List Operation)
    (hpauses : ∀ earlier later, ops = earlier ++ .pause :: later →
      (s.run earlier).session.scheduler.state = .running →
      (s.run earlier).session.pausedForOverlay = false) :
    pauser before s ops = some .player → (s.run ops).session.pausedForOverlay = false := by
  induction ops generalizing s before with
  | nil => exact h
  | cons op ops ih =>
    refine ih (fun hplayer => ?_) fun earlier later hops =>
      hpauses (op :: earlier) later (congrArg (op :: ·) hops)
    have hstep := s.pauseStep op
    unfold pauserAfter at hplayer
    generalize (s.step op).session = t at hstep hplayer ⊢
    cases hstep with
    | playing hplaying =>
      rw [hplaying, if_neg Bool.false_ne_true] at hplayer
      cases hplayer
    | kept hbefore hafter hmark =>
      rw [if_pos hafter, pauses_of_isPaused hbefore, Option.none_or] at hplayer
      rw [hmark]
      exact h hplayer
    | paused hrunning hafter hmark =>
      rw [hmark]
      exact hpauses [] ops rfl hrunning
    | opened hrunning hafter hmark =>
      rw [if_pos hafter, pauses, if_pos hrunning] at hplayer
      cases hplayer

/-- While the scheduler is paused somebody paused it. A pause of the leaderboard is resumed when
the leaderboard is closed or cannot be opened again. A pause of the player is left in force then,
throughout a run, exactly if no pause of a running game finds the mark of the leaderboard. -/
theorem pauser_run (settings : Settings) (period : Nat) (renderer : Renderer)
    (services : Services) (ops : List Operation) :
    let s := newWith settings (.new period) renderer services
    (pauser none s ops).isSome = (s.run ops).session.scheduler.isPaused ∧
      (pauser none s ops = some .leaderboard → ClosesTo (s.run ops).session .running) ∧
      ((∀ before after, ops = before ++ after → pauser none s before = some .player →
          ClosesTo (s.run before).session .paused) ↔
        ∀ before after, ops = before ++ .pause :: after →
          (s.run before).session.scheduler.state = .running →
          (s.run before).session.pausedForOverlay = false) := by
  intro s
  have hrun : ∀ ops, Attributed (s.run ops).session (pauser none s ops) :=
    attributed_run ⟨rfl, nofun⟩
  have hforce : ∀ {ops p}, pauser none s ops = some p →
      (s.run ops).session.scheduler.isPaused = true := by
    intro ops p hsome
    rw [← (hrun ops).force, hsome]
    rfl
  refine ⟨(hrun ops).force, ?_, ?_, ?_⟩
  · intro hboard
    have hcloses := closesTo (hforce hboard)
    rw [(hrun ops).leaderboard hboard] at hcloses
    exact hcloses
  · intro hplayer before after hops hrunning
    -- right after the pause the mark is what it was, and closing would have to leave the pause
    have hsplit : ops = (before ++ [.pause]) ++ after := by
      rw [hops, List.append_assoc]
      rfl
    obtain ⟨hvalue, hpaused⟩ := pause_of_running hrunning
    have hwho : pauser none s (before ++ [.pause]) = some .player := by
      rw [pauser_append]
      show (if (s.run before).session.pause.session.scheduler.isPaused = true then
        ((s.run before).session.pauses .pause).or (pauser none s before) else none) = _
      rw [if_pos hpaused, pauses, hvalue]
      rfl
    have hleft := (hplayer _ _ hsplit hwho).close
    rw [run_append] at hleft
    have hdecided := state_closeLeaderboard (s := (s.run before).session.pause.session) hpaused
    have hmark : (if (s.run before).session.pausedForOverlay then SchedulerState.running
        else .paused) = .paused := hdecided.symm.trans hleft
    cases hflag : (s.run before).session.pausedForOverlay with
    | false => rfl
    | true =>
      rw [hflag] at hmark
      cases hmark
  · intro hpauses before after hops hplayer
    have hcloses := closesTo (hforce hplayer)
    have hnobody : none = some Pauser.player → s.pausedForOverlay = false := nofun
    have hunmarked : (s.run before).session.pausedForOverlay = false := by
      refine unmarked_run hnobody before (fun earlier later hbefore => ?_) hplayer
      refine hpauses earlier (later ++ after) ?_
      rw [hops, hbefore, List.append_assoc]
      rfl
    rw [hunmarked] at hcloses
    exact hcloses

/-- A game that is stopped while the leaderboard pauses it, started again and paused by the player
is resumed when the leaderboard is closed. -/
theorem resumed_restarted :
    let ops := [.acquire, .load blankCartridge, .startAt 0, .openLeaderboard, .stop, .startAt 1,
      .pause]
    let s := newWith {} (.new standardPeriod) .blind .offline
    pauser none s ops = some .player ∧
      (s.run ops).session.scheduler.state = .paused ∧
      (s.run ops).session.closeLeaderboard.session.scheduler.state = .running :=
  ⟨rfl, rfl, rfl⟩

end Handheld.Session
