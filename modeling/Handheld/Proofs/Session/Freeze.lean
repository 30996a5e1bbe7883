import Handheld.Proofs.Session.PauseMark
import Handheld.Proofs.Session.Snapshots

/-!
# A paused game is frozen

A pause stops the game and keeps the ticks. While it lasts each tick only renders, and the game,
the display, the input of the last call and the count of frames wait as they are. After it the game
goes on as if no time had passed: the next update carries no time, and what it sees as just pressed
is told by the last call before the pause.

* `Pending`, `rule_pending`: unless the scheduler is stopped, it has a tick planned;
* `Unclocked`, `unclocked_run`: after a pause no time is carried as long as no update runs;
* `TickLeaves.of_paused`, `TickLeaves.of_running`: which tick runs, and when the next one does;
* `Frozen`, `Waits`: what a pause leaves, and what waits in it;
* `waits_step`, `waits_run`: polls and buttons only let it wait;
* `freeze_run`: a pause after any run, for any length of time.
-/

namespace Handheld

/-! ### What is planned, and what was counted -/

namespace Scheduler

variable {sch : Scheduler} {due : Int}

/-- Unless the scheduler is stopped, a tick is planned. -/
def Pending (sch : Scheduler) : Prop := sch.isActive = true → ∃ due, sch.nextTick = some due

/-- The next update will carry no time. -/
def Unclocked (sch : Scheduler) : Prop := sch.lastUpdate = none

theorem isActive_of_state (h : sch.state = .running ∨ sch.state = .paused) :
    sch.isActive = true := by
  rw [isActive]
  rcases h with h | h <;> rw [h] <;> rfl

theorem isDue_of_nextTick (hactive : sch.isActive = true) (hdue : sch.nextTick = some due)
    (now : Int) : sch.isDue now = decide (due ≤ now) := by
  rw [isDue, hactive, hdue, Bool.true_and]

theorem pending_stop (sch : Scheduler) : sch.stop.2.Pending :=
  fun hactive => absurd hactive (Session.not_isActive_stop sch)

theorem Pending.start (h : sch.Pending) (now : Int) : (sch.start now).2.Pending := by
  unfold Scheduler.start
  split
  · exact fun _ => ⟨now, rfl⟩
  · exact h

theorem Pending.pause (h : sch.Pending) : sch.pause.2.Pending := by
  intro hactive
  obtain ⟨due, hdue⟩ := h ((Session.isActive_pause sch).symm.trans hactive)
  unfold Scheduler.pause
  split <;> exact ⟨due, hdue⟩

theorem Pending.unpause (h : sch.Pending) : sch.unpause.2.Pending := by
  intro hactive
  obtain ⟨due, hdue⟩ := h ((Session.isActive_unpause sch).symm.trans hactive)
  unfold Scheduler.unpause
  split <;> exact ⟨due, hdue⟩

theorem Unclocked.start (h : sch.Unclocked) (now : Int) : (sch.start now).2.Unclocked := by
  unfold Scheduler.start
  split <;> exact h

theorem Unclocked.stop (h : sch.Unclocked) : sch.stop.2.Unclocked := by
  unfold Scheduler.stop
  split <;> exact h

theorem Unclocked.pause (h : sch.Unclocked) : sch.pause.2.Unclocked := by
  unfold Scheduler.pause
  split <;> exact h

theorem Unclocked.unpause (h : sch.Unclocked) : sch.unpause.2.Unclocked := by
  unfold Scheduler.unpause
  split
  · rfl
  · exact h

theorem Unclocked.delta (h : sch.Unclocked) (now : Int) : sch.delta now = 0 := by
  rw [Scheduler.delta, h]

end Scheduler

namespace Session

variable {s t : Session} {now due : Int}

namespace TickLeaves

variable {sch after : Scheduler} {tick : Option Tick}

theorem pending (h : TickLeaves sch now tick after) (hpending : sch.Pending) : after.Pending := by
  cases h with
  | idle => exact hpending
  | drawn | updated => exact fun _ => ⟨_, rfl⟩
  | ended => exact fun hactive => absurd hactive Bool.false_ne_true

theorem unclocked (h : TickLeaves sch now tick after) (htick : ∀ delta, tick ≠ some (.update delta))
    (hclock : sch.Unclocked) : after.Unclocked := by
  cases h with
  | idle | drawn => exact hclock
  | updated | ended => exact absurd rfl (htick _)

/-- While the next update carries no time, no update carries any. -/
theorem eq_zero {delta : Nat} (h : TickLeaves sch now (some (.update delta)) after)
    (hclock : sch.Unclocked) : delta = 0 := by
  cases h with
  | updated | ended => exact hclock.delta now

/-- A tick of a paused game renders when it is due, and the next one is planned. -/
theorem of_paused (h : TickLeaves sch now tick after) (hpaused : sch.state = .paused)
    (hdue : sch.nextTick = some due) :
    tick = (if due ≤ now then some .renderOnly else none) ∧
      ∃ inFlight ticks timings, after =
        { sch with
          nextTick := some (if due ≤ now then now + sch.period else due)
          inFlight := inFlight, ticks := ticks, timings := timings } := by
  have hactive := Scheduler.isActive_of_state (Or.inr hpaused)
  have hisDue := Scheduler.isDue_of_nextTick hactive hdue now
  cases h with
  | idle hnot =>
    have hearly : ¬ due ≤ now := of_decide_eq_false (hisDue.symm.trans hnot)
    rw [if_neg hearly, if_neg hearly, ← hdue]
    exact ⟨rfl, _, _, _, rfl⟩
  | drawn hyes =>
    have hlate : due ≤ now := of_decide_eq_true (hisDue.symm.trans hyes)
    rw [if_pos hlate, if_pos hlate]
    exact ⟨rfl, _, _, _, rfl⟩
  | updated _ hrunning | ended _ hrunning =>
    rw [hpaused] at hrunning
    cases hrunning

/-- A tick of a running game updates when it is due. -/
theorem of_running (h : TickLeaves sch now tick after) (hrunning : sch.state = .running)
    (hdue : sch.nextTick = some due) :
    tick = if due ≤ now then some (.update (sch.delta now)) else none := by
  have hactive := Scheduler.isActive_of_state (Or.inl hrunning)
  have hisDue := Scheduler.isDue_of_nextTick hactive hdue now
  cases h with
  | idle hnot => rw [if_neg (of_decide_eq_false (hisDue.symm.trans hnot))]
  | updated hyes | ended hyes => rw [if_pos (of_decide_eq_true (hisDue.symm.trans hyes))]
  | drawn _ hpaused =>
    rw [hrunning] at hpaused
    cases hpaused

end TickLeaves

theorem pending_load {c : Guest.Cartridge} {e : Event} (hends : LoadLeaves s c e t) :
    t.scheduler.Pending := by
  have hstopped := s.scheduler.pending_stop
  cases hends <;> exact hstopped

theorem rule_pending : Rule fun s _ t => s.scheduler.Pending → t.scheduler.Pending where
  aside _ _ _ _ _ _ _ _ h := h
  followed hst htu h := htu (hst h)
  acquire _ h := h
  withdraw _ _ h := h
  load s c _ := pending_load (s.loadLeaves_load c)
  startAt s now h := by
    unfold startAt
    split
    · exact h
    · exact h.start now
  stop s _ := s.scheduler.pending_stop
  pause _ h := h.pause
  unpause _ h := h.unpause
  reset _ h := h
  dispose s _ := s.scheduler.pending_stop
  poll s now h := (s.tickLeaves_poll now).pending h

/-! ### Runs without a call -/

/-- Whether an operation called the game. -/
def Event.calls : Event → Bool
  | .polled _ (some _) => true
  | .polled _ none | .began | .disposed | .passed => false

theorem unclocked_load {c : Guest.Cartridge} {e : Event} (hends : LoadLeaves s c e t)
    (h : s.scheduler.Unclocked) : t.scheduler.Unclocked := by
  have hstopped := h.stop
  cases hends with
  | loaded | restored => rfl
  | refused | lost => exact hstopped

theorem rule_unclocked :
    Rule fun s e t => e.calls = false → s.scheduler.Unclocked → t.scheduler.Unclocked where
  aside _ _ _ _ _ _ _ _ _ h := h
  followed hst htu he h := htu rfl (hst he h)
  acquire _ _ h := h
  withdraw _ _ _ h := h
  load s c _ h := unclocked_load (s.loadLeaves_load c) h
  startAt s now _ h := by
    unfold startAt
    split
    · exact h
    · exact h.start now
  stop _ _ h := h.stop
  pause _ _ h := h.pause
  unpause _ _ h := h.unpause
  reset _ _ _ := rfl
  dispose _ _ h := h.stop
  poll s now he h := by
    refine (s.tickLeaves_poll now).unclocked (fun delta htick => ?_) h
    rw [updateTick?_eq, htick] at he
    cases he

theorem loadEvent_calls (s : Session) (c : Guest.Cartridge) : (s.loadEvent c).calls = false := by
  unfold loadEvent
  split <;> rfl

theorem offerEvent_calls (s : Session) (c : Option Guest.Cartridge) :
    (s.offerEvent c).calls = false := by
  cases c with
  | none => rfl
  | some c => exact s.loadEvent_calls c

/-- What an operation means says whether it called the game. -/
theorem event_calls (s : Session) (op : Operation)
    (h : (s.step op).effects.filterMap Effect.call? = []) : (s.event op).calls = false := by
  cases op with
  | poll now =>
    have hcalls : (s.poll now).effects.filterMap Effect.call? = [] := h
    rw [calls_poll] at hcalls
    show Event.calls (.polled now (s.updateTick? now)) = false
    rw [updateTick?_eq]
    generalize (s.poll now).value = tick at hcalls ⊢
    rcases tick with _ | (delta | _)
    · rfl
    · cases hcalls
    · rfl
  | load c => exact s.loadEvent_calls c
  | loadBundled | create | restart => exact s.offerEvent_calls _
  | _ => rfl

theorem unclocked_run (h : s.scheduler.Unclocked) {ops : List Operation}
    (hcalls : (s.run ops).effects.filterMap Effect.call? = []) :
    (s.run ops).session.scheduler.Unclocked := by
  induction ops generalizing s with
  | nil => exact h
  | cons op ops ih =>
    rw [calls_cons, List.append_eq_nil_iff] at hcalls
    exact ih (rule_unclocked.step s op (s.event_calls op hcalls.1) h) hcalls.2

/-! ### Waiting -/

/-- What a pause and the time after it leave as it was: everything that the game is, and all that
is on the display apart from the pause mark, which says what the scheduler says. -/
structure Frozen (s t : Session) : Prop where
  sandbox : t.sandbox = s.sandbox
  display : t.display = s.display.setPaused t.scheduler.isPaused
  /-- The input of the last call. -/
  previous : t.input.previous = s.input.previous
  frames : t.scheduler.frames = s.scheduler.frames
  hook : t.hookSet = s.hookSet
  promised : t.firstFrameQueued = s.firstFrameQueued

/-- A session that was paused and waits. -/
structure Waits (s t : Session) : Prop extends Frozen s t where
  paused : t.scheduler.state = .paused
  planned : ∃ due, t.scheduler.nextTick = some due

/-- Polls and buttons. -/
def Operation.isWaiting : Operation → Bool
  | .poll _ | .press _ | .release _ | .keyDown _ | .keyUp _ => true
  | _ => false

theorem Waits.feed (h : Waits s t) (input : InputState)
    (hprevious : input.previous = t.input.previous) : Waits s { t with input := input } :=
  { h with previous := hprevious.trans h.previous }

theorem Waits.poll (h : Waits s t) (now : Int) : Waits s (t.poll now).session := by
  obtain ⟨due, hdue⟩ := h.planned
  obtain ⟨hvalue, inFlight, ticks, timings, hscheduler⟩ :=
    (t.tickLeaves_poll now).of_paused h.paused hdue
  have hnone : t.updateTick? now = none := by
    rw [updateTick?_eq, hvalue]
    by_cases hlate : due ≤ now
    · rw [if_pos hlate]
    · rw [if_neg hlate]
  have hleaves := t.pollLeaves_poll now
  rw [hnone] at hleaves
  generalize (t.poll now).session = u at hleaves hscheduler ⊢
  have hpaused : u.scheduler.isPaused = t.scheduler.isPaused := by
    rw [hscheduler]
    rfl
  have hfrozen : Frozen s u := by
    cases hleaves with
    | idle | drawn =>
      refine ⟨h.sandbox, ?_, h.previous, ?_, h.hook, h.promised⟩
      · rw [hpaused]
        exact h.display
      · rw [hscheduler]
        exact h.frames
  refine ⟨hfrozen, ?_, ?_⟩
  · rw [hscheduler]
    exact h.paused
  · rw [hscheduler]
    exact ⟨_, rfl⟩

theorem calls_poll_of_paused (h : Waits s t) (now : Int) :
    (t.poll now).effects.filterMap Effect.call? = [] ∧
      ∀ tick, (t.poll now).value = some tick → tick = .renderOnly := by
  obtain ⟨due, hdue⟩ := h.planned
  obtain ⟨hvalue, -⟩ := (t.tickLeaves_poll now).of_paused h.paused hdue
  rw [calls_poll, hvalue]
  by_cases hlate : due ≤ now
  · rw [if_pos hlate]
    exact ⟨rfl, fun tick htick => (Option.some.inj htick).symm⟩
  · rw [if_neg hlate]
    exact ⟨rfl, nofun⟩

/-- Polls and buttons do not call the game while it is paused, and let it wait on. -/
theorem waits_step (h : Waits s t) {op : Operation} (hop : op.isWaiting = true) :
    Waits s (t.step op).session ∧ (t.step op).effects.filterMap Effect.call? = [] ∧
      ∀ tick, (t.step op).value = .polled (some tick) → tick = .renderOnly := by
  cases op with
  | poll now =>
    obtain ⟨hcalls, hvalue⟩ := calls_poll_of_paused h now
    exact ⟨h.poll now, hcalls, fun tick htick => hvalue tick (Outcome.polled.inj htick)⟩
  | press | release => exact ⟨h.feed _ rfl, rfl, nofun⟩
  | keyDown code =>
    refine ⟨?_, rfl, nofun⟩
    show Waits s (t.keyDown code).2
    unfold keyDown
    split
    · exact h.feed _ rfl
    · exact h
  | keyUp code =>
    refine ⟨?_, rfl, nofun⟩
    show Waits s (t.keyUp code).2
    unfold keyUp
    split
    · exact h.feed _ rfl
    · exact h
  | _ => cases hop

theorem waits_run (h : Waits s t) {ops : List Operation}
    (hops : ∀ op ∈ ops, op.isWaiting = true) :
    Waits s (t.run ops).session ∧ (t.run ops).effects.filterMap Effect.call? = [] ∧
      ∀ tick, .polled (some tick) ∈ (t.run ops).value → tick = .renderOnly := by
  induction ops generalizing t with
  | nil => exact ⟨h, rfl, fun tick htick => absurd htick List.not_mem_nil⟩
  | cons op ops ih =>
    obtain ⟨hstep, hcalls, hvalue⟩ := waits_step h (hops op List.mem_cons_self)
    obtain ⟨hlater, hnone, hticks⟩ := ih hstep fun e he => hops e (List.mem_cons_of_mem op he)
    refine ⟨hlater, ?_, fun tick htick => ?_⟩
    · rw [calls_cons, hcalls, hnone]
      rfl
    · rcases List.mem_cons.mp htick with hfirst | hrest
      · exact hvalue tick hfirst.symm
      · exact hticks tick hrest

/-! ### Pauses -/

/-- A running game that is paused waits. -/
theorem waits_pause (hrunning : s.scheduler.state = .running) (hpending : s.scheduler.Pending) :
    s.pause.value = true ∧ Waits s s.pause.session := by
  have hpause : s.scheduler.pause = (true, { s.scheduler with state := .paused }) := by
    rw [Scheduler.pause, hrunning]
  obtain ⟨due, hdue⟩ := hpending (Scheduler.isActive_of_state (Or.inl hrunning))
  have hreply : s.pause = ⟨true, { s with scheduler := { s.scheduler with state := .paused } }.marked,
      Effect.tell [.paused]⟩ := by
    rw [pause, hpause]
    rfl
  rw [hreply]
  exact ⟨rfl, ⟨rfl, rfl, rfl, rfl, rfl, rfl⟩, rfl, due, hdue⟩

/-- A game that waits goes on as it was, with the same tick planned. -/
theorem Waits.unpause (h : Waits s t) :
    t.unpause.value = true ∧ Frozen s t.unpause.session ∧
      t.unpause.session.scheduler.state = .running ∧ t.unpause.session.scheduler.Unclocked ∧
      t.unpause.session.scheduler.nextTick = t.scheduler.nextTick := by
  have hunpause : t.uncovered.scheduler.unpause
      = (true, { t.scheduler with state := .running, lastUpdate := none }) := by
    show t.scheduler.unpause = _
    rw [Scheduler.unpause, h.paused]
  have hreply : t.unpause =
      ⟨true,
        { t.uncovered with
          scheduler := { t.scheduler with state := .running, lastUpdate := none } }.marked,
        Effect.tell [.unpaused]⟩ := by
    rw [Session.unpause, hunpause]
    rfl
  rw [hreply]
  refine ⟨rfl, ⟨h.sandbox, ?_, h.previous, h.frames, h.hook, h.promised⟩, rfl, rfl, rfl⟩
  show t.display.setPaused false = s.display.setPaused false
  rw [h.display]
  rfl

theorem run_pause (s : Session) (before stretch later : List Operation) :
    (s.run (before ++ .pause :: (stretch ++ .unpause :: later))).session =
      (((s.run before).session.pause.session.run stretch).session.unpause.session.run
        later).session := by
  rw [run_append]
  show ((s.run before).session.pause.session.run (stretch ++ .unpause :: later)).session = _
  rw [run_append]
  rfl

theorem calls_pause (s : Session) (before stretch later : List Operation) :
    let paused := (s.run before).session.pause.session.run stretch
    (s.run (before ++ .pause :: (stretch ++ .unpause :: later))).effects.filterMap Effect.call? =
      (s.run before).effects.filterMap Effect.call?
        ++ (paused.effects.filterMap Effect.call?
          ++ (paused.session.unpause.session.run later).effects.filterMap Effect.call?) := by
  have hpause : ∀ t : Session, (t.step .pause).effects.filterMap Effect.call? = [] := fun t =>
    Effect.calls_of_isControl (t.control_step nofun)
  have hunpause : ∀ t : Session, (t.step .unpause).effects.filterMap Effect.call? = [] := fun t =>
    Effect.calls_of_isControl (t.control_step nofun)
  rw [calls_append, calls_cons, hpause, List.nil_append, calls_append, calls_cons, hunpause,
    List.nil_append]
  rfl

/-- A pause after any run, polls and buttons while it lasts, and its end. The game is not called,
each tick renders, and everything waits as it was. Then the first update, whenever it runs, carries
no time, and shows as just pressed the buttons that are held and were not in the last call before
the pause. -/
theorem freeze_run (settings : Settings) (period : Nat) (renderer : Renderer) (services : Services)
    (before stretch : List Operation)
    (hrunning : ((newWith settings (.new period) renderer services).run
      before).session.scheduler.state = .running)
    (hstretch : ∀ op ∈ stretch, op.isWaiting = true) :
    let s := newWith settings (.new period) renderer services
    let running := (s.run before).session
    let paused := (running.pause.session.run stretch).session
    let resumed := paused.unpause.session
    (running.pause.value = true ∧ Frozen running paused ∧ paused.scheduler.isPaused = true) ∧
      ((running.pause.session.run stretch).effects.filterMap Effect.call? = [] ∧
        ∀ tick, .polled (some tick) ∈ (running.pause.session.run stretch).value →
          tick = .renderOnly) ∧
      (paused.unpause.value = true ∧ Frozen running resumed ∧
        resumed.scheduler.isPaused = false) ∧
      (∃ due : Int, ∀ now,
        (paused.poll now).value = (if due ≤ now then some .renderOnly else none) ∧
        (paused.poll now).session.scheduler.nextTick
          = some (if due ≤ now then now + period else due) ∧
        (resumed.poll now).value = if due ≤ now then some (.update 0) else none) ∧
      ∀ later now delta,
        let ops := before ++ .pause :: (stretch ++ .unpause :: later)
        let calls := (s.run before).effects.filterMap Effect.call?
        (s.run ops).effects.filterMap Effect.call? = calls →
          ((s.run ops).session.poll now).value = some (.update delta) →
          delta = 0 ∧ ∃ snapshot, Seen settings.limits s ops now calls (0, snapshot) := by
  intro s running paused resumed
  have hnew : s.scheduler.Pending := nofun
  have hpending : running.scheduler.Pending := rule_pending.run hnew before
  obtain ⟨hpause, hwaits⟩ := waits_pause hrunning hpending
  obtain ⟨hwaited, hcalls, hticks⟩ := waits_run hwaits hstretch
  obtain ⟨hunpause, hfrozen, hagain, hclock, hnext⟩ := hwaited.unpause
  obtain ⟨due, hdue⟩ := hwaited.planned
  have hperiod : paused.scheduler.period = period := by
    have hsteady := steady_run settings period renderer services (before ++ .pause :: stretch)
    rw [run_append] at hsteady
    exact hsteady.period
  refine ⟨⟨hpause, hwaited.toFrozen, ?_⟩, ⟨hcalls, hticks⟩, ⟨hunpause, hfrozen, ?_⟩,
    ⟨due, fun now => ⟨?_, ?_, ?_⟩⟩, ?_⟩
  · exact decide_eq_true hwaited.paused
  · exact decide_eq_false (by rw [hagain]; exact nofun)
  · exact ((paused.tickLeaves_poll now).of_paused hwaited.paused hdue).1
  · obtain ⟨-, inFlight, ticks, timings, hscheduler⟩ :=
      (paused.tickLeaves_poll now).of_paused hwaited.paused hdue
    rw [hscheduler, hperiod]
  · have hvalue := (resumed.tickLeaves_poll now).of_running hagain (hnext.trans hdue)
    rw [hclock.delta] at hvalue
    exact hvalue
  · intro later now delta ops calls hnone htick
    have hquiet : (resumed.run later).effects.filterMap Effect.call? = [] := by
      rw [calls_pause, hcalls, List.nil_append] at hnone
      exact List.append_right_eq_self.mp hnone
    have hlater := unclocked_run hclock hquiet
    rw [← run_pause] at hlater
    have hseen := seen_poll settings period renderer services ops htick
    rw [hnone] at hseen
    have hleaves := (s.run ops).session.tickLeaves_poll now
    rw [htick] at hleaves
    obtain rfl := hleaves.eq_zero hlater
    exact ⟨rfl, _, hseen⟩

/-- A game that runs, with a button that is held in its only update. -/
def blankRun : List Operation :=
  [.acquire, .load blankCartridge, .startAt 0, .press .a, .poll 0]

/-- Two ticks, and another button between them. -/
def blankPause : List Operation := [.poll 20000000, .release .a, .press .b, .poll 40000000]

/-- The update after the pause is called with the button that was pressed in it. -/
theorem freeze_run_blank :
    let s := newWith {} (.new standardPeriod) .blind .offline
    let running := (s.run blankRun).session
    let first : Nat × InputSnapshot := (0, ⟨.insert .empty .a, .insert .empty .a⟩)
    running.scheduler.state = .running ∧ (∀ op ∈ blankPause, op.isWaiting = true) ∧
      (s.run blankRun).effects.filterMap Effect.call? = [first] ∧
      (running.pause.session.run blankPause).effects.filterMap Effect.call? = [] ∧
      ∃ snapshot, Seen {} s (blankRun ++ .pause :: (blankPause ++ [.unpause])) 60000000 [first]
        (0, snapshot) := by
  intro s running first
  have hrunning : running.scheduler.state = .running := rfl
  have hpause : ∀ op ∈ blankPause, op.isWaiting = true := by decide
  have hcalls : (s.run blankRun).effects.filterMap Effect.call? = [first] := by decide +kernel
  obtain ⟨-, ⟨hquiet, -⟩, -, -, hfirst⟩ :=
    freeze_run {} standardPeriod .blind .offline blankRun blankPause hrunning hpause
  have hseen := (hfirst [] 60000000 0 (by decide +kernel) (by decide +kernel)).2
  rw [hcalls] at hseen
  exact ⟨hrunning, hpause, hcalls, hquiet, hseen⟩

end Session

end Handheld
