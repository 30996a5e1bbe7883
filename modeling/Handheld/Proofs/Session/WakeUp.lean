import Handheld.Proofs.Session.Freeze
import Handheld.Proofs.Session.Promises

/-!
# When a session is to be polled

Between two operations a session waits for the tick that is planned and for the work that is
queued. A poll before both changes nothing, and a poll at the time of either, or later, gets on: it
runs the tick, or some of the work. So a loop that sleeps until the earlier of the two never goes
round in vain, however long it oversleeps, and goes round only a few times for each tick. It finds
nothing to sleep until exactly when the game is stopped and the queue is empty.

* `Unplanned`, `rule_unplanned`: a stopped scheduler has no tick planned;
* `pending_poll`, `length_poll`: what a poll queues, and how much;
* `Awaits`, `awaits_iff`: what a session waits for, and until when;
* `RunsDue`, `GetsOn`: what a poll gets done;
* `poll_of_not_awaits`, `getsOn_iff`: polls before that time and after it;
* `Wakes`, `getsOn_of_wakes`, `length_le_of_wakes`: a loop that sleeps, for any readings of the
  clock;
* `PlaysAs`, `playOn_wakes`, `runUntil_wakes`: playing in real time is such a loop;
* `Timely`, `timely_run`: all of it, after any run.
-/

namespace Handheld

/-! ### What is planned and queued -/

/-- A stopped scheduler has no tick planned. -/
def Scheduler.Unplanned (sch : Scheduler) : Prop := sch.isActive = false → sch.nextTick = none

namespace Scheduler

variable {sch : Scheduler}

theorem unplanned_of_active (h : sch.isActive = true) : sch.Unplanned :=
  fun hidle => absurd (hidle.symm.trans h) Bool.false_ne_true

theorem unplanned_stop (sch : Scheduler) : sch.stop.2.Unplanned :=
  fun _ => (Session.stop_stopped sch).2

theorem Unplanned.start (h : sch.Unplanned) (now : Int) : (sch.start now).2.Unplanned := by
  unfold Scheduler.start
  split
  · exact unplanned_of_active rfl
  · exact h

theorem Unplanned.pause (h : sch.Unplanned) : sch.pause.2.Unplanned := by
  unfold Scheduler.pause
  split
  · exact unplanned_of_active rfl
  · exact h

theorem Unplanned.unpause (h : sch.Unplanned) : sch.unpause.2.Unplanned := by
  unfold Scheduler.unpause
  split
  · exact unplanned_of_active rfl
  · exact h

end Scheduler

namespace Session

variable {s t : Session} {now : Int}

theorem TickLeaves.unplanned {sch after : Scheduler} {tick : Option Tick}
    (h : TickLeaves sch now tick after) (hplan : sch.Unplanned) : after.Unplanned := by
  cases h with
  | idle => exact hplan
  | drawn _ hpaused =>
    exact Scheduler.unplanned_of_active (Scheduler.isActive_of_state (.inr hpaused))
  | updated _ hrunning =>
    exact Scheduler.unplanned_of_active (Scheduler.isActive_of_state (.inl hrunning))
  | ended => exact fun _ => rfl

theorem unplanned_load {c : Guest.Cartridge} {e : Event} (hends : LoadLeaves s c e t) :
    t.scheduler.Unplanned := by
  have hstopped := s.scheduler.unplanned_stop
  cases hends <;> exact hstopped

theorem rule_unplanned : Rule fun s _ t => s.scheduler.Unplanned → t.scheduler.Unplanned where
  aside _ _ _ _ _ _ _ _ h := h
  followed hst htu h := htu (hst h)
  acquire _ h := h
  withdraw _ _ h := h
  load s c _ := unplanned_load (s.loadLeaves_load c)
  startAt s now h := by
    unfold startAt
    split
    · exact h
    · exact h.start now
  stop s _ := s.scheduler.unplanned_stop
  pause _ h := h.pause
  unpause _ h := h.unpause
  reset _ h := h
  dispose s _ := s.scheduler.unplanned_stop
  poll s now h := (s.tickLeaves_poll now).unplanned h

/-! ### What a poll queues -/

theorem promisedAt?_of_updateTick? (s : Session) (now : Int) (h : s.updateTick? now = none) :
    s.promisedAt? (.poll now) = none := by
  have hat : s.updatedAt? (.poll now) = none := by
    rw [updateTick?_eq] at h
    rw [updatedAt?]
    cases hvalue : (s.poll now).value with
    | none => rfl
    | some tick =>
      rw [hvalue] at h
      cases tick with
      | update => cases h
      | renderOnly => rfl
  rw [promisedAt?, hat, ite_self]

/-- What a poll queues: the report of a game that ended, and a frame that is promised. -/
def queuedBy (s : Session) (now : Int) : List (Int × DeferredTask) :=
  ((s.updateTick? now).elim [] fun tick =>
      if !s.display.gameOver && endsGame tick.answer then reportOf now tick.score else [])
    ++ ((s.promisedAt? (.poll now)).map fun time => (time + (hookDelay : Int), .firstFrame)).toList

/-- A poll leaves what was not due, and queues something behind it. -/
theorem pending_poll (s : Session) (now : Int) :
    (s.poll now).session.deferred.pending = (s.deferred.rest now).pending ++ s.queuedBy now := by
  unfold queuedBy
  obtain ⟨-, -, hpromises⟩ := s.poll_hook now
  have hquiet := s.promisedAt?_of_updateTick? now
  have hleaves := s.pollLeaves_poll now
  generalize s.updateTick? now = update at hleaves hquiet ⊢
  generalize (s.poll now).session = t at hleaves hpromises ⊢
  cases hleaves with
  | idle | drawn =>
    rw [hquiet rfl]
    exact (List.append_nil _).symm
  | updated tick delta snapshot promised hactive hscore hpromised =>
    -- what else is queued are first frames, and those are known
    have hall : (promised.filter fun e => e.2 = .firstFrame) = promised :=
      List.filter_eq_self.mpr fun e he => decide_eq_true (hpromised e he)
    rw [DeferredQueue.promises_append, DeferredQueue.promises_append, promises_report,
      List.append_nil] at hpromises
    have hdues : DeferredQueue.promises ⟨promised⟩
        = ((s.promisedAt? (.poll now)).map (· + (hookDelay : Int))).toList := by
      refine List.append_cancel_left (hpromises.trans ?_)
      rw [← DeferredQueue.promises_rest]
    rw [DeferredQueue.promises, hall] at hdues
    have hqueued : promised = (promised.map Prod.fst).map fun time => (time, .firstFrame) := by
      rw [List.map_map]
      refine (List.map_id promised).symm.trans (List.map_congr_left fun e he => ?_)
      exact Prod.ext rfl (hpromised e he)
    rw [hqueued, hdues, ← Option.toList_map, Option.map_map, ← List.append_assoc]
    rfl

/-- Without a tick nothing is queued. -/
theorem queuedBy_of_none (h : (s.poll now).value = none) : s.queuedBy now = [] := by
  have hnone : s.updateTick? now = none := by rw [updateTick?_eq, h]
  rw [queuedBy, hnone, s.promisedAt?_of_updateTick? now hnone]
  rfl

/-- A tick queues three pieces of work at most. -/
theorem length_queuedBy (s : Session) (now : Int) : (s.queuedBy now).length ≤ 3 := by
  have hreport : ((s.updateTick? now).elim [] fun tick =>
      if !s.display.gameOver && endsGame tick.answer
      then reportOf now tick.score else []).length ≤ 2 := by
    cases s.updateTick? now with
    | none => exact Nat.zero_le 2
    | some tick =>
      show (ite _ _ _ : List (Int × DeferredTask)).length ≤ 2
      split
      · exact Nat.le_refl 2
      · exact Nat.zero_le 2
  have hpromised : (((s.promisedAt? (.poll now)).map fun time =>
      (time + (hookDelay : Int), DeferredTask.firstFrame)).toList).length ≤ 1 := by
    cases s.promisedAt? (.poll now) with
    | none => exact Nat.zero_le 1
    | some time => exact Nat.le_refl 1
  rw [queuedBy, List.length_append]
  omega

/-- A poll takes what is due, and queues three pieces of work at most, and none without a tick. -/
theorem length_poll (s : Session) (now : Int) :
    (s.poll now).session.deferred.pending.length + (s.deferred.due now).length
      ≤ s.deferred.pending.length + 3 * (s.poll now).value.isSome.toNat := by
  have hsplit := s.deferred.length_due_add_rest now
  rw [pending_poll, List.length_append]
  cases hvalue : (s.poll now).value with
  | none =>
    rw [queuedBy_of_none hvalue]
    show (s.deferred.rest now).pending.length + 0 + _ ≤ _ + 3 * 0
    omega
  | some tick =>
    have hqueued := s.length_queuedBy now
    show _ ≤ _ + 3 * 1
    omega

/-! ### What is waited for -/

/-- Whether the planned tick or some of the queued work is due by a time. -/
def Awaits (s : Session) (now : Int) : Prop :=
  (∃ tick, s.scheduler.nextTick = some tick ∧ tick ≤ now) ∨ ∃ e ∈ s.deferred.pending, e.1 ≤ now

/-- A poll does queued work, and all that is due. -/
structure RunsDue (s : Session) (now : Int) : Prop where
  due : ∃ e ∈ s.deferred.pending, e.1 ≤ now
  /-- What is due leaves the queue. What a tick queues comes behind what stays. -/
  taken : ∃ queued, (s.poll now).session.deferred.pending =
      s.deferred.pending.filter (fun e => now < e.1) ++ queued ∧
    ((s.poll now).value = none → queued = [])
  /-- It is acted out in the order of queueing, before anything else is. -/
  ran : ∃ later, (s.poll now).effects.filter Effect.isAct =
    (s.deferred.pending.filter fun e => e.1 ≤ now).flatMap (fun e => s.actsOf e.2) ++ later

/-- Whether a poll runs a tick, or some of the queued work. -/
def GetsOn (s : Session) (now : Int) : Prop :=
  (s.poll now).value.isSome = true ∨ s.RunsDue now

theorem runsDue_of_due (h : ∃ e ∈ s.deferred.pending, e.1 ≤ now) : s.RunsDue now := by
  obtain ⟨later, hacts, -⟩ := s.poll_acts now
  refine ⟨h, ⟨s.queuedBy now, s.pending_poll now, queuedBy_of_none⟩, later, ?_⟩
  rw [hacts, DeferredQueue.due, List.flatMap_map]

/-- Something is due exactly from the earlier of the two times on. -/
theorem awaits_iff (s : Session) (now : Int) :
    s.Awaits now ↔ ∃ due, s.nextDue? = some due ∧ due ≤ now := by
  rw [Awaits, ← DeferredQueue.nextDue?_le_iff, nextDue?]
  cases s.scheduler.nextTick with
  | none =>
    refine ⟨fun h => h.resolve_left ?_, Or.inr⟩
    rintro ⟨tick, htick, -⟩
    cases htick
  | some tick =>
    cases s.deferred.nextDue? with
    | none => simp
    | some task =>
      simp only [Option.some.injEq, exists_eq_left']
      omega

theorem nextDue?_eq_none_iff (s : Session) :
    s.nextDue? = none ↔ s.scheduler.nextTick = none ∧ s.hasPendingWork = false := by
  have hwork : s.deferred.nextDue? = none ↔ s.hasPendingWork = false := by
    rw [DeferredQueue.nextDue?, List.min?_eq_none_iff, List.map_eq_nil_iff, hasPendingWork,
      Bool.not_eq_false', DeferredQueue.isEmpty, List.isEmpty_iff]
  rw [← hwork, nextDue?]
  cases s.scheduler.nextTick <;> cases s.deferred.nextDue? <;> simp

/-- A poll before anything is due does nothing. -/
theorem poll_of_not_awaits (h : ¬ s.Awaits now) : s.poll now = ⟨none, s, []⟩ := by
  obtain ⟨htick, hwork⟩ := not_or.mp h
  have hlater : ∀ e ∈ s.deferred.pending, now < e.1 := fun e he =>
    Int.not_le.mp fun hle => hwork ⟨e, he, hle⟩
  refine poll_idle ((DeferredQueue.due_eq_nil_iff _ _).mpr hlater) ?_ ?_
  · unfold DeferredQueue.rest
    rw [List.filter_eq_self.mpr fun e he => decide_eq_true (hlater e he)]
  · unfold Scheduler.isDue
    cases hnext : s.scheduler.nextTick with
    | none => exact Bool.and_false _
    | some tick =>
      have hearly : ¬ tick ≤ now := fun hle => htick ⟨tick, hnext, hle⟩
      simp only [decide_eq_false hearly, Bool.and_false]

theorem isSome_poll_iff (s : Session) (now : Int) :
    (s.poll now).value.isSome = true ↔ s.scheduler.isDue now = true := by
  rw [value_poll]
  exact s.scheduler.beginTick_isSome_iff now

/-- A poll gets on exactly if something is due. -/
theorem getsOn_iff (hplan : s.scheduler.Unplanned) (now : Int) : s.GetsOn now ↔ s.Awaits now := by
  constructor
  · intro h
    by_contra hnot
    rcases h with htick | hwork
    · rw [poll_of_not_awaits hnot] at htick
      cases htick
    · exact hnot (.inr hwork.due)
  · rintro (⟨tick, htick, hle⟩ | hwork)
    · have hactive : s.scheduler.isActive = true := by
        by_contra hidle
        rw [hplan (Bool.eq_false_iff.mpr hidle)] at htick
        cases htick
      refine .inl ((s.isSome_poll_iff now).mpr ?_)
      rw [Scheduler.isDue_of_nextTick hactive htick]
      exact decide_eq_true hle
    · exact .inr (runsDue_of_due hwork)

theorem getsOn_of_nextDue? (hplan : s.scheduler.Unplanned)
    (hdue : ∃ due, s.nextDue? = some due ∧ due ≤ now) : s.GetsOn now :=
  (getsOn_iff hplan now).mpr ((awaits_iff s now).mpr hdue)

/-! ### A loop that sleeps -/

/-- Whether an operation ran a tick. -/
def Outcome.isTick : Outcome → Bool
  | .polled (some _) => true
  | _ => false

/-- A session polled at one time after the other. -/
def polls (s : Session) (clocks : List Int) : Reply (List Outcome) := s.run (clocks.map .poll)

/-- The ticks that were run among some polls. -/
def ticksAmong (s : Session) (clocks : List Int) : Nat :=
  (s.polls clocks).value.countP Outcome.isTick

/-- The readings of the clock in a loop that polls, and sleeps until the session is to be polled
next. It may wake up late, by as much as it likes. -/
def Wakes : Session → Int → List Int → Prop
  | _, _, [] => True
  | s, now, later :: clocks =>
    (∃ due, (s.poll now).session.nextDue? = some due ∧ due ≤ later) ∧
      Wakes (s.poll now).session later clocks

theorem session_polls_cons (s : Session) (now : Int) (clocks : List Int) :
    (s.polls (now :: clocks)).session = ((s.poll now).session.polls clocks).session := rfl

theorem effects_polls_cons (s : Session) (now : Int) (clocks : List Int) :
    (s.polls (now :: clocks)).effects
      = (s.poll now).effects ++ ((s.poll now).session.polls clocks).effects := rfl

theorem ticksAmong_cons (s : Session) (now : Int) (clocks : List Int) :
    s.ticksAmong (now :: clocks)
      = (s.poll now).value.isSome.toNat + (s.poll now).session.ticksAmong clocks := by
  have hvalue : (s.polls (now :: clocks)).value
      = .polled (s.poll now).value :: ((s.poll now).session.polls clocks).value := rfl
  rw [ticksAmong, hvalue, List.countP_cons, Nat.add_comm]
  cases (s.poll now).value <;> rfl

theorem unplanned_poll (h : s.scheduler.Unplanned) (now : Int) :
    (s.poll now).session.scheduler.Unplanned :=
  rule_unplanned.poll s now h

/-- Whenever such a loop wakes up, the poll gets on. -/
theorem getsOn_of_wakes (hplan : s.scheduler.Unplanned) {before after : List Int} {later : Int}
    (h : s.Wakes now (before ++ later :: after)) :
    (s.polls (now :: before)).session.GetsOn later := by
  induction before generalizing s now with
  | nil =>
    obtain ⟨hdue, -⟩ := h
    exact getsOn_of_nextDue? (unplanned_poll hplan now) hdue
  | cons next before ih =>
    obtain ⟨-, hlater⟩ := h
    rw [session_polls_cons]
    exact ih (unplanned_poll hplan now) hlater

/-- A poll that gets on takes some work off the queue, or runs a tick. -/
theorem length_poll_of_getsOn (h : s.GetsOn now) :
    (s.poll now).session.deferred.pending.length + 1
      ≤ s.deferred.pending.length + 4 * (s.poll now).value.isSome.toNat := by
  have hlength := s.length_poll now
  rcases h with htick | hwork
  · rw [htick] at hlength ⊢
    change _ ≤ _ + 3 * 1 at hlength
    show _ ≤ _ + 4 * 1
    omega
  · obtain ⟨e, he, hle⟩ := hwork.due
    have hpos : 0 < (s.deferred.due now).length := List.length_pos_iff.mpr fun hnil =>
      Int.not_lt.mpr hle ((DeferredQueue.due_eq_nil_iff _ _).mp hnil e he)
    omega

/-- Where the first poll gets on as well, each round does. -/
theorem length_lt_of_getsOn (hplan : s.scheduler.Unplanned) (hfirst : s.GetsOn now)
    {clocks : List Int} (h : s.Wakes now clocks) :
    clocks.length + 1 ≤ s.deferred.pending.length + 4 * s.ticksAmong (now :: clocks) := by
  induction clocks generalizing s now with
  | nil =>
    have hround := length_poll_of_getsOn hfirst
    rw [ticksAmong_cons]
    show 0 + 1 ≤ _
    omega
  | cons later clocks ih =>
    have hround := length_poll_of_getsOn hfirst
    have hplan' := unplanned_poll hplan now
    obtain ⟨hdue, hlater⟩ := h
    have hrest := ih hplan' (getsOn_of_nextDue? hplan' hdue) hlater
    rw [ticksAmong_cons, List.length_cons]
    omega

/-- A loop that sleeps goes round only a few times for each tick. -/
theorem length_le_of_wakes (hplan : s.scheduler.Unplanned) {clocks : List Int}
    (h : s.Wakes now clocks) :
    clocks.length ≤ s.deferred.pending.length + 4 * s.ticksAmong (now :: clocks) := by
  cases clocks with
  | nil => exact Nat.zero_le _
  | cons later clocks =>
    have hlength := s.length_poll now
    have hplan' := unplanned_poll hplan now
    obtain ⟨hdue, hlater⟩ := h
    have hrest := length_lt_of_getsOn hplan' (getsOn_of_nextDue? hplan' hdue) hlater
    rw [ticksAmong_cons, List.length_cons]
    omega

/-! ### Playing in real time -/

/-- Playing in real time did just what the polls of a loop do that sleeps. -/
structure PlaysAs (s : Session) (played : Played) (clocks : List Int) (reply : Reply Played) :
    Prop where
  wakes : s.Wakes played.clock clocks
  session : reply.session = (s.polls (played.clock :: clocks)).session
  effects : reply.effects = (s.polls (played.clock :: clocks)).effects
  ticks : reply.value.ticks = played.ticks + s.ticksAmong (played.clock :: clocks)

/-- The ticks after a poll. -/
def Played.after (played : Played) (s : Session) : Nat :=
  played.ticks + (s.poll played.clock).value.isSome.toNat

variable {played : Played}

theorem playOn_succ (goal fuel : Nat) (s : Session) (played : Played) :
    playOn goal (fuel + 1) s played =
      let polled := s.poll played.clock
      if polled.value.isSome && goal ≤ played.after s then
        ⟨{ played with ticks := played.after s }, polled.session, polled.effects⟩
      else
        match polled.session.nextDue? with
        | none => ⟨{ played with ticks := played.after s }, polled.session, polled.effects⟩
        | some due =>
          let rest := playOn goal fuel polled.session ⟨played.after s, max played.clock due⟩
          { rest with effects := polled.effects ++ rest.effects } := by
  have hticks : (if (s.poll played.clock).value.isSome then played.ticks + 1 else played.ticks)
      = played.after s := by
    rw [Played.after]
    cases (s.poll played.clock).value <;> rfl
  rw [← hticks]
  rfl

theorem playsAs_nil (s : Session) (played : Played) (clock : Int) :
    PlaysAs s played []
      ⟨⟨played.after s, clock⟩, (s.poll played.clock).session, (s.poll played.clock).effects⟩ where
  wakes := trivial
  session := rfl
  effects := (List.append_nil _).symm
  ticks := by
    rw [ticksAmong_cons]
    rfl

theorem PlaysAs.cons {clocks : List Int} {due : Int} {rest : Reply Played}
    (hdue : (s.poll played.clock).session.nextDue? = some due)
    (h : PlaysAs (s.poll played.clock).session ⟨played.after s, max played.clock due⟩ clocks rest) :
    PlaysAs s played (max played.clock due :: clocks)
      { rest with effects := (s.poll played.clock).effects ++ rest.effects } where
  wakes := ⟨⟨due, hdue, Int.le_max_right _ _⟩, h.wakes⟩
  session := by
    rw [session_polls_cons]
    exact h.session
  effects := by
    rw [effects_polls_cons, ← h.effects]
  ticks := by
    rw [ticksAmong_cons, ← Nat.add_assoc]
    exact h.ticks

/-- Either playing ends with a poll, as the goal is reached or there is nothing to sleep until, or
it sleeps and goes on. -/
theorem playOn_cases (goal fuel : Nat) (s : Session) (played : Played) :
    let polled := s.poll played.clock
    let reply := playOn goal (fuel + 1) s played
    (PlaysAs s played [] reply ∧
      ((0 < polled.value.isSome.toNat ∧ goal ≤ played.after s) ∨ polled.session.nextDue? = none)) ∨
    ∃ due, polled.session.nextDue? = some due ∧
      (polled.value.isSome.toNat = 0 ∨ played.after s < goal) ∧
      reply =
        let rest := playOn goal fuel polled.session ⟨played.after s, max played.clock due⟩
        { rest with effects := polled.effects ++ rest.effects } := by
  intro polled reply
  have hreply : reply = _ := playOn_succ goal fuel s played
  by_cases hgoal : (polled.value.isSome && decide (goal ≤ played.after s)) = true
  · rw [if_pos hgoal] at hreply
    obtain ⟨htick, hreached⟩ := (Bool.and_eq_true _ _).mp hgoal
    refine .inl ⟨hreply ▸ playsAs_nil s played played.clock, .inl ⟨?_, of_decide_eq_true hreached⟩⟩
    rw [htick]
    exact Nat.one_pos
  · rw [if_neg hgoal] at hreply
    cases hdue : polled.session.nextDue? with
    | none =>
      rw [hdue] at hreply
      exact .inl ⟨hreply ▸ playsAs_nil s played played.clock, .inr rfl⟩
    | some due =>
      rw [hdue] at hreply
      refine .inr ⟨due, rfl, ?_, hreply⟩
      cases htick : polled.value.isSome with
      | false => exact .inl rfl
      | true =>
        rw [htick, Bool.true_and, decide_eq_true_iff, Nat.not_le] at hgoal
        exact .inr hgoal

/-- Playing in real time ends when the goal is reached, when there is nothing to sleep until, or
when the polls run out that it was allowed. -/
theorem playOn_wakes (goal fuel : Nat) (s : Session) (played : Played) :
    ∃ clocks, PlaysAs s played clocks (playOn goal (fuel + 1) s played) ∧
      let ticks := s.ticksAmong (played.clock :: clocks)
      ((0 < ticks ∧ goal ≤ played.ticks + ticks) ∨
        (s.polls (played.clock :: clocks)).session.nextDue? = none ∨
        (clocks.length = fuel ∧ (ticks = 0 ∨ played.ticks + ticks < goal))) := by
  have hone : ∀ (s : Session) (now : Int),
      s.ticksAmong [now] = (s.poll now).value.isSome.toNat := fun s now => s.ticksAmong_cons now []
  induction fuel generalizing s played with
  | zero =>
    rcases playOn_cases goal 0 s played with
      ⟨hplays, hreached | hidle⟩ | ⟨due, hdue, hearly, hreply⟩
    · exact ⟨[], hplays, .inl (by rw [hone]; exact hreached)⟩
    · exact ⟨[], hplays, .inr (.inl hidle)⟩
    · refine ⟨[], ?_, .inr (.inr ⟨rfl, by rw [hone]; exact hearly⟩)⟩
      rw [hreply]
      simp only [playOn, quiet, List.append_nil]
      exact playsAs_nil s played _
  | succ fuel ih =>
    rcases playOn_cases goal (fuel + 1) s played with
      ⟨hplays, hreached | hidle⟩ | ⟨due, hdue, hearly, hreply⟩
    · exact ⟨[], hplays, .inl (by rw [hone]; exact hreached)⟩
    · exact ⟨[], hplays, .inr (.inl hidle)⟩
    · obtain ⟨clocks, hplays, hends⟩ :=
        ih (s.poll played.clock).session ⟨played.after s, max played.clock due⟩
      refine ⟨max played.clock due :: clocks, hreply ▸ hplays.cons hdue, ?_⟩
      rw [ticksAmong_cons, session_polls_cons]
      have hafter : played.after s = played.ticks + (s.poll played.clock).value.isSome.toNat := rfl
      rcases hends with ⟨hsome, hreached⟩ | hidle | ⟨hlength, hshort⟩
      · refine .inl ⟨Nat.add_pos_right _ hsome, ?_⟩
        rw [← Nat.add_assoc]
        exact hreached
      · exact .inr (.inl hidle)
      · refine .inr (.inr ⟨congrArg (· + 1) hlength, ?_⟩)
        simp only at hshort
        omega

/-- The polls that it is allowed are enough: playing in real time ends only when the goal is
reached, or when there is nothing to sleep until. -/
theorem runUntil_wakes (hplan : s.scheduler.Unplanned) (clock : Int) (goal : Nat) :
    ∃ clocks, PlaysAs s ⟨0, clock⟩ clocks (s.runUntil clock goal) ∧
      ((0 < (s.runUntil clock goal).value.ticks ∧ goal ≤ (s.runUntil clock goal).value.ticks) ∨
        (s.runUntil clock goal).session.nextDue? = none) := by
  obtain ⟨clocks, hplays, hends⟩ := playOn_wakes goal
    (4 * (goal + 1) + s.deferred.pending.length + 1) s ⟨0, clock⟩
  have hlength := length_le_of_wakes hplan hplays.wakes
  have hticks := hplays.ticks
  rw [Nat.zero_add] at hticks
  refine ⟨clocks, hplays, ?_⟩
  rcases hends with hreached | hidle | ⟨hrounds, hshort⟩
  · rw [Nat.zero_add] at hreached
    exact .inl (hticks ▸ hreached)
  · exact .inr (hplays.session ▸ hidle)
  · simp only [Nat.zero_add] at hshort hlength
    omega

/-! ### Every run -/

/-- When a session is to be polled, between two operations. -/
structure Timely (s : Session) : Prop where
  /-- A tick is planned unless the game is stopped. -/
  planned : s.scheduler.nextTick.isSome = true ↔ s.scheduler.state ≠ .stopped
  /-- Before anything is due, a poll does nothing. -/
  early : ∀ now, (∀ tick, s.scheduler.nextTick = some tick → now < tick) →
    (∀ task, s.deferred.nextDue? = some task → now < task) → s.poll now = ⟨none, s, []⟩
  /-- From the earlier of the two times on, a poll gets on. -/
  late : ∀ now due, s.nextDue? = some due → due ≤ now → s.GetsOn now
  /-- There is nothing to sleep until exactly when the game is stopped and no work is left. -/
  finished : s.nextDue? = none ↔ s.scheduler.state = .stopped ∧ s.hasPendingWork = false

theorem nextTick_eq_none_iff (hpending : s.scheduler.Pending) (hplan : s.scheduler.Unplanned) :
    s.scheduler.nextTick = none ↔ s.scheduler.state = .stopped := by
  constructor
  · intro hnone
    by_contra hstate
    obtain ⟨due, hdue⟩ := hpending (decide_eq_true hstate)
    rw [hnone] at hdue
    cases hdue
  · exact fun hstopped => hplan (decide_eq_false (not_not_intro hstopped))

theorem timely_of_pending (hpending : s.scheduler.Pending) (hplan : s.scheduler.Unplanned) :
    s.Timely where
  planned := by
    rw [ne_eq, ← nextTick_eq_none_iff hpending hplan, Option.isSome_iff_ne_none]
  early now htick htask := by
    refine poll_of_not_awaits ?_
    rintro (⟨tick, hnext, hle⟩ | hwork)
    · exact Int.not_le.mpr (htick tick hnext) hle
    · obtain ⟨task, hnext, hle⟩ := (DeferredQueue.nextDue?_le_iff s.deferred now).mpr hwork
      exact Int.not_le.mpr (htask task hnext) hle
  late _ due hdue hle := getsOn_of_nextDue? hplan ⟨due, hdue, hle⟩
  finished := by rw [nextDue?_eq_none_iff, nextTick_eq_none_iff hpending hplan]

/-- After any run a session knows when it is to be polled. So a loop that polls, and sleeps until
then, gets on whenever it wakes up, however late, and goes round a few times at most for each tick.
Playing in real time is such a loop, and ends only if the goal is reached, or if the game is stopped
and no work is left. -/
theorem timely_run (settings : Settings) (period : Nat) (renderer : Renderer) (services : Services)
    (ops : List Operation) :
    let s := ((newWith settings (.new period) renderer services).run ops).session
    s.Timely ∧
      (∀ now clocks, s.Wakes now clocks →
        (∀ before later after, clocks = before ++ later :: after →
          (s.polls (now :: before)).session.GetsOn later) ∧
        clocks.length ≤ s.deferred.pending.length + 4 * s.ticksAmong (now :: clocks)) ∧
      ∀ clock goal,
        let reply := s.runUntil clock goal
        (∃ clocks, PlaysAs s ⟨0, clock⟩ clocks reply) ∧
          ((0 < reply.value.ticks ∧ goal ≤ reply.value.ticks) ∨
            (reply.session.scheduler.state = .stopped ∧ reply.session.hasPendingWork = false)) := by
  intro s
  have hpending : s.scheduler.Pending :=
    rule_pending.run (s := newWith settings (.new period) renderer services) nofun ops
  have hplan : s.scheduler.Unplanned :=
    rule_unplanned.run (s := newWith settings (.new period) renderer services) (fun _ => rfl) ops
  refine ⟨timely_of_pending hpending hplan, fun now clocks hwakes => ⟨?_, ?_⟩, fun clock goal => ?_⟩
  · rintro before later after rfl
    exact getsOn_of_wakes hplan hwakes
  · exact length_le_of_wakes hplan hwakes
  · intro reply
    obtain ⟨clocks, hplays, hends⟩ := runUntil_wakes hplan clock goal
    refine ⟨⟨clocks, hplays⟩, hends.imp_right fun hidle => ?_⟩
    -- what it leaves is left by a run as well, and so knows when it is to be polled
    have hrun : reply.session = (s.run ((clock :: clocks).map .poll)).session := hplays.session
    have htimely : reply.session.Timely := by
      rw [hrun]
      exact timely_of_pending (rule_pending.run hpending _) (rule_unplanned.run hplan _)
    exact htimely.finished.mp hidle

end Session

end Handheld
