import Handheld.Proofs.Scheduler.Measurement
import Handheld.Proofs.Session.Swap

/-!
# What play depends on

Not all that a session holds has a say in play, that is, in which ticks run, what the game is
called with, and what is drawn. The frames that were drawn before, the hook, the work that was
deferred, what is known of the leaderboard and the number of all ticks have none. The session with
all of these put back to nothing is its core. A session and its core go on in lockstep, to those
who watch play alone.

The deferred work is done and seen by others, but what it finds out goes nowhere but into what is
known of the leaderboard. The core has no deferred work to do, and does not miss it.

* `Effect.isPlay`: the effects of play;
* `core`: a session without what has no say in play;
* `step_uncounted`: the scheduler without its count serves every request alike;
* `runTick_core`, `poll_congr`: ticks and polls of sessions with the same core;
* `lockstep_core`: sessions with the same core go on in lockstep.
-/

namespace Handheld

/-- Whether an effect belongs to play: a tick, a call of the game, a frame that is drawn, and a
game that is asked for. -/
def Effect.isPlay : Effect → Bool
  | .ticked | .invoked _ _ | .rendered _ | .generated _ _ => true
  | .told _ _ | .fetched | .submitted _ | .hooked _ => false

theorem Effect.filter_isPlay_filter (es : List Effect) :
    (es.filter isAct).filter isPlay = es.filter isPlay := by
  rw [List.filter_filter]
  refine List.filter_congr fun e _ => ?_
  cases e <;> rfl

/-- The scheduler without the number of all ticks. -/
def Scheduler.uncounted (s : Scheduler) : Scheduler := { s with ticks := 0 }

/-- Without the count a request is served alike, and the count begins anew. -/
theorem Scheduler.step_uncounted (s : Scheduler) (r : Scheduler.Request) :
    s.uncounted.step r
      = ((s.step r).1, { (s.step r).2 with ticks := (s.step r).1.begun }) := by
  have htimings : (s.step r).2.timings = r.timed s.inFlight s.timings :=
    congrArg (fun answered => answered.2.timings) (s.step_rebooked s.timings s.ticks (.same r))
  refine (s.step_rebooked s.timings 0 (.same r)).trans ?_
  rw [← htimings, Nat.zero_add]
  rfl

namespace Session

/-- The session without what has no say in play. -/
def core (s : Session) : Session :=
  { s with
    scheduler := s.scheduler.uncounted, renderer := .blind, deferred := {}, hookSet := false
    firstFrameQueued := false, board := none, submission := none }

variable {s t : Session}

theorem core_core (s : Session) : s.core.core = s.core := rfl

/-- What an operation does to the core decides what it does to sessions with the same core. -/
theorem core_congr {f : Session → Session} (hf : ∀ s, (f s.core).core = (f s).core)
    (h : t.core = s.core) : (f t).core = (f s).core := by
  rw [← hf t, h, hf]

/-! ### Ticks -/

theorem halted_core (s : Session) : s.core.halted = s.halted.core := by
  have hstop : s.scheduler.uncounted.stop.2 = s.scheduler.stop.2.uncounted :=
    congrArg Prod.snd (s.scheduler.step_uncounted .stop)
  show { s.core with scheduler := s.scheduler.uncounted.stop.2 } = _
  rw [hstop]
  rfl

theorem endGame_core (s : Session) (now : Int) :
    (s.core.endGame now).1.core = (s.endGame now).1.core := by
  show s.core.halted.core = s.halted.core
  rw [halted_core, core_core]

theorem update_core (s : Session) (now : Int) (delta : Nat) :
    (s.core.update now delta).1.core = (s.update now delta).1.core := by
  have hsandbox : s.core.sandbox = s.sandbox := rfl
  have hinput : s.core.input = s.input := rfl
  have hdisplay : s.core.display = s.display := rfl
  unfold update
  rw [hsandbox, hinput, hdisplay]
  simp only
  split
  · exact core_congr (f := fun u => (u.endGame now).1) (fun u => u.endGame_core now) rfl
  · rfl

theorem promiseFrame_core (s : Session) (now : Int) : (s.promiseFrame now).core = s.core := by
  unfold promiseFrame
  split <;> rfl

theorem work_core (s : Session) (now : Int) (tick : Tick) :
    (s.core.work now tick).1.core = (s.work now tick).1.core := by
  cases tick with
  | renderOnly => rfl
  | update delta =>
    show ((s.core.update now delta).1.render.1.promiseFrame now).core
      = ((s.update now delta).1.render.1.promiseFrame now).core
    rw [promiseFrame_core, promiseFrame_core]
    exact core_congr (f := fun u => u.render.1) (fun _ => rfl) (s.update_core now delta)

theorem finishTick_core (s : Session) (now : Int) :
    (s.core.finishTick now).1.core = (s.finishTick now).1.core := by
  have hend : s.scheduler.uncounted.endTick now = (s.scheduler.endTick now).uncounted :=
    congrArg Prod.snd (s.scheduler.step_uncounted (.endTick now))
  show { s.core with scheduler := (s.scheduler.uncounted.endTick now).uncounted } = _
  rw [hend]
  rfl

/-- What a tick is observed as depends on the core alone. -/
theorem work_acts_core (s : Session) (now : Int) (tick : Tick) :
    (s.core.work now tick).2.filter Effect.isAct = (s.work now tick).2.filter Effect.isAct := by
  cases tick with
  | renderOnly =>
    show s.core.render.2.filter Effect.isAct = s.render.2.filter Effect.isAct
    rw [render_acts, render_acts]
    rfl
  | update delta =>
    have hscene : (s.core.update now delta).1.scene = (s.update now delta).1.scene := by
      show (s.core.update now delta).1.core.scene = (s.update now delta).1.core.scene
      rw [update_core]
    show ((s.core.update now delta).2 ++ (s.core.update now delta).1.render.2).filter Effect.isAct
      = ((s.update now delta).2 ++ (s.update now delta).1.render.2).filter Effect.isAct
    rw [List.filter_append, List.filter_append, update_acts, update_acts, render_acts,
      render_acts, hscene]
    rfl

theorem runTick_core (s : Session) (now : Int) :
    Together (fun u v => v.core = u.core) Effect.isAct (s.runTick now) (s.core.runTick now) := by
  have hbegin := s.scheduler.step_uncounted (.beginTick now)
  have htick : (s.scheduler.uncounted.beginTick now).1 = (s.scheduler.beginTick now).1 :=
    Scheduler.Answer.tick.inj (congrArg Prod.fst hbegin)
  have hbegun : (s.scheduler.uncounted.beginTick now).2.uncounted
      = (s.scheduler.beginTick now).2.uncounted :=
    congrArg (fun answered => answered.2.uncounted) hbegin
  rcases hwas : s.scheduler.beginTick now with ⟨tick, begun⟩
  rcases his : s.core.scheduler.beginTick now with ⟨tick', begun'⟩
  rw [hwas, show s.scheduler.uncounted.beginTick now = _ from his] at htick hbegun
  obtain rfl : tick = tick' := htick.symm
  cases tick with
  | none =>
    rw [runTick_of_none hwas, runTick_of_none his]
    exact ⟨⟨rfl, rfl⟩, rfl⟩
  | some tick =>
    rw [runTick_of_some hwas, runTick_of_some his]
    let u : Session := { s with scheduler := begun }
    let v : Session := { s.core with scheduler := begun' }
    have hcore : v.core = u.core := congrArg (fun b => { s.core with scheduler := b }) hbegun
    have hacts : (v.work now tick).2.filter Effect.isAct
        = (u.work now tick).2.filter Effect.isAct := by
      rw [← work_acts_core v, hcore, work_acts_core]
    have hworked : (v.work now tick).1.core = (u.work now tick).1.core :=
      core_congr (f := fun w => (w.work now tick).1) (fun w => w.work_core now tick) hcore
    have hfinished : ((v.work now tick).1.finishTick now).1.core
        = ((u.work now tick).1.finishTick now).1.core :=
      core_congr (f := fun w => (w.finishTick now).1) (fun w => w.finishTick_core now) hworked
    refine ⟨⟨rfl, hfinished⟩, ?_⟩
    show (.ticked :: (v.work now tick).2 ++ _).filter Effect.isAct
      = (.ticked :: (u.work now tick).2 ++ _).filter Effect.isAct
    rw [tick_acts, tick_acts, hacts]

/-- Ticks of sessions with the same core. -/
theorem runTick_congr (h : t.core = s.core) (now : Int) :
    Together (fun u v => v.core = u.core) Effect.isAct (s.runTick now) (t.runTick now) := by
  have hs := s.runTick_core now
  have ht := t.runTick_core now
  rw [h] at ht
  exact ⟨⟨ht.value.symm.trans hs.value, ht.session.symm.trans hs.session⟩,
    ht.acts.symm.trans hs.acts⟩

/-! ### Polls -/

/-- Deferred work is no play. -/
theorem filter_isPlay_runDeferred (s : Session) (now : Int) :
    (s.runDeferred now).2.filter Effect.isPlay = [] := by
  rw [← Effect.filter_isPlay_filter, runDeferred, runTasks_acts, List.filter_eq_nil_iff]
  intro e he
  obtain ⟨task, _, he⟩ := List.mem_flatMap.mp he
  cases task with
  | submitScore score =>
    rw [List.mem_singleton.mp he]
    exact Bool.false_ne_true
  | fetchLeaderboard =>
    rw [List.mem_singleton.mp he]
    exact Bool.false_ne_true
  | firstFrame =>
    have hshown := (List.mem_filter.mp he).1
    unfold showFirstFrame at hshown
    split at hshown
    · rcases List.mem_append.mp hshown with htold | hhooked
      · obtain ⟨n, _, rfl⟩ := List.mem_map.mp htold
        exact Bool.false_ne_true
      · rw [List.mem_singleton.mp hhooked]
        exact Bool.false_ne_true
    · exact absurd hshown List.not_mem_nil

theorem poll_congr (h : t.core = s.core) (now : Int) :
    Together (fun u v => v.core = u.core) Effect.isPlay (s.poll now) (t.poll now) := by
  have hdone : ∀ u : Session, (u.runDeferred now).1.core = u.core := by
    intro u
    obtain ⟨board, submission, hleft⟩ := u.runDeferred_fst now
    rw [hleft]
    rfl
  have hsame : (t.runDeferred now).1.core = (s.runDeferred now).1.core := by
    rw [hdone, hdone, h]
  have htick := runTick_congr hsame now
  have hseen := congrArg (List.filter Effect.isPlay) htick.acts
  rw [Effect.filter_isPlay_filter, Effect.filter_isPlay_filter] at hseen
  rw [poll_eq s, poll_eq t]
  refine ⟨⟨htick.value, htick.session⟩, ?_⟩
  simp only
  rw [List.filter_append, List.filter_append, filter_isPlay_runDeferred,
    filter_isPlay_runDeferred, List.nil_append, List.nil_append]
  exact hseen

/-! ### The other primitive operations -/

/-- What an operation does to the core of a session, and answers, is what it does to the session
itself. -/
structure Cored {α : Type} (f : Session → Reply α) : Prop where
  value : ∀ s, (f s.core).value = (f s).value
  session : ∀ s, (f s.core).session = (f s).session.core

theorem Cored.alike {α : Type} {f : Session → Reply α} (hf : Cored f) (h : t.core = s.core) :
    Alike (fun u v => v.core = u.core) (f s) (f t) := by
  refine ⟨?_, ?_⟩
  · rw [← hf.value t, h, hf.value]
  · rw [← hf.session t, h, hf.session]

theorem restored_core (s : Session) : s.core.restored.1 = s.restored.1.core := by
  have hgame : s.core.game = s.game := rfl
  have hsandbox : s.core.sandbox = s.sandbox := rfl
  unfold restored
  rw [hgame, hsandbox]
  cases s.game with
  | none => rfl
  | some g =>
    simp only
    rcases s.sandbox.load g.cartridge with ⟨_ | d, sandbox, told⟩ <;> rfl

theorem cleared_core (s : Session) : s.core.cleared = s.cleared.core := by
  show ({ s.core.halted with deferred := {} } : Session).uncovered = _
  rw [halted_core]
  rfl

theorem cored_load (c : Guest.Cartridge) : Cored fun s => s.load c := by
  have hload : ∀ s : Session, (s.core.load c).value = (s.load c).value ∧
      (s.core.load c).session = (s.load c).session.core := by
    intro s
    have hsandbox : s.cleared.core.sandbox = s.cleared.sandbox := rfl
    unfold load
    rw [cleared_core, hsandbox]
    rcases s.cleared.sandbox.load c with ⟨_ | d, sandbox, told⟩
    · exact ⟨rfl, restored_core { s.cleared with sandbox := sandbox }⟩
    · exact ⟨rfl, rfl⟩
  exact ⟨fun s => (hload s).1, fun s => (hload s).2⟩

theorem cored_startAt (now : Int) : Cored fun s => s.startAt now := by
  have hstart : ∀ s : Session, (s.core.startAt now).value = (s.startAt now).value ∧
      (s.core.startAt now).session = (s.startAt now).session.core := by
    intro s
    have hplayable : s.core.isPlayable = s.isPlayable := rfl
    have hstep := s.scheduler.step_uncounted (.start now)
    have haccepted : (s.core.scheduler.start now).1 = (s.scheduler.start now).1 :=
      Scheduler.Answer.accepted.inj (congrArg Prod.fst hstep)
    have hstarted : (s.core.scheduler.start now).2 = (s.scheduler.start now).2.uncounted :=
      congrArg Prod.snd hstep
    have hstart : s.core.scheduler.start now
        = ((s.scheduler.start now).1, (s.scheduler.start now).2.uncounted) :=
      Prod.ext haccepted hstarted
    unfold startAt
    rw [hplayable, hstart]
    split <;> exact ⟨rfl, rfl⟩
  exact ⟨fun s => (hstart s).1, fun s => (hstart s).2⟩

theorem cored_stop : Cored stop where
  value s :=
    Scheduler.Answer.accepted.inj (congrArg Prod.fst (s.scheduler.step_uncounted .stop))
  session := halted_core

theorem cored_pause : Cored pause where
  value s :=
    Scheduler.Answer.accepted.inj (congrArg Prod.fst (s.scheduler.step_uncounted .pause))
  session s := by
    have hpause : s.scheduler.uncounted.pause.2 = s.scheduler.pause.2.uncounted :=
      congrArg Prod.snd (s.scheduler.step_uncounted .pause)
    show ({ s.core with scheduler := s.scheduler.uncounted.pause.2 } : Session).marked = _
    rw [hpause]
    rfl

theorem cored_unpause : Cored unpause where
  value s :=
    Scheduler.Answer.accepted.inj (congrArg Prod.fst (s.scheduler.step_uncounted .unpause))
  session s := by
    have hunpause : s.scheduler.uncounted.unpause.2 = s.scheduler.unpause.2.uncounted :=
      congrArg Prod.snd (s.scheduler.step_uncounted .unpause)
    show ({ s.core.uncovered with
      scheduler := s.scheduler.uncounted.unpause.2 } : Session).marked = _
    rw [hunpause]
    rfl

theorem cored_dispose : Cored dispose where
  value _ := rfl
  session s := by
    show (({ s.core.halted with deferred := {} } : Session).uncovered.withSandbox
      s.sandbox.release.1).unloaded = _
    rw [halted_core]
    rfl

theorem front_of_core (h : t.core = s.core) : Front s t := by
  have hcores : Front s.core t.core := by
    rw [h]
    exact ⟨rfl, rfl, rfl, rfl, rfl⟩
  exact ⟨hcores.input, hcores.services, hcores.state, hcores.game, hcores.mark⟩

/-- Sessions with the same core go on in lockstep, as far as play is seen. -/
theorem lockstep_core : Lockstep (fun s t => t.core = s.core) Effect.isPlay where
  unlogged _ _ := rfl
  front := front_of_core
  input h input := congrArg (fun u : Session => { u with input := input }) h
  services h services := congrArg (fun u : Session => { u with services := services }) h
  overlay h overlay := congrArg (fun u : Session => { u with overlay := overlay }) h
  mark h mark := congrArg (fun u : Session => { u with pausedForOverlay := mark }) h
  board h _ := h
  setHook h := h
  acquire := core_congr (f := fun s => s.acquire.session) fun _ => rfl
  withdraw h name := core_congr (f := fun s => s.withdraw name) (fun _ => rfl) h
  load h c := (cored_load c).alike h
  startAt h now := (cored_startAt now).alike h
  stop := cored_stop.alike
  pause := cored_pause.alike
  unpause := cored_unpause.alike
  reset := core_congr (f := fun s => s.reset.session) fun _ => rfl
  dispose h := (cored_dispose.alike h).session
  poll h now := poll_congr h now

end Session

end Handheld
