import Handheld.Proofs.Session.Core
import Handheld.Proofs.Session.Restore
import Handheld.Proofs.Session.Ticks

/-!
# A load starts over

After a load that succeeds nothing of what was done before has a say in play. Apart from what has
none, the session is the one that the game begins with: it is made of the settings, the period of
the ticks and the game alone, and of what comes from outside, which is the input, the services and
the cartridges that were withdrawn. So two sessions with whatever different histories, in which the
same game is loaded, go on in lockstep if they meet the same from outside.

For this a session has to keep some things that no operation changes, and no tick may be left
unfinished between operations.

* `gist`, `run_gist`: the core of a session without the count of faults;
* `Steady`, `rule_steady`: what no operation changes;
* `fresh`, `gist_load`: what a load leaves is what the game begins with;
* `StartedOver`, `startedOver_run`: two sessions with different histories in which the same game
  is loaded.
-/

namespace Handheld

namespace Session

/-! ### What counts in play -/

/-- The session without the count of faults. -/
def unblamed (s : Session) : Session := s.withSandbox { s.sandbox with faults := 0 }

/-- All of a session that has a say in play. -/
def gist (s : Session) : Session := s.unblamed.core

variable {limits : Limits} {period : Nat} {s t : Session}

theorem faulting_unblamed (s : Session) : s.unblamed.faulting s.sandbox.faults = s := by
  show s.withSandbox { s.sandbox with faults := 0 + s.sandbox.faults } = s
  rw [Nat.zero_add]
  rfl

theorem run_unblamed (s : Session) (ops : List Operation) :
    Together (fun u v => v = u.faulting s.sandbox.faults) Effect.isAct (s.unblamed.run ops)
      (s.run ops) := by
  have hrun := (lockstep_faulting s.sandbox.faults).run (s := s.unblamed) rfl ops
  rw [faulting_unblamed] at hrun
  exact hrun

/-- Sessions with the same gist go on in lockstep, as far as play is seen. -/
theorem run_gist (h : t.gist = s.gist) (ops : List Operation) :
    Together (fun u v => v.gist = u.gist) Effect.isPlay (s.run ops) (t.run ops) := by
  have hs := s.run_unblamed ops
  have ht := t.run_unblamed ops
  have hcore := lockstep_core.run (s := s.unblamed) h ops
  refine ⟨⟨?_, ?_⟩, ?_⟩
  · rw [ht.value, hcore.value, hs.value]
  · rw [ht.session, hs.session]
    exact congrArg unblamed hcore.session
  · rw [← Effect.filter_isPlay_filter, ht.acts, Effect.filter_isPlay_filter, hcore.acts,
      ← Effect.filter_isPlay_filter (s.run ops).effects, hs.acts, Effect.filter_isPlay_filter]

/-! ### What no operation changes -/

/-- The limits of the sandbox and the period of the ticks are what they were, and no tick is left
unfinished. -/
structure Steady (limits : Limits) (period : Nat) (s : Session) : Prop where
  limits : s.sandbox.limits = limits
  period : s.scheduler.period = period
  idle : s.scheduler.inFlight = none

theorem Steady.congr (h : Steady limits period s) (hlimits : t.sandbox.limits = s.sandbox.limits)
    (hperiod : t.scheduler.period = s.scheduler.period)
    (hidle : t.scheduler.inFlight = s.scheduler.inFlight) : Steady limits period t :=
  ⟨hlimits.trans h.limits, hperiod.trans h.period, hidle.trans h.idle⟩

theorem steady_start (sch : Scheduler) (now : Int) :
    (sch.start now).2.period = sch.period ∧ (sch.start now).2.inFlight = sch.inFlight := by
  unfold Scheduler.start
  split <;> exact ⟨rfl, rfl⟩

theorem steady_stop (sch : Scheduler) :
    sch.stop.2.period = sch.period ∧ sch.stop.2.inFlight = sch.inFlight := by
  unfold Scheduler.stop
  split <;> exact ⟨rfl, rfl⟩

theorem steady_pause (sch : Scheduler) :
    sch.pause.2.period = sch.period ∧ sch.pause.2.inFlight = sch.inFlight := by
  unfold Scheduler.pause
  split <;> exact ⟨rfl, rfl⟩

theorem steady_unpause (sch : Scheduler) :
    sch.unpause.2.period = sch.period ∧ sch.unpause.2.inFlight = sch.inFlight := by
  unfold Scheduler.unpause
  split <;> exact ⟨rfl, rfl⟩

theorem limits_load {x y : Sandbox} {c : Guest.Cartridge} {outcome : Except LoadError Definition}
    {told : List Notice} (h : x.load c = (outcome, y, told)) : y.limits = x.limits := by
  have hends := x.loadEnds c
  rw [h] at hends
  cases hends <;> rfl

theorem limits_release (x : Sandbox) : x.release.1.limits = x.limits := by
  rw [Sandbox.release_fst]

theorem Steady.load {c : Guest.Cartridge} {e : Event} (h : Steady limits period s)
    (hends : LoadLeaves s c e t) : Steady limits period t := by
  obtain ⟨hperiod, hidle⟩ := steady_stop s.scheduler
  cases hends with
  | loaded hload => exact h.congr (limits_load hload) hperiod hidle
  | refused hload => exact h.congr (limits_load hload) hperiod hidle
  | restored hload _ hagain =>
    exact h.congr ((limits_load hagain).trans (limits_load hload)) hperiod hidle
  | lost hload _ hagain =>
    exact h.congr ((limits_load hagain).trans (limits_load hload)) hperiod hidle

theorem TickLeaves.steady {sch after : Scheduler} {now : Int} {tick : Option Tick}
    (h : TickLeaves sch now tick after) (hidle : sch.inFlight = none) :
    after.period = sch.period ∧ after.inFlight = none := by
  cases h with
  | idle => exact ⟨rfl, hidle⟩
  | drawn | updated | ended => exact ⟨rfl, rfl⟩

theorem Steady.poll (h : Steady limits period s) (now : Int) :
    Steady limits period (s.poll now).session := by
  obtain ⟨hperiod, hidle⟩ := (s.tickLeaves_poll now).steady h.idle
  have hlimits : (s.poll now).session.sandbox.limits = s.sandbox.limits := by
    rw [sandbox_poll]
    rcases (s.poll now).value with _ | (delta | _)
    · rfl
    · exact s.sandbox.limits_invoke _ _
    · rfl
  exact ⟨hlimits.trans h.limits, hperiod.trans h.period, hidle⟩

theorem rule_steady (limits : Limits) (period : Nat) :
    Rule fun s _ t => Steady limits period s → Steady limits period t where
  aside _ _ _ _ _ _ _ _ h := h.congr rfl rfl rfl
  followed hst htu h := htu (hst h)
  acquire s h := by
    refine h.congr ?_ rfl rfl
    show s.sandbox.acquire.1.limits = s.sandbox.limits
    rw [Sandbox.acquire_fst]
  withdraw _ _ h := h.congr rfl rfl rfl
  load s c h := h.load (s.loadLeaves_load c)
  startAt s now h := by
    obtain ⟨hperiod, hidle⟩ := steady_start s.scheduler now
    unfold startAt
    split
    · exact h
    · exact h.congr rfl hperiod hidle
  stop s h := h.congr rfl (steady_stop s.scheduler).1 (steady_stop s.scheduler).2
  pause s h := h.congr rfl (steady_pause s.scheduler).1 (steady_pause s.scheduler).2
  unpause s h := h.congr rfl (steady_unpause s.scheduler).1 (steady_unpause s.scheduler).2
  reset _ h := h.congr rfl rfl rfl
  dispose s h :=
    h.congr (limits_release s.sandbox) (steady_stop s.scheduler).1 (steady_stop s.scheduler).2
  poll _ now h := h.poll now

/-! ### Where a game begins -/

/-- The session with which a game begins. -/
def fresh (settings : Settings) (period : Nat) (g : LoadedGame) (process : Guest.Process)
    (input : InputState) (services : Services) (withdrawn : List String) : Session :=
  { settings := settings
    sandbox :=
      { limits := settings.limits, ready := true, realm := some ⟨g.cartridge, process⟩
        withdrawn := withdrawn }
    scheduler := .new period
    display := opening settings.grid g.definition.initial
    atlas := .rasterize g.definition.sprites g.definition.palette settings.atlas
    palette := g.definition.palette
    input := input
    renderer := .blind
    services := services
    game := some g }

theorem resetTiming_stop (sch : Scheduler) (hidle : sch.inFlight = none) :
    sch.stop.2.resetTiming.uncounted = .new sch.period := by
  obtain ⟨period, state, nextTick, inFlight, lastUpdate, frames, ticks, timings⟩ := sch
  obtain rfl : inFlight = none := hidle
  cases state <;> rfl

/-- Nothing of what was done before is left in a game that was just loaded. -/
theorem gist_load {settings : Settings} (h : Coherent settings s)
    (hsteady : Steady settings.limits period s) {c : Guest.Cartridge} {d : Definition}
    (hload : (s.sandbox.load c).1 = .ok d) :
    ∃ process, (Sandbox.inspect c.program).1 = .ok (d, process) ∧
      (s.load c).session.gist
        = fresh settings period ⟨d, c⟩ process s.input s.services s.sandbox.withdrawn := by
  obtain rfl : s.settings = settings := h.settings
  have hsplit : s.sandbox.load c = (.ok d, (s.sandbox.load c).2.1, (s.sandbox.load c).2.2) :=
    Prod.ext hload rfl
  obtain ⟨process, hinspect, hsandbox⟩ := Sandbox.load_of_ok hsplit
  have hbox : ({ s.sandbox with realm := some ⟨c, process⟩, faults := 0 } : Sandbox)
      = { limits := s.settings.limits, ready := true, realm := some ⟨c, process⟩
          withdrawn := s.sandbox.withdrawn } := by
    rw [← hsteady.limits, ← Sandbox.ready_of_ok hsplit]
  have hscheduler := resetTiming_stop s.scheduler hsteady.idle
  rw [hsteady.period] at hscheduler
  have hdisplay : (firstDisplay d.initial s.display).setPaused s.scheduler.stop.2.isPaused
      = opening s.settings.grid d.initial := by
    have hjust := (justLoaded_load h hload).display
    rw [load_session_of_ok hload] at hjust
    exact hjust
  refine ⟨process, hinspect, ?_⟩
  rw [load_session_of_ok hload, hsandbox, fresh, ← hbox, ← hscheduler, ← hdisplay]
  rfl

/-! ### Two histories -/

/-- What a load leaves, given the process that the game begins with. Apart from the input, the
services and what was withdrawn nothing before the load is looked at. -/
structure StartedOver (settings : Settings) (period : Nat) (g : LoadedGame)
    (process : Guest.Process) (before after : Session) : Prop where
  gist : after.gist = fresh settings period g process before.input before.services
    before.sandbox.withdrawn
  queued : after.firstFrameQueued = false
  promised : ∀ e ∈ after.deferred.pending, e.2 ≠ .firstFrame

theorem load_of_value {c : Guest.Cartridge} {d : Definition} (h : (s.load c).value = .ok d) :
    (s.sandbox.load c).1 = .ok d := by
  cases hload : (s.sandbox.load c).1 with
  | error cause =>
    rw [s.load_error_value c hload] at h
    cases h
  | ok other =>
    rw [s.load_ok_value c hload] at h
    rw [Except.ok.inj h]

theorem startedOver_load {settings : Settings} (h : Coherent settings s)
    (hsteady : Steady settings.limits period s) {c : Guest.Cartridge} {d : Definition}
    (hvalue : (s.load c).value = .ok d) :
    ∃ process, (Sandbox.inspect c.program).1 = .ok (d, process) ∧
      StartedOver settings period ⟨d, c⟩ process s (s.load c).session := by
  have hload := load_of_value hvalue
  obtain ⟨process, hinspect, hgist⟩ := gist_load h hsteady hload
  refine ⟨process, hinspect, hgist, ?_, ?_⟩
  · rw [load_session_of_ok hload]
    rfl
  · rw [load_session_of_ok hload]
    intro e he
    exact of_decide_eq_true (List.mem_filter.mp he).2

theorem steady_run (settings : Settings) (period : Nat) (renderer : Renderer)
    (services : Services) (ops : List Operation) :
    Steady settings.limits period
      ((newWith settings (.new period) renderer services).run ops).session :=
  (rule_steady settings.limits period).run ⟨rfl, rfl, rfl⟩ ops

/-- Two sessions, whatever was done in each, in which the same game is loaded: both are what the
game begins with. If they meet the same input, services and withdrawals, then whatever is done
next is answered alike, runs the same ticks with the same calls of the game, and draws the same. -/
theorem startedOver_run (settings : Settings) (period : Nat) {renderer renderer' : Renderer}
    {services services' : Services} {ops ops' : List Operation} {c : Guest.Cartridge}
    {d : Definition}
    (hs : (((newWith settings (.new period) renderer services).run ops).session.load c).value
      = .ok d)
    (ht : (((newWith settings (.new period) renderer' services').run ops').session.load c).value
      = .ok d) :
    let s := ((newWith settings (.new period) renderer services).run ops).session
    let t := ((newWith settings (.new period) renderer' services').run ops').session
    (∃ process, c.program.process? = some process ∧
        StartedOver settings period ⟨d, c⟩ process s (s.load c).session ∧
        StartedOver settings period ⟨d, c⟩ process t (t.load c).session) ∧
      (t.input = s.input → t.services = s.services →
        t.sandbox.withdrawn = s.sandbox.withdrawn → ∀ later,
          Together (fun u v => v.gist = u.gist) Effect.isPlay ((s.load c).session.run later)
            ((t.load c).session.run later)) := by
  intro s t
  obtain ⟨process, hinspect, hover⟩ := startedOver_load
    (coherent_run settings period renderer services ops)
    (steady_run settings period renderer services ops) hs
  obtain ⟨process', hinspect', hover'⟩ := startedOver_load
    (coherent_run settings period renderer' services' ops')
    (steady_run settings period renderer' services' ops') ht
  -- both loads inspected the same program
  obtain rfl : process = process' :=
    congrArg Prod.snd (Except.ok.inj (hinspect.symm.trans hinspect'))
  refine ⟨⟨process, Sandbox.process?_of_inspect hinspect, hover, hover'⟩, ?_⟩
  intro hinput hservices hwithdrawn later
  have hgist : (t.load c).session.gist = (s.load c).session.gist := by
    rw [hover'.gist, hover.gist]
    show fresh _ _ _ _ t.input t.services t.sandbox.withdrawn = _
    rw [hinput, hservices, hwithdrawn]
  exact run_gist hgist later

/-- A game is loaded after one that ended, with its report and its first frame still to come, and
in a new session. -/
theorem startedOver_run_ended :
    let s := ((newWith {} (.new standardPeriod) .blind .offline).run endedRun).session
    let t := ((newWith {} (.new standardPeriod) .blind .offline).run [.acquire]).session
    ∃ d, (s.load endingCartridge).value = .ok d ∧ (t.load endingCartridge).value = .ok d ∧
      (s.load endingCartridge).session.deferred.pending.length = 2 ∧
      (t.load endingCartridge).session.deferred.pending.length = 0 ∧
      ∀ later, Together (fun u v => v.gist = u.gist) Effect.isPlay
        ((s.load endingCartridge).session.run later)
        ((t.load endingCartridge).session.run later) := by
  intro s t
  obtain ⟨d, hs, ht⟩ : ∃ d, (s.load endingCartridge).value = .ok d ∧
      (t.load endingCartridge).value = .ok d := ⟨_, rfl, rfl⟩
  exact ⟨d, hs, ht, rfl, rfl, (startedOver_run {} standardPeriod hs ht).2 rfl rfl rfl⟩

end Session

end Handheld
