import Handheld.Proofs.Session.Coherence
import Handheld.Proofs.Session.Effects
import Handheld.Proofs.Session.Pauser
import Handheld.Proofs.Session.Reports

/-!
# A disposal is final

Whatever a session was doing when it was disposed of, nothing of it goes on. The scheduler is
stopped, the queue is dropped and the game is gone, so a poll finds nothing to do and there is
nothing to be started. A second disposal finds nothing left to dispose of.

Only a load brings a game back. Without an engine every load fails, and there was no game to fall
back on. So the session stays empty until the engine is acquired and a load succeeds after that.

* `dispose_dispose`: disposing twice is disposing once;
* `Dormant`, `dormant_dispose`, `dormant_step`: no game, no work and perhaps no engine;
* `Spent`, `Dormant.spent`: what is left to be seen of such a session;
* `revives`, `disposal_run`: it is left so by everything that does not revive it.
-/

namespace Handheld

/-- Stopping twice is stopping once. -/
theorem Scheduler.stop_stop (s : Scheduler) : s.stop.2.stop.2 = s.stop.2 := by
  obtain ⟨period, state, nextTick, inFlight, lastUpdate, frames, ticks, timings⟩ := s
  cases state <;> rfl

/-- Whether an operation answers that it loaded a game. -/
def Session.Outcome.loads : Session.Outcome → Bool
  | .loaded result => result.isOk
  | .restarted result => result.isOk
  | .done | .accepted _ | .polled _ | .opened _ => false

namespace Session

def Operation.acquires : Operation → Bool
  | .acquire => true
  | _ => false

variable {settings : Settings} {acquired : Bool} {s t : Session}

/-! ### Disposing twice -/

theorem dispose_session (s : Session) :
    s.dispose.session = { s with
      scheduler := s.scheduler.stop.2, deferred := {}, overlay := none, pausedForOverlay := false
      sandbox := { s.sandbox with ready := false, realm := none }
      game := none, palette := .standard, atlas := .empty s.settings.atlas
      display := s.display.reset } := by
  show { { s.halted with deferred := s.deferred.cancelAll }.uncovered with
    sandbox := s.sandbox.release.1 }.unloaded = _
  rw [Sandbox.release_fst]
  rfl

theorem dispose_dispose (s : Session) : s.dispose.session.dispose.session = s.dispose.session := by
  rw [dispose_session s.dispose.session, dispose_session s]
  simp only [Scheduler.stop_stop, Display.reset_eq_new]
  rfl

/-! ### Sessions without a game -/

/-- There is no game and nothing is queued. There may be an engine if it was acquired. -/
structure Dormant (acquired : Bool) (s : Session) : Prop where
  game : s.game = none
  idle : s.deferred = {}
  engine : s.sandbox.ready = true → acquired = true

theorem dormant_dispose (s : Session) : Dormant false s.dispose.session := by
  rw [dispose_session]
  exact ⟨rfl, rfl, nofun⟩

theorem Dormant.congr (h : Dormant acquired s) (hgame : t.game = s.game)
    (hidle : t.deferred = s.deferred) (hengine : t.sandbox.ready = s.sandbox.ready) :
    Dormant acquired t where
  game := hgame.trans h.game
  idle := hidle.trans h.idle
  engine := by
    rw [hengine]
    exact h.engine

/-- A load that fails leaves a session without a game as it is. -/
theorem Dormant.load (h : Dormant acquired s) {c : Guest.Cartridge}
    (hfails : (s.load c).value.isOk = false) : Dormant acquired (s.load c).session := by
  have hleaves := s.loadLeaves_load c
  generalize s.loadEvent c = e at hleaves
  generalize (s.load c).session = t at hleaves ⊢
  cases hleaves with
  | loaded hload =>
    rw [s.load_ok_value c (congrArg Prod.fst hload)] at hfails
    cases hfails
  | refused hload =>
    have hready := congrArg Sandbox.ready (Sandbox.load_of_error hload)
    refine h.congr rfl ?_ hready
    show s.deferred.cancel .firstFrame = s.deferred
    rw [h.idle]
    rfl
  | restored _ hgame =>
    rw [h.game] at hgame
    cases hgame
  | lost _ hgame =>
    rw [h.game] at hgame
    cases hgame

/-- Without an engine no operation loads a game. -/
theorem load_not_ready (h : s.sandbox.ready = false) (c : Guest.Cartridge) :
    (s.load c).value = .error (.load .notInitialized) :=
  s.load_error_value c (Sandbox.load_not_ready h c)

theorem loads_of_not_ready (hgame : s.game = none) (hready : s.sandbox.ready = false)
    (op : Operation) : (s.step op).value.loads = false := by
  have hload : ∀ c, (s.load c).value.isOk = false := fun c => by
    rw [load_not_ready hready c]
    rfl
  cases op with
  | load c => exact hload c
  | loadBundled name =>
    show (s.loadBundled name).value.isOk = false
    unfold loadBundled
    split
    · exact hload _
    · rfl
  | create description =>
    show (s.create description).value.isOk = false
    unfold create
    split
    · rfl
    · exact hload _
  | restart clock =>
    show (s.restart clock).value.isOk = false
    rw [restart, cartridge?, hgame]
    rfl
  | _ => rfl

theorem isPlayable_of_game (h : s.game = none) : s.isPlayable = false := by
  rw [isPlayable, h]
  rfl

theorem startAt_of_game (h : s.game = none) (now : Int) :
    s.startAt now = ⟨false, s, Effect.tell [.notStarting]⟩ := by
  rw [startAt, isPlayable_of_game h]
  rfl

/-- A poll of a session without a game finds nothing to do. -/
theorem poll_of_game (hcoherent : Coherent settings s) (h : Dormant acquired s) (now : Int) :
    s.poll now = ⟨none, s, []⟩ := by
  refine poll_idle ?_ ?_ ?_
  · rw [h.idle]
    rfl
  · rw [h.idle]
    rfl
  · rw [Scheduler.isDue, Scheduler.isActive, (hcoherent.vacant h.game).stopped]
    rfl

/-! ### Every operation -/

theorem Dormant.aside (h : Dormant acquired s) (hgame : t.game = s.game)
    (hidle : t.deferred = s.deferred) (hengine : t.sandbox.ready = s.sandbox.ready) :
    Dormant (acquired || false) t := by
  rw [Bool.or_false]
  exact h.congr hgame hidle hengine

theorem dormant_closeLeaderboard (h : Dormant acquired s) :
    Dormant acquired s.closeLeaderboard.session := by
  rw [closeLeaderboard_session]
  cases s.pausedForOverlay <;> exact h.congr rfl rfl rfl

theorem dormant_openLeaderboard (h : Dormant acquired s) :
    Dormant acquired s.openLeaderboard.session := by
  have hpaused : Dormant acquired s.pausedFor.1 := by
    unfold pausedFor
    split <;> exact h.congr rfl rfl rfl
  cases hfetch : s.pausedFor.1.services.fetch with
  | ok entries =>
    rw [openLeaderboard_of_ok rfl hfetch]
    exact hpaused.congr rfl rfl rfl
  | error cause =>
    rw [openLeaderboard_of_error rfl hfetch]
    exact dormant_closeLeaderboard hpaused

/-- What does not load a game leaves a session without one. -/
theorem dormant_step (hcoherent : Coherent settings s) (h : Dormant acquired s) (op : Operation)
    (hfails : (s.step op).value.loads = false) :
    Dormant (acquired || op.acquires) (s.step op).session := by
  cases op with
  | acquire => exact ⟨h.game, h.idle, fun _ => Bool.or_true _⟩
  | load c => exact (h.load hfails).aside rfl rfl rfl
  | loadBundled name =>
    have hvalue : (s.loadBundled name).value.isOk = false := hfails
    show Dormant _ (s.loadBundled name).session
    unfold loadBundled at hvalue ⊢
    split at hvalue
    · exact (h.load hvalue).aside rfl rfl rfl
    · exact h.aside rfl rfl rfl
  | create description =>
    have hvalue : (s.create description).value.isOk = false := hfails
    show Dormant _ (s.create description).session
    unfold create at hvalue ⊢
    split at hvalue
    · exact h.aside rfl rfl rfl
    · exact (h.load hvalue).aside rfl rfl rfl
  | restart clock =>
    show Dormant _ (s.restart clock).session
    rw [restart, cartridge?, h.game]
    exact h.aside rfl rfl rfl
  | startAt now =>
    show Dormant _ (s.startAt now).session
    rw [startAt_of_game h.game]
    exact h.aside rfl rfl rfl
  | poll now =>
    show Dormant _ (s.poll now).session
    rw [poll_of_game hcoherent h]
    exact h.aside rfl rfl rfl
  | openLeaderboard => exact (dormant_openLeaderboard h).aside rfl rfl rfl
  | closeLeaderboard => exact (dormant_closeLeaderboard h).aside rfl rfl rfl
  | dispose =>
    have hdisposed := s.dormant_dispose
    exact ⟨hdisposed.game, hdisposed.idle, fun hready => nomatch hdisposed.engine hready⟩
  | keyDown code =>
    show Dormant _ (s.keyDown code).2
    unfold keyDown
    split <;> exact h.aside rfl rfl rfl
  | keyUp code =>
    show Dormant _ (s.keyUp code).2
    unfold keyUp
    split <;> exact h.aside rfl rfl rfl
  | stop | pause | unpause | reset | press | release | setHook | arrange | withdraw =>
    exact h.aside rfl rfl rfl

/-- Such a session writes to the log, fetches the leaderboard when it is opened and asks for games,
and a poll does not even do that. -/
theorem Dormant.control (hcoherent : Coherent settings s) (h : Dormant acquired s)
    (op : Operation) : ∀ e ∈ (s.step op).effects, e.isControl = true := by
  by_cases hpoll : ∃ now, op = .poll now
  · obtain ⟨now, rfl⟩ := hpoll
    show ∀ e ∈ (s.poll now).effects, _
    rw [poll_of_game hcoherent h]
    exact fun e he => absurd he List.not_mem_nil
  · exact s.control_step fun now hop => hpoll ⟨now, hop⟩

/-! ### Runs -/

/-- Whether a run loads a game after the engine was acquired. -/
def revives (acquired : Bool) (s : Session) : List Operation → Bool
  | [] => false
  | op :: ops =>
    acquired && (s.step op).value.loads
      || revives (acquired || op.acquires) (s.step op).session ops

/-- What is left to be seen of a session that was disposed of: no poll does anything, nothing can
be started, without an engine nothing can be loaded, and what is shown is empty. -/
structure Spent (settings : Settings) (acquired : Bool) (s : Session) : Prop where
  poll : ∀ now, s.poll now = ⟨none, s, []⟩
  startAt : ∀ now, (s.startAt now).value = false
  load : acquired = false → ∀ c, (s.load c).value = .error (.load .notInitialized)
  display : s.display = .new settings.grid
  atlas : s.atlas = .empty settings.atlas
  palette : s.palette = .standard

theorem Dormant.spent (hcoherent : Coherent settings s) (h : Dormant acquired s) :
    Spent settings acquired s where
  poll := poll_of_game hcoherent h
  startAt now := by rw [startAt_of_game h.game]
  load hnever c := by
    refine load_not_ready ?_ c
    cases hready : s.sandbox.ready with
    | false => rfl
    | true => exact absurd (hnever.symm.trans (h.engine hready)) Bool.false_ne_true
  display := by rw [(hcoherent.vacant h.game).display, hcoherent.settings]
  atlas := by rw [(hcoherent.vacant h.game).atlas, hcoherent.settings]
  palette := (hcoherent.vacant h.game).palette

theorem revives_cons {op : Operation} {ops : List Operation}
    (hgame : Dormant acquired s) (h : revives acquired s (op :: ops) = false) :
    (s.step op).value.loads = false ∧
      revives (acquired || op.acquires) (s.step op).session ops = false := by
  obtain ⟨hnow, hlater⟩ := Bool.or_eq_false_iff.mp h
  refine ⟨?_, hlater⟩
  cases hready : s.sandbox.ready with
  | false => exact loads_of_not_ready hgame.game hready op
  | true =>
    rw [hgame.engine hready] at hnow
    exact hnow

/-- A run that does not revive a session leaves it as it is. -/
theorem dormant_run (hcoherent : Coherent settings s) (h : Dormant acquired s)
    {ops : List Operation} (hops : revives acquired s ops = false) :
    (∀ e ∈ (s.run ops).effects, e.isControl = true) ∧
      ∀ before after, ops = before ++ after →
        Spent settings (acquired || before.any Operation.acquires) (s.run before).session := by
  induction ops generalizing s acquired with
  | nil =>
    refine ⟨fun e he => absurd he List.not_mem_nil, fun before after hsplit => ?_⟩
    obtain ⟨rfl, -⟩ := List.append_eq_nil_iff.mp hsplit.symm
    rw [List.any_nil, Bool.or_false]
    exact h.spent hcoherent
  | cons op ops ih =>
    obtain ⟨hfails, hlater⟩ := revives_cons h hops
    obtain ⟨heffects, hspent⟩ :=
      ih ((rule_coherent settings).step s op hcoherent) (dormant_step hcoherent h op hfails) hlater
    refine ⟨fun e he => ?_, fun before after hsplit => ?_⟩
    · rcases List.mem_append.mp he with he | he
      · exact h.control hcoherent op e he
      · exact heffects e he
    · cases before with
      | nil =>
        rw [List.any_nil, Bool.or_false]
        exact h.spent hcoherent
      | cons first before =>
        obtain ⟨rfl, hrest⟩ := List.cons.inj hsplit
        rw [List.any_cons, ← Bool.or_assoc]
        exact hspent before after hrest

/-- Disposing of a session that is disposed of changes nothing. Whatever is done to it then, unless
a game is loaded after the engine was acquired again: no tick runs, the game is not called, no score
is submitted and the hook is not called. All the while no poll does anything, nothing is started,
nothing is loaded before the engine is acquired, and there is nothing to be seen of a game. -/
theorem disposal_run (settings : Settings) (period : Nat) (renderer : Renderer)
    (services : Services) (ops later : List Operation) :
    let d := ((newWith settings (.new period) renderer services).run ops).session.dispose.session
    d.dispose.session = d ∧
      (revives false d later = false →
        (∀ e ∈ (d.run later).effects, e.isControl = true) ∧
          ∀ before after, later = before ++ after →
            Spent settings (before.any Operation.acquires) (d.run before).session) := by
  intro d
  refine ⟨dispose_dispose _, fun hlater => ?_⟩
  have hcoherent := (rule_coherent settings).run
    (coherent_newWith settings period renderer services) ops
  exact dormant_run hcoherent.dispose (dormant_dispose _) hlater

/-- A game that ended and was begun again, and is paused for the leaderboard. The report of its end
and its first frame still wait. -/
def busyRun : List Operation :=
  [.acquire, .load endingCartridge, .setHook, .startAt 0, .poll 0, .reset, .startAt 5,
    .openLeaderboard]

/-- Polls, starts, a load without an engine, and a new engine. -/
def afterlife : List Operation :=
  [.poll 100000000, .startAt 5, .load endingCartridge, .openLeaderboard, .acquire,
    .poll 200000000, .reset, .unpause, .startAt 7, .poll 300000000]

theorem disposal_run_busy :
    let s := ((newWith {} (.new standardPeriod) .blind .offline).run busyRun).session
    let d := s.dispose.session
    s.scheduler.state = .paused ∧ s.overlay.isSome ∧
      s.deferred.pending.map Prod.snd = [.submitScore 0, .fetchLeaderboard, .firstFrame] ∧
      revives false d afterlife = false ∧ d.dispose.session = d ∧
      (∀ e ∈ (d.run afterlife).effects, e.isControl = true) ∧
      Spent {} true (d.run afterlife).session := by
  intro s d
  have hlater : revives false d afterlife = false := rfl
  obtain ⟨htwice, hfinal⟩ := disposal_run {} standardPeriod .blind .offline busyRun afterlife
  obtain ⟨heffects, hspent⟩ := hfinal hlater
  exact ⟨rfl, rfl, rfl, hlater, htwice, heffects, hspent afterlife [] (List.append_nil _).symm⟩

end Session

end Handheld
