import Handheld.Proofs.Session.Coherence
import Handheld.Proofs.Session.Replay
import Handheld.Proofs.Session.Reports

/-!
# Loads that fail

A load takes the game away that was there before it knows whether it will succeed. When it fails,
the game that was there is loaded once more. If that succeeds, the session is the one that loading
that game on purpose would have left: everything begins again, stopped and ready to be started.
If it fails too, there is no game any more. Either way the answer is the cause of the first
failure, and of the work that was queued only the frame promised to the hook is withdrawn.

* `Sandbox.load_releaseRealm`: what a load comes to does not depend on what is loaded;
* `JustLoaded`, `justLoaded_load`: a session in which a game was just loaded;
* `Emptied`: a session that lost its game;
* `FellBack`, `fellBack_run`: what a load that fails leaves of a game.
-/

namespace Handheld

/-- What a load comes to does not depend on what was loaded before it. -/
theorem Sandbox.load_releaseRealm (s : Sandbox) (c : Guest.Cartridge) :
    (s.releaseRealm.1.load c).1 = (s.load c).1 ∧
      (s.releaseRealm.1.load c).2.1 = (s.load c).2.1 := by
  have htwice : s.releaseRealm.1.releaseRealm.1 = s.releaseRealm.1 := by
    rw [releaseRealm_fst, releaseRealm_fst]
  unfold load
  generalize s.releaseRealm.1.releaseRealm = p at htwice ⊢
  generalize s.releaseRealm = q at htwice ⊢
  obtain ⟨t, told⟩ := p
  obtain ⟨u, told'⟩ := q
  simp only at htwice ⊢
  subst htwice
  split
  · exact ⟨rfl, rfl⟩
  · split
    · exact ⟨rfl, rfl⟩
    · split <;> exact ⟨rfl, rfl⟩

/-- After a load that failed another one comes to what it would have come to at once. -/
theorem Sandbox.load_after_error {s : Sandbox} {c : Guest.Cartridge} {cause : LoadError}
    (hfail : (s.load c).1 = .error cause) (other : Guest.Cartridge) :
    ((s.load c).2.1.load other).1 = (s.load other).1 ∧
      ((s.load c).2.1.load other).2.1 = (s.load other).2.1 := by
  have hfailed : (s.load c).2.1 = s.releaseRealm.1 := by
    rw [releaseRealm_fst]
    exact load_of_error (Prod.ext hfail rfl)
  rw [hfailed]
  exact s.load_releaseRealm other

namespace Session

/-! ### The two ends -/

/-- A game was just loaded: everything is made for it and fresh, and it can be started. -/
structure JustLoaded (s : Session) (c : Guest.Cartridge) (d : Definition) : Prop where
  game : s.game = some ⟨d, c⟩
  palette : s.palette = d.palette
  atlas : s.atlas = .rasterize d.sprites d.palette s.settings.atlas
  display : s.display = opening s.settings.grid d.initial
  realm : ∃ p, (Sandbox.inspect c.program).1 = .ok (d, p) ∧ s.sandbox.realm = some ⟨c, p⟩
  stopped : s.scheduler.state = .stopped
  nextTick : s.scheduler.nextTick = none
  lastUpdate : s.scheduler.lastUpdate = none
  frames : s.scheduler.frames = 0
  timings : s.scheduler.timings = {}
  overlay : s.overlay = none
  pausedForOverlay : s.pausedForOverlay = false
  firstFrameQueued : s.firstFrameQueued = false
  startable : ∀ now, (s.startAt now).value = true

/-- The game was lost: nothing is left of it, and there is nothing to be started. -/
structure Emptied (s : Session) : Prop where
  game : s.game = none
  vacant : Vacant s
  realm : s.sandbox.realm = none
  overlay : s.overlay = none
  pausedForOverlay : s.pausedForOverlay = false
  unstartable : ∀ now, (s.startAt now).value = false

variable {settings : Settings} {s : Session}

theorem startAt_of_stopped (hplayable : s.isPlayable = true)
    (hstopped : s.scheduler.state = .stopped) (now : Int) : (s.startAt now).value = true := by
  unfold startAt Scheduler.start
  rw [hplayable, hstopped]
  rfl

theorem startAt_of_not_isPlayable (h : s.isPlayable = false) (now : Int) :
    (s.startAt now).value = false := by
  unfold startAt
  rw [h]
  rfl

/-- What a load leaves that succeeds. -/
theorem load_session_of_ok {c : Guest.Cartridge} {d : Definition}
    (hload : (s.sandbox.load c).1 = .ok d) :
    (s.load c).session
      = ({ s.cleared with sandbox := (s.sandbox.load c).2.1 } : Session).installed c d := by
  have hsplit : s.cleared.sandbox.load c
      = (.ok d, (s.sandbox.load c).2.1, (s.sandbox.load c).2.2) := Prod.ext hload rfl
  unfold load
  rw [hsplit]

/-- What a load leaves that fails. -/
theorem load_session_of_error {c : Guest.Cartridge} {cause : LoadError}
    (hload : (s.sandbox.load c).1 = .error cause) :
    (s.load c).session
      = ({ s.cleared with sandbox := (s.sandbox.load c).2.1 } : Session).restored.1 := by
  have hsplit : s.cleared.sandbox.load c
      = (.error cause, (s.sandbox.load c).2.1, (s.sandbox.load c).2.2) := Prod.ext hload rfl
  unfold load
  rw [hsplit]

theorem justLoaded_load (h : Coherent settings s) {c : Guest.Cartridge} {d : Definition}
    (hload : (s.sandbox.load c).1 = .ok d) : JustLoaded (s.load c).session c d := by
  obtain ⟨p, hinspect, hsandbox⟩ := Sandbox.load_of_ok (Prod.ext hload rfl)
  obtain ⟨hstopped, htick⟩ := stop_stopped s.scheduler
  have hrealm : (s.sandbox.load c).2.1.realm = some ⟨c, p⟩ := congrArg Sandbox.realm hsandbox
  rw [load_session_of_ok hload]
  constructor
  case game | palette | atlas | frames | timings | lastUpdate | overlay | pausedForOverlay |
      firstFrameQueued => rfl
  case display =>
    show (firstDisplay d.initial s.display).setPaused s.scheduler.stop.2.isPaused = _
    rw [firstDisplay_eq, h.grid, Scheduler.isPaused, hstopped]
    exact setPaused_self (paused_opening _ _)
  case realm => exact ⟨p, hinspect, hrealm⟩
  case stopped => exact hstopped
  case nextTick => exact htick
  case startable =>
    refine startAt_of_stopped ?_ hstopped
    show (s.sandbox.load c).2.1.realm.isSome = true
    rw [hrealm]
    rfl

/-! ### Failing -/

/-- What a load leaves of a game that fails with a cause, by how loading the game again ended. -/
structure FellBack (s : Session) (g : LoadedGame) (cause : LoadError)
    (again : Except LoadError Definition) (r : Reply (Except SessionError Definition)) : Prop where
  value : r.value = .error (.load cause)
  pending : r.session.deferred.pending = s.deferred.pending.filter fun e => e.2 ≠ .firstFrame
  back : ∀ d, again = .ok d → (s.load g.cartridge).value = .ok d ∧
    r.session = (s.load g.cartridge).session ∧ JustLoaded r.session g.cartridge d
  gone : ∀ e, again = .error e → (s.load g.cartridge).value = .error (.load e) ∧
    Emptied r.session

theorem fellBack_load (h : Coherent settings s) {g : LoadedGame} (hgame : s.game = some g)
    {c : Guest.Cartridge} {cause : LoadError} (hfail : (s.sandbox.load c).1 = .error cause) :
    FellBack s g cause ((s.sandbox.load c).2.1.load g.cartridge).1 (s.load c) := by
  have hvalue := s.load_error_value c hfail
  have hsession := load_session_of_error hfail
  obtain ⟨hoften, hafter⟩ := Sandbox.load_after_error hfail g.cartridge
  rcases hagain : (s.sandbox.load c).2.1.load g.cartridge with ⟨again | d, sandbox, told⟩
  · rw [restored_of_error (s := { s.cleared with sandbox := _ }) hgame hagain] at hsession
    rw [hagain] at hoften
    have hvacant := (h.load (s.loadLeaves_load c)).vacant
    have hrealm := congrArg Sandbox.realm (Sandbox.load_of_error hagain)
    refine ⟨hvalue, by rw [hsession]; rfl, nofun, ?_⟩
    intro e he
    obtain rfl : again = e := Except.error.inj he
    refine ⟨s.load_error_value g.cartridge hoften.symm, ?_⟩
    rw [hsession] at hvacant ⊢
    exact ⟨rfl, hvacant rfl, hrealm, rfl, rfl, startAt_of_not_isPlayable rfl⟩
  · rw [restored_of_ok (s := { s.cleared with sandbox := _ }) hgame hagain] at hsession
    rw [hagain] at hoften hafter
    have hdirect := load_session_of_ok hoften.symm
    rw [← hafter] at hdirect
    refine ⟨hvalue, by rw [hsession]; rfl, ?_, nofun⟩
    intro d' hd'
    obtain rfl : d = d' := Except.ok.inj hd'
    rw [hsession.trans hdirect.symm]
    exact ⟨s.load_ok_value g.cartridge hoften.symm, rfl, justLoaded_load h hoften.symm⟩

/-- Whatever was done to a session that has a game: a load that fails answers with its cause and
leaves what loading that game again leaves. If the game does not load again, there is none. -/
theorem fellBack_run (settings : Settings) (period : Nat) (renderer : Renderer)
    (services : Services) (ops : List Operation) {g : LoadedGame} {c : Guest.Cartridge}
    {cause : LoadError}
    (hgame : ((newWith settings (.new period) renderer services).run ops).session.game = some g)
    (hfail : (((newWith settings (.new period) renderer services).run ops).session.sandbox.load
      c).1 = .error cause) :
    let s := ((newWith settings (.new period) renderer services).run ops).session
    FellBack s g cause ((s.sandbox.load c).2.1.load g.cartridge).1 (s.load c) :=
  fellBack_load (coherent_run settings period renderer services ops) hgame hfail

/-- A cartridge without entry points. -/
def emptyCartridge : Guest.Cartridge := { name := "empty", size := 0, program := .script {} }

/-- A cartridge that ends in every frame, and can be withdrawn. -/
def perishableCartridge : Guest.Cartridge := { endingCartridge with perishable := true }

/-- A game that ended, with its report and its first frame still to come. -/
def endedRun : List Operation :=
  [.acquire, .load perishableCartridge, .setHook, .startAt 0, .poll 0]

/-- The same, and the game cannot be loaded again. -/
def withdrawnRun : List Operation := endedRun ++ [.withdraw "ending"]

/-- The game is there again after a load that failed, and is gone if it was withdrawn before. -/
theorem fellBack_run_ended :
    let s := ((newWith {} (.new standardPeriod) .blind .offline).run endedRun).session
    let t := ((newWith {} (.new standardPeriod) .blind .offline).run withdrawnRun).session
    let cause : LoadError := .missingEntryPoints [.metadata, .resources, .update]
    s.deferred.pending.map Prod.snd = [.submitScore 0, .fetchLeaderboard, .firstFrame] ∧
      (∃ g again, s.game = some g ∧ (s.sandbox.load emptyCartridge).1 = .error cause ∧
        FellBack s g cause again (s.load emptyCartridge) ∧ again.isOk = true) ∧
      ∃ g again, t.game = some g ∧ (t.sandbox.load emptyCartridge).1 = .error cause ∧
        FellBack t g cause again (t.load emptyCartridge) ∧ again.isOk = false := by
  intro s t cause
  have hfail : (s.sandbox.load emptyCartridge).1 = .error cause := rfl
  have hfail' : (t.sandbox.load emptyCartridge).1 = .error cause := rfl
  obtain ⟨g, hgame, hcartridge⟩ : ∃ g, s.game = some g ∧ g.cartridge = perishableCartridge :=
    ⟨_, rfl, rfl⟩
  obtain ⟨g', hgame', hcartridge'⟩ : ∃ g, t.game = some g ∧ g.cartridge = perishableCartridge :=
    ⟨_, rfl, rfl⟩
  have hback := fellBack_run {} standardPeriod .blind .offline endedRun hgame hfail
  have hgone := fellBack_run {} standardPeriod .blind .offline withdrawnRun hgame' hfail'
  rw [hcartridge] at hback
  rw [hcartridge'] at hgone
  exact ⟨rfl, ⟨g, _, hgame, hfail, hback, rfl⟩, g', _, hgame', hfail', hgone, rfl⟩

end Session

end Handheld
