import Handheld.Proofs.Session.Poll

/-!
# What a session holds together

A session stores apart what belongs together: the game, the cartridge in the sandbox, the atlas,
the palette, the display and the scheduler. Every operation moves them together, also a load that
fails, a load that fails and cannot bring back the game that was there, and a disposal. So a game
is there exactly if the sandbox has a cartridge, everything else was made for that game, and
without a game there is nothing left of any game that was there before, and nothing ticks.

The mark that dims a paused game and the registers of a display are no part of this while there
is a game: then they are the game's own.

* `Playing`: everything is made for the game that is there;
* `Vacant`: nothing is left of any game;
* `Coherent`: one or the other, by whether there is a game;
* `coherent_installed`, `coherent_unloaded`: the two ends that a load, or what is left of it, has;
* `coherent_run`: a session is coherent after any operations.
-/

namespace Handheld.Session

/-! ### The invariant -/

/-- Everything was made for a game, and the sandbox runs what the game was loaded from. -/
structure Playing (s : Session) (g : LoadedGame) : Prop where
  palette : s.palette = g.definition.palette
  atlas : s.atlas = .rasterize g.definition.sprites g.definition.palette s.settings.atlas
  realm : ∃ p q, (Sandbox.inspect g.cartridge.program).1 = .ok (g.definition, p) ∧
    p.Reaches q ∧ s.sandbox.realm = some ⟨g.cartridge, q⟩

/-- Nothing is left of any game, and nothing ticks. -/
structure Vacant (s : Session) : Prop where
  stopped : s.scheduler.state = .stopped
  nextTick : s.scheduler.nextTick = none
  atlas : s.atlas = .empty s.settings.atlas
  palette : s.palette = .standard
  display : s.display = .new s.settings.grid

/-- What is stored apart fits together. -/
structure Coherent (settings : Settings) (s : Session) : Prop where
  settings : s.settings = settings
  grid : s.display.grid = s.settings.grid
  loaded : s.game.isSome = s.sandbox.isLoaded
  playing : ∀ g, s.game = some g → Playing s g
  vacant : s.game = none → Vacant s

/-! ### What does not matter to it -/

variable {settings : Settings} {s t : Session}

/-- With a game the scheduler and the display are free, apart from the grid. -/
theorem Coherent.congr (h : Coherent settings s) (hsettings : t.settings = s.settings)
    (hgrid : t.display.grid = s.display.grid) (hgame : t.game = s.game)
    (hpalette : t.palette = s.palette) (hatlas : t.atlas = s.atlas)
    (hrealm : t.sandbox.realm = s.sandbox.realm)
    (hvacant : s.game = none → t.scheduler.state = s.scheduler.state ∧
      t.scheduler.nextTick = s.scheduler.nextTick ∧ t.display = s.display) :
    Coherent settings t where
  settings := hsettings.trans h.settings
  grid := by rw [hgrid, hsettings, h.grid]
  loaded := by
    rw [Sandbox.isLoaded, hgame, hrealm]
    exact h.loaded
  playing := by
    intro g hg
    have hs := h.playing g (hgame ▸ hg)
    constructor
    case palette => rw [hpalette, hs.palette]
    case atlas => rw [hatlas, hsettings, hs.atlas]
    case realm => rw [hrealm]; exact hs.realm
  vacant := by
    intro hnone
    rw [hgame] at hnone
    have hs := h.vacant hnone
    obtain ⟨hstate, htick, hdisplay⟩ := hvacant hnone
    constructor
    case stopped => rw [hstate, hs.stopped]
    case nextTick => rw [htick, hs.nextTick]
    case atlas => rw [hatlas, hsettings, hs.atlas]
    case palette => rw [hpalette, hs.palette]
    case display => rw [hdisplay, hsettings, hs.display]

/-- A scheduler that is going belongs to a game. -/
theorem Coherent.game_ne_none (h : Coherent settings s) (hactive : s.scheduler.isActive = true) :
    s.game ≠ none := by
  intro hnone
  have hstopped := (h.vacant hnone).stopped
  unfold Scheduler.isActive at hactive
  rw [hstopped] at hactive
  exact absurd hactive Bool.false_ne_true

/-! ### The ends of a load -/

theorem grid_firstDisplay (initial : Option FrameResult) (d : Display) :
    (firstDisplay initial d).grid = d.grid := by
  cases initial with
  | none => rfl
  | some r => exact Frame.grid_apply r.frame d.reset

/-- What a load that succeeds leaves is coherent, whatever was there before. -/
theorem coherent_installed (hsettings : s.settings = settings)
    (hgrid : s.display.grid = s.settings.grid) {c : Guest.Cartridge} {d : Definition}
    {p : Guest.Process} (hinspect : (Sandbox.inspect c.program).1 = .ok (d, p))
    (hrealm : s.sandbox.realm = some ⟨c, p⟩) : Coherent settings (s.installed c d) where
  settings := hsettings
  grid := (grid_firstDisplay _ s.display).trans hgrid
  loaded := by
    show true = s.sandbox.realm.isSome
    rw [hrealm]
    rfl
  playing := by
    intro g hg
    have hg' : ⟨d, c⟩ = g := Option.some.inj hg
    subst hg'
    exact ⟨rfl, rfl, p, p, hinspect, .refl, hrealm⟩
  vacant := fun hnone => nomatch hnone

/-- What remains of a stopped session without a cartridge is coherent. -/
theorem coherent_unloaded (hsettings : s.settings = settings)
    (hgrid : s.display.grid = s.settings.grid) (hrealm : s.sandbox.realm = none)
    (hstopped : s.scheduler.state = .stopped) (htick : s.scheduler.nextTick = none) :
    Coherent settings s.unloaded where
  settings := hsettings
  grid := hgrid
  loaded := by
    show false = s.sandbox.realm.isSome
    rw [hrealm]
    rfl
  playing := fun _ hg => nomatch hg
  vacant := fun _ =>
    { stopped := hstopped
      nextTick := htick
      atlas := rfl
      palette := rfl
      display := by
        show s.display.reset = _
        rw [Display.reset_eq_new, hgrid]
        rfl }

theorem Coherent.load (h : Coherent settings s) {c : Guest.Cartridge} {e : Event}
    (hends : LoadLeaves s c e t) : Coherent settings t := by
  obtain ⟨hstopped, htick⟩ := stop_stopped s.scheduler
  cases hends with
  | loaded hload =>
    rename_i sandbox _
    obtain ⟨p, hinspect, hsandbox⟩ := Sandbox.load_of_ok hload
    exact coherent_installed (s := { s.cleared with sandbox := sandbox }) h.settings h.grid
      hinspect (congrArg Sandbox.realm hsandbox)
  | refused hload hgame =>
    have hsandbox := Sandbox.load_of_error hload
    have hs := h.vacant hgame
    -- a session without a game had no cartridge to lose
    have hrealm : s.sandbox.realm = none := by
      have hloaded := h.loaded
      rw [hgame] at hloaded
      exact Option.isNone_iff_eq_none.mp (by
        rw [← Option.not_isSome, ← Sandbox.isLoaded, ← hloaded]
        rfl)
    refine h.congr rfl rfl rfl rfl rfl ?_ fun _ => ⟨?_, ?_, rfl⟩
    · rw [hrealm]
      exact congrArg Sandbox.realm hsandbox
    · rw [hs.stopped]
      exact hstopped
    · rw [hs.nextTick]
      exact htick
  | restored hload hgame hagain =>
    rename_i sandbox _
    obtain ⟨p, hinspect, hsandbox⟩ := Sandbox.load_of_ok hagain
    exact coherent_installed (s := { s.cleared with sandbox := sandbox }) h.settings h.grid
      hinspect (congrArg Sandbox.realm hsandbox)
  | lost _ _ hagain =>
    have hsandbox := Sandbox.load_of_error hagain
    exact coherent_unloaded h.settings h.grid (congrArg Sandbox.realm hsandbox) hstopped htick

/-! ### The other primitive operations -/

theorem Coherent.startAt (h : Coherent settings s) (now : Int) :
    Coherent settings (s.startAt now).session := by
  unfold Session.startAt
  split
  · exact h
  · rename_i hplayable
    have hgame : s.game ≠ none := by
      intro hnone
      simp [isPlayable, hnone] at hplayable
    exact h.congr rfl rfl rfl rfl rfl rfl fun hnone => absurd hnone hgame

theorem Coherent.stop (h : Coherent settings s) : Coherent settings s.stop.session := by
  obtain ⟨hstopped, htick⟩ := stop_stopped s.scheduler
  refine h.congr rfl rfl rfl rfl rfl rfl fun hnone => ⟨?_, ?_, rfl⟩
  · rw [(h.vacant hnone).stopped]
    exact hstopped
  · rw [(h.vacant hnone).nextTick]
    exact htick

/-- Neither pausing nor resuming means anything to a stopped scheduler. -/
theorem Coherent.marked (h : Coherent settings s) (sch : Scheduler)
    (hsame : s.scheduler.state = .stopped → sch = s.scheduler) :
    Coherent settings { s with scheduler := sch }.marked := by
  refine h.congr rfl rfl rfl rfl rfl rfl fun hnone => ?_
  have hs := h.vacant hnone
  have hsch := hsame hs.stopped
  subst hsch
  refine ⟨rfl, rfl, ?_⟩
  show s.display.setPaused s.scheduler.isPaused = s.display
  rw [hs.display]
  rw [Scheduler.isPaused, hs.stopped]
  rfl

theorem Coherent.pause (h : Coherent settings s) : Coherent settings s.pause.session := by
  refine h.marked s.scheduler.pause.2 fun hstopped => ?_
  rw [Scheduler.pause, hstopped]

theorem Coherent.unpause (h : Coherent settings s) : Coherent settings s.unpause.session := by
  have huncovered : Coherent settings s.uncovered :=
    h.congr rfl rfl rfl rfl rfl rfl fun _ => ⟨rfl, rfl, rfl⟩
  refine huncovered.marked s.scheduler.unpause.2 fun hstopped => ?_
  have hstopped' : s.scheduler.state = .stopped := hstopped
  rw [Scheduler.unpause, hstopped']
  rfl

theorem Coherent.reset (h : Coherent settings s) : Coherent settings s.reset.session := by
  refine h.congr rfl (grid_firstDisplay _ s.display) rfl rfl rfl rfl fun hnone => ⟨rfl, rfl, ?_⟩
  have hs := h.vacant hnone
  have hinitial : s.initial? = none := by
    rw [initial?, hnone]
    rfl
  show (firstDisplay s.initial? s.display).setPaused s.scheduler.isPaused = s.display
  rw [hinitial, hs.display]
  rw [Scheduler.isPaused, hs.stopped]
  rfl

theorem realm_release (x : Sandbox) : x.release.1.realm = none := by
  rw [Sandbox.release_fst]

theorem Coherent.dispose (h : Coherent settings s) : Coherent settings s.dispose.session := by
  obtain ⟨hstopped, htick⟩ := stop_stopped s.scheduler
  exact coherent_unloaded h.settings h.grid (realm_release s.sandbox) hstopped htick

theorem Coherent.poll (h : Coherent settings s) {now : Int} {tick : Option UpdateTick}
    (hends : PollLeaves s now tick t) : Coherent settings t := by
  cases hends with
  | idle => exact h.congr rfl rfl rfl rfl rfl rfl fun _ => ⟨rfl, rfl, rfl⟩
  | drawn hactive =>
    exact h.congr rfl rfl rfl rfl rfl rfl fun hnone => absurd hnone (h.game_ne_none hactive)
  | updated tick delta snapshot promised hactive =>
    obtain ⟨g, hg⟩ := Option.ne_none_iff_exists'.mp (h.game_ne_none hactive)
    have hs := h.playing g hg
    obtain ⟨p, q, hinspect, hreaches, hrealm⟩ := hs.realm
    rcases s.sandbox.invoke_realm delta snapshot with
      ⟨hnone, _⟩ | ⟨realm, r, hrealm', hcalled, hafter⟩
    · rw [hrealm] at hnone
      cases hnone
    · rw [hrealm] at hrealm'
      cases hrealm'
      constructor
      case settings => exact h.settings
      case grid => exact (grid_after s.display tick.answer).trans h.grid
      case loaded =>
        show s.game.isSome = (s.sandbox.invoke delta snapshot).2.1.realm.isSome
        rw [hg, hafter]
        rfl
      case playing =>
        intro g' hg'
        have hsame : g = g' := Option.some.inj (hg.symm.trans hg')
        subst hsame
        exact ⟨hs.palette, hs.atlas, p, r, hinspect, hreaches.trans hcalled, hafter⟩
      case vacant => exact fun hnone => absurd (hg.symm.trans hnone) (Option.some_ne_none g)

/-! ### Every reachable session -/

theorem rule_coherent (settings : Settings) :
    Rule fun s _ t => Coherent settings s → Coherent settings t where
  aside _ _ _ _ _ _ _ _ h := h.congr rfl rfl rfl rfl rfl rfl fun _ => ⟨rfl, rfl, rfl⟩
  followed hst htu h := htu (hst h)
  acquire s h := by
    refine h.congr rfl rfl rfl rfl rfl ?_ fun _ => ⟨rfl, rfl, rfl⟩
    show s.sandbox.acquire.1.realm = s.sandbox.realm
    rw [Sandbox.acquire_fst]
  withdraw _ _ h := h.congr rfl rfl rfl rfl rfl rfl fun _ => ⟨rfl, rfl, rfl⟩
  load s c h := h.load (loadLeaves_load s c)
  startAt _ now h := h.startAt now
  stop _ h := h.stop
  pause _ h := h.pause
  unpause _ h := h.unpause
  reset _ h := h.reset
  dispose _ h := h.dispose
  poll s now h := h.poll (s.pollLeaves_poll now)

theorem coherent_newWith (settings : Settings) (period : Nat) (renderer : Renderer)
    (services : Services) :
    Coherent settings (newWith settings (.new period) renderer services) where
  settings := rfl
  grid := rfl
  loaded := rfl
  playing := fun _ hg => nomatch hg
  vacant := fun _ => ⟨rfl, rfl, rfl, rfl, rfl⟩

/-- Whatever is done to a session that began with a scheduler of its own, with whatever
cartridges, services and failures: what is stored apart fits together. -/
theorem coherent_run (settings : Settings) (period : Nat) (renderer : Renderer)
    (services : Services) (ops : List Operation) :
    Coherent settings ((newWith settings (.new period) renderer services).run ops).session :=
  (rule_coherent settings).run (coherent_newWith settings period renderer services) ops

end Handheld.Session
