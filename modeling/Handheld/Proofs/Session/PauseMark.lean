import Handheld.Proofs.Scheduler.Delta
import Handheld.Proofs.Session.Coherence
import Handheld.Proofs.Session.Effects
import Handheld.Proofs.Session.Ticks

/-!
# The pause mark

Whether a game is paused is stored twice: the scheduler pauses, and a mark on the display makes the
renderer dim the game. Pausing, resuming, resetting and loading set the mark to what the scheduler
says, and a session without a game has no mark. Nothing else moves one of them and leaves the
other, except for a stop. A stop of a paused game leaves the mark, and the game is dimmed when it
is started again, until it is paused, resumed, reset or loaded.

So the mark is there whenever the scheduler is paused, after any operations. It is there only
then, all the time, exactly if no paused game was ever stopped.

* `Follows`: the mark says what the scheduler says, or neither of them moved;
* `follows_poll`, `follows_load`, `follows_step`: what every operation but a stop of a paused game
  does to them;
* `DrawsPlain`, `drawsPlain_poll`: the frame that an update tick hands to the renderer;
* `Mirrored`: what the mark is meant to be;
* `pauseMark_run`: it is so throughout a run exactly if no paused game is stopped in it;
* `dimmed_restarted`: a game that runs and is dimmed.
-/

namespace Handheld

/-! ### What leaves the scheduler as it was -/

namespace Scheduler

theorem isPaused_of_ne {s : Scheduler} (h : s.state ≠ .paused) : s.isPaused = false :=
  decide_eq_false h

/-- A start finds nothing paused, and pauses nothing. -/
theorem isPaused_start (s : Scheduler) (now : Int) : (s.start now).2.isPaused = s.isPaused := by
  unfold start
  split
  · rename_i hstopped
    rw [isPaused, isPaused, hstopped]
    rfl
  · rfl

theorem isPaused_stop (s : Scheduler) : s.stop.2.isPaused = false :=
  isPaused_of_ne fun h => by
    rw [(Session.stop_stopped s).1] at h
    cases h

end Scheduler

namespace Session

/-- The mark says what the scheduler says. -/
def Marked (s : Session) : Prop := s.display.paused = s.scheduler.isPaused

/-- After an operation the mark says what the scheduler says, or neither of them moved. -/
def Follows (s t : Session) : Prop :=
  t.Marked ∨
    t.display.paused = s.display.paused ∧ t.scheduler.isPaused = s.scheduler.isPaused

variable {settings : Settings} {s t u : Session}

theorem Follows.same (hdisplay : t.display.paused = s.display.paused)
    (hscheduler : t.scheduler.isPaused = s.scheduler.isPaused) : Follows s t :=
  Or.inr ⟨hdisplay, hscheduler⟩

theorem Follows.refl (s : Session) : Follows s s := .same rfl rfl

theorem Follows.marked (h : Follows s t) (hs : s.Marked) : t.Marked := by
  rcases h with hmarked | ⟨hdisplay, hscheduler⟩
  · exact hmarked
  · rw [Marked, hdisplay, hscheduler]
    exact hs

theorem Follows.trans (hst : Follows s t) (htu : Follows t u) : Follows s u := by
  rcases hst with hmarked | ⟨hdisplay, hscheduler⟩
  · exact Or.inl (htu.marked hmarked)
  · rcases htu with hmarked | ⟨hdisplay', hscheduler'⟩
    · exact Or.inl hmarked
    · exact .same (hdisplay'.trans hdisplay) (hscheduler'.trans hscheduler)

/-! ### Operations that set the mark -/

theorem follows_marked (s t : Session) : Follows s t.marked := Or.inl rfl

theorem follows_begun (s t : Session) : Follows s t.begun := Or.inl rfl

theorem follows_unloaded (s : Session) (h : t.scheduler.isPaused = false) : Follows s t.unloaded :=
  Or.inl h.symm

/-- A load ends with a game that begins or without any game. -/
theorem follows_load (h : Coherent settings s) {c : Guest.Cartridge} {e : Event}
    (hends : LoadLeaves s c e t) : Follows s t := by
  have hstop := s.scheduler.isPaused_stop
  cases hends with
  | loaded => exact follows_begun s _
  | restored => exact follows_begun s _
  | lost => exact follows_unloaded s hstop
  | refused _ hgame =>
    -- without a game there was no mark, and nothing to be stopped
    refine Or.inl ?_
    show s.display.paused = s.scheduler.stop.2.isPaused
    rw [(h.vacant hgame).display, hstop]
    rfl

theorem follows_dispose (s : Session) : Follows s s.dispose.session :=
  follows_unloaded s s.scheduler.isPaused_stop

/-! ### Operations that leave both -/

theorem follows_startAt (s : Session) (now : Int) : Follows s (s.startAt now).session := by
  unfold startAt
  split
  · exact .refl s
  · exact .same rfl (s.scheduler.isPaused_start now)

theorem paused_update (s : Session) (now : Int) (delta : Nat) :
    (s.update now delta).1.display.paused = s.display.paused := by
  unfold update
  simp only
  split <;> exact Frame.paused_apply _ s.display

/-- A game that ends was running, so stopping it leaves no mark. -/
theorem TickLeaves.isPaused {sch after : Scheduler} {now : Int} {tick : Option Tick}
    (h : TickLeaves sch now tick after) : after.isPaused = sch.isPaused := by
  cases h with
  | idle | drawn | updated => rfl
  | ended _ hrunning =>
    exact (Scheduler.isPaused_of_ne (by rw [hrunning]; exact nofun)).symm

/-- A poll neither pauses nor resumes a game. -/
theorem isPaused_poll (s : Session) (now : Int) :
    (s.poll now).session.scheduler.isPaused = s.scheduler.isPaused :=
  (s.tickLeaves_poll now).isPaused

theorem paused_after (d : Display) (answer : Except GuestError FrameResult) :
    (d.after answer).paused = d.paused := by
  cases answer with
  | error cause => rfl
  | ok r => exact Frame.paused_apply r.frame d

theorem follows_poll (s : Session) (now : Int) : Follows s (s.poll now).session := by
  refine .same ?_ (s.isPaused_poll now)
  have hleaves := s.pollLeaves_poll now
  generalize s.updateTick? now = tick at hleaves
  generalize (s.poll now).session = t at hleaves ⊢
  cases hleaves with
  | idle | drawn => rfl
  | updated tick => exact paused_after s.display tick.answer

/-! ### Every operation -/

theorem follows_closeLeaderboard (s : Session) : Follows s s.closeLeaderboard.session := by
  unfold closeLeaderboard
  split
  · exact follows_marked s _
  · exact .same rfl rfl

theorem follows_pausedFor (s : Session) : Follows s s.pausedFor.1 := by
  unfold pausedFor
  split
  · exact Or.inl rfl
  · exact .refl s

theorem follows_openLeaderboard (s : Session) : Follows s s.openLeaderboard.session := by
  have hpaused := s.follows_pausedFor
  unfold openLeaderboard
  generalize s.pausedFor = p at hpaused ⊢
  obtain ⟨t, told⟩ := p
  simp only at hpaused ⊢
  split
  · exact hpaused.trans (.same rfl rfl)
  · exact hpaused.trans t.follows_closeLeaderboard

/-- Apart from a stop of a paused game, no operation moves one without the other. -/
theorem follows_step (h : Coherent settings s) {op : Operation}
    (hop : op = .stop → s.scheduler.isPaused = false) : Follows s (s.step op).session := by
  have hload : ∀ c, Follows s (s.load c).session := fun c => follows_load h (loadLeaves_load s c)
  cases op with
  | stop =>
    refine .same rfl ?_
    rw [hop rfl]
    exact s.scheduler.isPaused_stop
  | load c => exact hload c
  | loadBundled name =>
    show Follows s (s.loadBundled name).session
    unfold loadBundled
    split
    · exact hload _
    · exact .refl s
  | create description =>
    show Follows s (s.create description).session
    unfold create
    split
    · exact .refl s
    · exact hload _
  | restart clock =>
    show Follows s (s.restart clock).session
    unfold restart
    split
    · exact .refl s
    · rename_i c _
      simp only
      split
      · exact hload c
      · exact (hload c).trans ((s.load c).session.follows_startAt clock)
  | startAt now => exact s.follows_startAt now
  | pause => exact follows_marked s _
  | unpause => exact follows_marked s _
  | reset => exact follows_begun s s
  | poll now => exact s.follows_poll now
  | openLeaderboard => exact s.follows_openLeaderboard
  | closeLeaderboard => exact s.follows_closeLeaderboard
  | dispose => exact s.follows_dispose
  | keyDown code =>
    show Follows s (s.keyDown code).2
    unfold keyDown
    split <;> exact .same rfl rfl
  | keyUp code =>
    show Follows s (s.keyUp code).2
    unfold keyUp
    split <;> exact .same rfl rfl
  | acquire | press | release | setHook | arrange | withdraw => exact .same rfl rfl

/-- A paused game is marked, whatever else is. -/
theorem paused_step (h : Coherent settings s) (op : Operation)
    (hs : s.scheduler.isPaused = true → s.display.paused = true)
    (hpaused : (s.step op).session.scheduler.isPaused = true) :
    (s.step op).session.display.paused = true := by
  have hop : op = .stop → s.scheduler.isPaused = false := by
    intro hop
    subst hop
    exact absurd (hpaused.symm.trans s.scheduler.isPaused_stop) Bool.noConfusion
  rcases follows_step h hop with hmarked | ⟨hdisplay, hscheduler⟩
  · exact hmarked.trans hpaused
  · rw [hdisplay]
    exact hs (hscheduler.symm.trans hpaused)

/-! ### The frames of a poll -/

end Session

/-- The scene that an effect hands to the renderer. -/
def Effect.scene? : Effect → Option Scene
  | .rendered scene => some scene
  | _ => none

@[simp] theorem Effect.scenes_tell (ns : List Notice) : (tell ns).filterMap scene? = [] :=
  filterMap_told (fun _ _ => rfl) none ns

namespace Session

theorem scenes_runTask (s : Session) (task : DeferredTask) :
    (s.runTask task).2.filterMap Effect.scene? = [] := by
  cases task with
  | submitScore score =>
    unfold runTask submitScore
    cases s.services.submit <;>
      simp only [List.cons_append, List.filterMap_cons, List.filterMap_append, Effect.scene?,
        Effect.scenes_tell, List.append_nil]
  | fetchLeaderboard =>
    unfold runTask fetchLeaderboard
    cases s.services.fetch <;>
      simp only [List.cons_append, List.filterMap_cons, List.filterMap_append, Effect.scene?,
        Effect.scenes_tell, List.append_nil]
  | firstFrame =>
    show s.showFirstFrame.filterMap Effect.scene? = []
    unfold showFirstFrame
    split
    · simp only [List.filterMap_append, Effect.scenes_tell, List.nil_append]
      rfl
    · rfl

theorem scenes_runTasks (s : Session) (tasks : List DeferredTask) :
    (s.runTasks tasks).2.filterMap Effect.scene? = [] := by
  induction tasks generalizing s with
  | nil => rfl
  | cons task tasks ih =>
    show ((s.runTask task).2 ++ ((s.runTask task).1.runTasks tasks).2).filterMap _ = _
    rw [List.filterMap_append, scenes_runTask, ih]
    rfl

theorem scenes_update (s : Session) (now : Int) (delta : Nat) :
    (s.update now delta).2.filterMap Effect.scene? = [] := by
  unfold update endGame
  simp only
  split <;>
    simp only [List.cons_append, List.filterMap_cons, List.filterMap_append, Effect.scene?,
      Effect.scenes_tell, List.append_nil]

theorem scenes_render (s : Session) : s.render.2.filterMap Effect.scene? = [s.scene] := by
  unfold render
  rw [List.filterMap_append, Effect.scenes_tell]
  rfl

/-- What an operation hands to the renderer: one frame, without dimming and without a leaderboard
over it. If the renderer keeps the frame, that is what it keeps. -/
def DrawsPlain {α : Type} (r : Reply α) : Prop :=
  ∃ scene, r.effects.filterMap Effect.scene? = [scene] ∧ scene.display.paused = false ∧
    scene.compose = scene.picture ∧
    ∀ image, r.session.lastFrame? = some image → image = scene.picture

theorem compose_of_not_paused {scene : Scene} (h : scene.display.paused = false) :
    scene.compose = scene.picture := by
  rw [Scene.compose, Scene.drawPause, h]
  rfl

theorem lastFrame_render {s : Session} {image : Image} (h : s.render.1.lastFrame? = some image) :
    image = s.scene.compose := by
  have hlast : (s.renderer.render s.scene).lastFrame? = some image := h
  cases hrenderer : s.renderer with
  | blind =>
    rw [hrenderer] at hlast
    cases hlast
  | compositor c =>
    rw [hrenderer] at hlast
    exact Option.some.inj (hlast.symm.trans (c.lastFrame?_render s.scene))

/-- A poll that runs an update tick finds the scheduler running, and updates and renders once
after the deferred work. -/
theorem poll_update {s : Session} {now : Int} {delta : Nat}
    (htick : (s.poll now).value = some (.update delta)) :
    s.scheduler.state = .running ∧ ∃ (t : Session) (told : List Notice), t.display = s.display ∧
      (s.poll now).session
        = (((t.update now delta).1.render.1.promiseFrame now).finishTick now).1 ∧
      (s.poll now).effects = (s.runDeferred now).2
        ++ .ticked :: ((t.update now delta).2 ++ (t.update now delta).1.render.2)
        ++ Effect.tell told := by
  rcases hbegin : s.scheduler.beginTick now with ⟨_ | tick, begun⟩
  · obtain ⟨board, submission, hpoll⟩ := poll_of_none hbegin
    rw [hpoll] at htick
    cases htick
  · obtain ⟨board, submission, hpoll⟩ := poll_of_some hbegin
    rw [hpoll] at htick ⊢
    cases htick
    refine ⟨(Scheduler.beginTick_update (congrArg Prod.fst hbegin)).1, ?_⟩
    exact ⟨{ s with
      deferred := s.deferred.rest now, board := board, submission := submission
      scheduler := begun }, _, rfl, rfl, (List.append_assoc ..).symm⟩

/-- The frame of an update tick is dimmed only by a mark that was there before the tick. -/
theorem drawsPlain_poll {s : Session} {now : Int} {delta : Nat} (hmark : s.display.paused = false)
    (htick : (s.poll now).value = some (.update delta)) : DrawsPlain (s.poll now) := by
  obtain ⟨-, t, told, hdisplay, hsession, heffects⟩ := poll_update htick
  have hscene : (t.update now delta).1.scene.display.paused = false := by
    refine (t.paused_update now delta).trans ?_
    rw [hdisplay]
    exact hmark
  refine ⟨(t.update now delta).1.scene, ?_, hscene, compose_of_not_paused hscene, ?_⟩
  · have hdone := scenes_runTasks { s with deferred := s.deferred.rest now } (s.deferred.due now)
    rw [heffects, List.filterMap_append, List.filterMap_append, Effect.scenes_tell,
      List.append_nil, show (s.runDeferred now).2.filterMap Effect.scene? = [] from hdone]
    show ((t.update now delta).2 ++ (t.update now delta).1.render.2).filterMap Effect.scene? = _
    rw [List.filterMap_append, scenes_update, scenes_render]
    rfl
  · intro image himage
    rw [← compose_of_not_paused hscene]
    refine lastFrame_render ?_
    rw [hsession] at himage
    have hkept : ((t.update now delta).1.render.1.promiseFrame now).lastFrame?
        = (t.update now delta).1.render.1.lastFrame? := by
      unfold promiseFrame
      split <;> rfl
    exact hkept.symm.trans himage

/-! ### Every reachable session -/

/-- The mark is what the scheduler says, and no frame of an update tick is dimmed. -/
structure Mirrored (s : Session) : Prop where
  mark : s.display.paused = s.scheduler.isPaused
  frames : ∀ now delta, (s.poll now).value = some (.update delta) → DrawsPlain (s.poll now)

theorem isPaused_of_update {s : Session} {now : Int} {delta : Nat}
    (htick : (s.poll now).value = some (.update delta)) : s.scheduler.isPaused = false :=
  Scheduler.isPaused_of_ne (by rw [(poll_update htick).1]; exact nofun)

theorem Marked.mirrored {s : Session} (h : s.Marked) : Mirrored s where
  mark := h
  frames := fun _ _ htick => drawsPlain_poll (h.trans (isPaused_of_update htick)) htick

theorem marked_run {settings : Settings} {s : Session} (h : Coherent settings s) (hs : s.Marked)
    {ops : List Operation}
    (hops : ∀ before after, ops = before ++ .stop :: after →
      (s.run before).session.scheduler.isPaused = false) : (s.run ops).session.Marked := by
  induction ops generalizing s with
  | nil => exact hs
  | cons op ops ih =>
    have hop : op = .stop → s.scheduler.isPaused = false :=
      fun hop => hops [] ops (congrArg (· :: ops) hop)
    exact ih ((rule_coherent settings).step s op h) ((follows_step h hop).marked hs)
      fun before after hsplit => hops (op :: before) after (congrArg (op :: ·) hsplit)

theorem paused_of_isPaused_run {settings : Settings} {s : Session} (h : Coherent settings s)
    (hs : s.scheduler.isPaused = true → s.display.paused = true) (ops : List Operation)
    (hpaused : (s.run ops).session.scheduler.isPaused = true) :
    (s.run ops).session.display.paused = true := by
  induction ops generalizing s with
  | nil => exact hs hpaused
  | cons op ops ih => exact ih ((rule_coherent settings).step s op h) (paused_step h op hs) hpaused

/-- A stop leaves the mark, and nothing is paused after it. -/
theorem not_marked_stop {s : Session} (hmark : s.display.paused = true) :
    ¬ s.stop.session.Marked := by
  intro hmarked
  have hnone : s.display.paused = false := hmarked.trans s.scheduler.isPaused_stop
  exact absurd (hmark.symm.trans hnone) Bool.noConfusion

/-- Whenever the scheduler is paused the display is marked. The mark is what the scheduler says,
and updates draw undimmed frames, throughout a run exactly if no paused game is stopped in it. -/
theorem pauseMark_run (settings : Settings) (period : Nat) (renderer : Renderer)
    (services : Services) (ops : List Operation) :
    let s := newWith settings (.new period) renderer services
    ((s.run ops).session.scheduler.isPaused = true →
        (s.run ops).session.display.paused = true) ∧
      ((∀ before after, ops = before ++ after → Mirrored (s.run before).session) ↔
        ∀ before after, ops = before ++ .stop :: after →
          (s.run before).session.scheduler.isPaused = false) := by
  intro s
  have hcoherent := coherent_newWith settings period renderer services
  have hpaused := paused_of_isPaused_run hcoherent nofun
  refine ⟨hpaused ops, ?_, ?_⟩
  · intro hmirrored before after hops
    have hsplit : ops = (before ++ [.stop]) ++ after := by
      rw [hops, List.append_assoc]
      rfl
    have hmark := (hmirrored _ _ hsplit).mark
    rw [run_append] at hmark
    cases hstopped : (s.run before).session.scheduler.isPaused with
    | false => rfl
    | true => exact absurd hmark (not_marked_stop (hpaused before hstopped))
  · intro hstops before after hops
    refine (marked_run hcoherent rfl ?_).mirrored
    intro earlier later hbefore
    refine hstops earlier (later ++ after) ?_
    rw [hops, hbefore, List.append_assoc]
    rfl

/-- A game without anything to show. -/
def blankCartridge : Guest.Cartridge :=
  { name := "blank"
    size := 0
    program := .script
      { metadata := some { action := .give (.value (.object [])) }
        resources := some { action := .give (.value (.object [])) }
        update := some { entries := [] } } }

/-- A game that is stopped while it is paused is dimmed when it is started again. -/
theorem dimmed_restarted :
    let ops := [.acquire, .load blankCartridge, .startAt 0, .pause, .stop, .startAt 1]
    let s := ((newWith {} (.new standardPeriod) .blind .offline).run ops).session
    s.scheduler.state = .running ∧ s.display.paused = true ∧
      (s.poll 1).value = some (.update 0) ∧
      ((s.poll 1).effects.filterMap Effect.scene?).map (fun scene => scene.display.paused)
        = [true] ∧
      ¬ Mirrored s := by
  refine ⟨rfl, rfl, rfl, rfl, fun hmirrored => ?_⟩
  exact absurd hmirrored.mark nofun

end Session

end Handheld
