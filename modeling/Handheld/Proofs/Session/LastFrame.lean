import Handheld.Proofs.Session.PauseMark
import Handheld.Proofs.Session.Reports

/-!
# The last frame

Only a poll renders, and it renders what the session shows after it. A renderer that keeps its
screen shows the image of the scene that was rendered last, whatever was done since.

* `scenes_poll`, `renderer_poll`: what a poll renders;
* `scenes_step`, `renderer_step`: nothing else renders or touches the renderer;
* `lastScene?`, `lastFrame_run`: the last frame after a run.
-/

namespace Handheld

namespace Renderer

/-- Whether a renderer keeps what it renders. -/
def keeps : Renderer → Bool
  | .compositor _ => true
  | .blind => false

variable {r : Renderer}

theorem keeps_render (r : Renderer) (scene : Scene) : (r.render scene).keeps = r.keeps := by
  cases r <;> rfl

theorem lastFrame?_render (h : r.keeps = true) (scene : Scene) :
    (r.render scene).lastFrame? = some scene.compose := by
  cases r with
  | compositor c => exact c.lastFrame?_render scene
  | blind => cases h

theorem lastFrame?_of_not_keeps (h : r.keeps = false) : r.lastFrame? = none := by
  cases r with
  | compositor c => cases h
  | blind => rfl

end Renderer

namespace Session

variable {s : Session}

/-! ### Polls -/

/-- A poll renders what the session shows after it, if it runs a tick. -/
theorem scenes_poll (s : Session) (now : Int) :
    (s.poll now).effects.filterMap Effect.scene?
      = if (s.poll now).value.isSome then [(s.poll now).session.scene] else [] := by
  have hdone : (s.runDeferred now).2.filterMap Effect.scene? = [] :=
    scenes_runTasks { s with deferred := s.deferred.rest now } (s.deferred.due now)
  rcases htick : s.scheduler.beginTick now with ⟨_ | tick, begun⟩
  · obtain ⟨board, submission, hpoll⟩ := poll_of_none htick
    rw [hpoll]
    exact hdone
  · obtain ⟨board, submission, hpoll⟩ := poll_of_some htick
    rw [hpoll]
    simp only
    rw [List.filterMap_append, hdone, List.nil_append, List.filterMap_append]
    refine (congrArg (_ ++ ·) (Effect.scenes_tell _)).trans ?_
    rw [List.append_nil]
    cases tick with
    | renderOnly => exact scenes_render _
    | update delta =>
      let t : Session :=
        { s with
          deferred := s.deferred.rest now, board := board, submission := submission
          scheduler := begun }
      have hscene : ((t.update now delta).1.render.1.promiseFrame now).scene
          = (t.update now delta).1.scene := by
        obtain ⟨queued, promised, -, hpromise⟩ :=
          (t.update now delta).1.render.1.promiseFrame_eq now
        rw [hpromise]
        rfl
      show ((t.update now delta).2 ++ (t.update now delta).1.render.2).filterMap Effect.scene?
        = [((t.update now delta).1.render.1.promiseFrame now).scene]
      rw [hscene, List.filterMap_append, scenes_update, scenes_render]
      rfl

theorem renderer_update (s : Session) (now : Int) (delta : Nat) :
    (s.update now delta).1.renderer = s.renderer := by
  obtain ⟨scheduler, hupdate⟩ := s.update_fst now delta _ rfl
  rw [hupdate]

theorem renderer_poll (s : Session) (now : Int) :
    (s.poll now).session.renderer
      = if (s.poll now).value.isSome then s.renderer.render (s.poll now).session.scene
        else s.renderer := by
  rcases htick : s.scheduler.beginTick now with ⟨_ | tick, begun⟩
  · obtain ⟨board, submission, hpoll⟩ := poll_of_none htick
    rw [hpoll]
    rfl
  · obtain ⟨board, submission, hpoll⟩ := poll_of_some htick
    rw [hpoll]
    cases tick with
    | renderOnly => rfl
    | update delta =>
      let t : Session :=
        { s with
          deferred := s.deferred.rest now, board := board, submission := submission
          scheduler := begun }
      obtain ⟨queued, promised, -, hpromise⟩ :=
        (t.update now delta).1.render.1.promiseFrame_eq now
      show ((t.update now delta).1.render.1.promiseFrame now).renderer
        = s.renderer.render ((t.update now delta).1.render.1.promiseFrame now).scene
      rw [hpromise]
      exact congrArg (·.render (t.update now delta).1.scene) (t.renderer_update now delta)

/-! ### Every operation -/

theorem scenes_step {op : Operation} (h : ∀ now, op ≠ .poll now) :
    (s.step op).effects.filterMap Effect.scene? = [] := by
  rw [List.filterMap_eq_nil_iff]
  intro e he
  have hcontrol := s.control_step h e he
  cases e <;> first | rfl | cases hcontrol

/-- Nothing but a poll touches the renderer. -/
theorem rule_renderer : Rule fun s e t => (∀ now tick, e ≠ .polled now tick) →
    t.renderer = s.renderer where
  aside _ _ _ _ _ _ _ _ _ := rfl
  followed hst htu h := (htu nofun).trans (hst h)
  acquire _ _ := rfl
  withdraw _ _ _ := rfl
  load s c _ := by
    have hleaves := s.loadLeaves_load c
    generalize s.loadEvent c = e at hleaves
    generalize (s.load c).session = t at hleaves ⊢
    cases hleaves <;> rfl
  startAt s now _ := by
    unfold startAt
    split <;> rfl
  stop _ _ := rfl
  pause _ _ := rfl
  unpause _ _ := rfl
  reset _ _ := rfl
  dispose _ _ := rfl
  poll s now h := absurd rfl (h now (s.updateTick? now))

theorem renderer_step {op : Operation} (h : ∀ now, op ≠ .poll now) :
    (s.step op).session.renderer = s.renderer := by
  refine rule_renderer.step s op fun now tick => ?_
  by_cases hdispose : op = .dispose
  · rw [hdispose]
    exact nofun
  · rcases s.event_cases hdispose with ⟨now', hpoll⟩ | ⟨-, hevent | hevent⟩
    · exact absurd hpoll (h now')
    · rw [hevent]
      exact nofun
    · rw [hevent]
      exact nofun

theorem keeps_step (s : Session) (op : Operation) :
    (s.step op).session.renderer.keeps = s.renderer.keeps := by
  by_cases hpoll : ∃ now, op = .poll now
  · obtain ⟨now, rfl⟩ := hpoll
    show (s.poll now).session.renderer.keeps = _
    rw [renderer_poll]
    split
    · exact Renderer.keeps_render _ _
    · rfl
  · rw [renderer_step fun now h => hpoll ⟨now, h⟩]

/-- The last frame is the image of what an operation rendered last, if it rendered. -/
theorem lastFrame_step (h : s.renderer.keeps = true) (op : Operation) :
    (s.step op).session.lastFrame?
      = (((s.step op).effects.filterMap Effect.scene?).getLast?.map Scene.compose).or
        s.lastFrame? := by
  by_cases hpoll : ∃ now, op = .poll now
  · obtain ⟨now, rfl⟩ := hpoll
    show (s.poll now).session.renderer.lastFrame?
      = (((s.poll now).effects.filterMap Effect.scene?).getLast?.map Scene.compose).or _
    rw [renderer_poll, scenes_poll]
    split
    · exact Renderer.lastFrame?_render h _
    · rfl
  · have hnot : ∀ now, op ≠ .poll now := fun now h => hpoll ⟨now, h⟩
    rw [scenes_step hnot, lastFrame?, renderer_step hnot]
    rfl

/-! ### Runs -/

/-- The scene that a run rendered last. -/
def lastScene? (s : Session) (ops : List Operation) : Option Scene :=
  ((s.run ops).effects.filterMap Effect.scene?).getLast?

theorem keeps_run (s : Session) (ops : List Operation) :
    (s.run ops).session.renderer.keeps = s.renderer.keeps := by
  induction ops generalizing s with
  | nil => rfl
  | cons op ops ih => exact (ih (s.step op).session).trans (s.keeps_step op)

/-- After a run the last frame is the image of the scene that was rendered last. -/
theorem lastFrame_run (h : s.renderer.keeps = true) (ops : List Operation) :
    (s.run ops).session.lastFrame? = ((s.lastScene? ops).map Scene.compose).or s.lastFrame? := by
  induction ops generalizing s with
  | nil => rfl
  | cons op ops ih =>
    have hrest := ih ((s.keeps_step op).trans h)
    have hscenes : s.lastScene? (op :: ops)
        = ((s.step op).session.lastScene? ops).or
          ((s.step op).effects.filterMap Effect.scene?).getLast? := by
      show (((s.step op).effects ++ ((s.step op).session.run ops).effects).filterMap
        Effect.scene?).getLast? = _
      rw [List.filterMap_append, List.getLast?_append]
      rfl
    show ((s.step op).session.run ops).session.lastFrame? = _
    rw [hrest, lastFrame_step h, hscenes, Option.map_or, Option.or_assoc]

end Session

end Handheld
