import Handheld.Proofs.Compositor.Layers
import Handheld.Proofs.Session.Promises

/-!
# The frame that the hook is handed

The hook is meant to receive the first frame of a game. The update tick that rendered it queues a
call of the hook, but the queue keeps no image. When the call is due, the hook is handed what the
renderer shows by then, which is the scene that was rendered last. It is the promised frame exactly
if that scene has the same image.

* `redeemed`: the promises that a poll redeems;
* `handed_last`: each of them is redeemed with the last scene;
* `Faithful`: each of them is redeemed with the scene of its own tick;
* `faithful_iff`, `hookFrames_run`: when it is so;
* `later_frame_handed`: a game whose second frame is handed over as its first.
-/

namespace Handheld.Session

variable {s : Session}

/-- The promises that a poll after some operations redeems. -/
def redeemed (s : Session) (before : List Operation) (now : Int) : List Promise :=
  (outstanding [] s before).filter fun p => p.due ≤ now

/-- Throughout a run the hook is handed the frames of the ticks that promised them. -/
def Faithful (s : Session) (ops : List Operation) : Prop :=
  ∀ before now after, ops = before ++ .poll now :: after →
    ((s.run before).session.poll now).effects.filterMap Effect.frame? ≠ [] →
    ((s.run before).session.poll now).effects.filterMap Effect.frame?
      = (s.redeemed before now).map fun p => p.scene.compose

/-! ### The last scene -/

/-- Once a frame was promised, something was rendered. -/
theorem lastScene?_of_made {before : List Operation} {p : Promise} (h : Made s before p) :
    (s.lastScene? before).isSome = true := by
  obtain ⟨earlier, later, delta, rfl, -, hscene⟩ := h
  rw [lastScene?, List.getLast?_isSome, effects_append, List.filterMap_append]
  show _ ++ (((s.run earlier).session.poll p.time).effects ++ _).filterMap Effect.scene? ≠ []
  rw [List.filterMap_append, hscene]
  exact List.append_ne_nil_of_right_ne_nil _ (List.cons_ne_nil _ _)

theorem frames_redeemed (h : Queued s []) (before : List Operation) (now : Int) :
    ((s.run before).session.poll now).effects.filterMap Effect.frame?
      = (s.redeemed before now).filterMap fun _ => (s.run before).session.lastFrameFor? :=
  frames_queued (queued_run h before) (.poll now)

/-- After a promise the hook would be handed the image of the last scene, if it were handed
anything. -/
theorem lastFrameFor?_of_made {before : List Operation} {p : Promise} (hmade : Made s before p)
    {frame : Image} (h : (s.run before).session.lastFrameFor? = some frame) :
    (s.lastScene? before).map Scene.compose = some frame := by
  obtain ⟨last, hlast⟩ := Option.isSome_iff_exists.mp (lastScene?_of_made hmade)
  rw [lastFrameFor?] at h
  split at h
  · cases hkeeps : s.renderer.keeps with
    | true =>
      rw [lastFrame_run hkeeps, hlast] at h
      rw [hlast]
      exact h
    | false =>
      rw [lastFrame?, Renderer.lastFrame?_of_not_keeps ((s.keeps_run before).trans hkeeps)] at h
      cases h
  · cases h

/-- A poll that calls the hook hands it the image of the last scene, once for each promise. -/
theorem handed_last (h : Queued s []) {before : List Operation} {now : Int}
    (hcalls : ((s.run before).session.poll now).effects.filterMap Effect.frame? ≠ []) :
    ∃ last, s.lastScene? before = some last ∧
      ((s.run before).session.poll now).effects.filterMap Effect.frame?
        = (s.redeemed before now).map fun _ => last.compose := by
  have hframes := frames_redeemed h before now
  rw [hframes] at hcalls ⊢
  cases hfor : (s.run before).session.lastFrameFor? with
  | none =>
    rw [hfor, List.filterMap_none] at hcalls
    exact absurd rfl hcalls
  | some frame =>
    rw [hfor] at hcalls
    obtain ⟨p, hp⟩ := List.exists_mem_of_ne_nil _ fun hnone : s.redeemed before now = [] =>
      hcalls (by rw [hnone, List.filterMap_nil])
    have hcompose := lastFrameFor?_of_made (made_run s before p (List.mem_filter.mp hp).1) hfor
    obtain ⟨last, hlast, rfl⟩ := Option.map_eq_some_iff.mp hcompose
    refine ⟨last, hlast, ?_⟩
    rw [show (fun _ : Promise => some last.compose) = some ∘ fun _ => last.compose from rfl,
      List.filterMap_eq_map]

/-! ### Every run -/

/-- The hook is handed the promised frames exactly if they look like what was rendered last. -/
theorem faithful_iff (h : Queued s []) (ops : List Operation) :
    Faithful s ops ↔
      ∀ before now after, ops = before ++ .poll now :: after →
        ((s.run before).session.poll now).effects.filterMap Effect.frame? ≠ [] →
        ∀ p ∈ s.redeemed before now,
          (s.lastScene? before).map Scene.compose = some p.scene.compose := by
  constructor
  · intro hfaithful before now after hops hcalls p hp
    obtain ⟨last, hlast, hframes⟩ := handed_last h hcalls
    have hsame := List.map_inj_left.mp
      (hframes.symm.trans (hfaithful before now after hops hcalls)) p hp
    rw [hlast, Option.map_some, hsame]
  · intro hlook before now after hops hcalls
    obtain ⟨last, hlast, hframes⟩ := handed_last h hcalls
    rw [hframes]
    refine List.map_congr_left fun p hp => ?_
    have hsame := hlook before now after hops hcalls p hp
    rw [hlast] at hsame
    exact Option.some.inj hsame

/-- A poll that calls the hook hands it the image of the scene that was rendered last, once for
each promise that is due, and each of these was made by an update tick of the run. So the hook is
handed the frames of these ticks, throughout a run, exactly if whenever a call is due the last scene
has the image of the promised one. -/
theorem hookFrames_run (settings : Settings) (period : Nat) (renderer : Renderer)
    (services : Services) (ops : List Operation) :
    let s := newWith settings (.new period) renderer services
    (∀ before now after, ops = before ++ .poll now :: after →
        ((s.run before).session.poll now).effects.filterMap Effect.frame? ≠ [] →
        (∀ p ∈ s.redeemed before now, Made s before p) ∧
        ∃ last, s.lastScene? before = some last ∧
          ((s.run before).session.poll now).effects.filterMap Effect.frame?
            = (s.redeemed before now).map fun _ => last.compose) ∧
      (Faithful s ops ↔
        ∀ before now after, ops = before ++ .poll now :: after →
          ((s.run before).session.poll now).effects.filterMap Effect.frame? ≠ [] →
          ∀ p ∈ s.redeemed before now,
            (s.lastScene? before).map Scene.compose = some p.scene.compose) := by
  intro s
  have hqueued : Queued s [] := rfl
  refine ⟨fun before now after _ hcalls => ⟨?_, handed_last hqueued hcalls⟩,
    faithful_iff hqueued ops⟩
  exact fun p hp => made_run s before p (List.mem_filter.mp hp).1

/-! ### A later frame -/

/-- Two scenes that are not dimmed and differ in their first pixel have different images. -/
theorem compose_ne {a b : Scene} (ha : a.display.paused = false) (hb : b.display.paused = false)
    (h : a.pixelAt 0 0 ≠ b.pixelAt 0 0) : a.compose ≠ b.compose := by
  intro hsame
  have hside : ∀ scene : Scene, 0 < scene.side := fun scene => by
    unfold Scene.side GridSize.pixels
    cases scene.display.grid <;> decide
  rw [compose_of_not_paused ha, compose_of_not_paused hb] at hsame
  have hpixel := congrArg (·.get? 0 0) hsame
  simp only [Scene.get?_picture _ (hside _) (hside _)] at hpixel
  exact h (Option.some.inj hpixel)

theorem not_faithful_of_pixels (h : Queued s []) {before : List Operation} {now : Int}
    (hcalls : 0 < (((s.run before).session.poll now).effects.filterMap Effect.frame?).length)
    {c d : Rgba} (hne : d ≠ c)
    (hpromised : (s.redeemed before now).map
      (fun p => (p.scene.display.paused, p.scene.pixelAt 0 0)) = [(false, c)])
    (hrendered : (s.lastScene? before).map
      (fun last => (last.display.paused, last.pixelAt 0 0)) = some (false, d)) :
    ¬ Faithful s (before ++ [.poll now]) := by
  intro hfaithful
  obtain ⟨p, hp, hpixel⟩ := List.mem_map.mp (hpromised ▸ List.mem_singleton.mpr rfl)
  obtain ⟨last, hlast, hlater⟩ := Option.map_eq_some_iff.mp hrendered
  have hlook := (faithful_iff h _).mp hfaithful before now [] rfl
    (List.ne_nil_of_length_pos hcalls) p hp
  rw [hlast] at hlook
  obtain ⟨hplain, rfl⟩ := Prod.mk.inj hpixel
  obtain ⟨hplain', rfl⟩ := Prod.mk.inj hlater
  exact compose_ne hplain' hplain hne (Option.some.inj hlook)

/-- A game that shows another color from its second frame on. -/
def recoloredCartridge : Guest.Cartridge :=
  { name := "recolored"
    size := 0
    program := .script
      { metadata := some { action := .give (.value (.object [])) }
        resources := some { action := .give (.value (.object [])) }
        update := some
          { entries :=
              [{ action := .give (.value (.object [("background", .ofNat 1)])) },
                { action := .give (.value (.object [("background", .ofNat 2)])) }] } } }

/-- The first frame is promised to the hook, and the second is handed to it. -/
theorem later_frame_handed :
    let before := [.acquire, .load recoloredCartridge, .setHook, .startAt 0, .poll 0,
      .poll 16666666]
    let s := newWith {} (.new standardPeriod) (.compositor {}) .offline
    (s.redeemed before 50000000).map (fun p => p.scene.display.background) = [1] ∧
      (s.lastScene? before).map (fun last => last.display.background) = some 2 ∧
      ¬ Faithful s (before ++ [.poll 50000000]) := by
  intro before s
  have hqueued : Queued s [] := rfl
  refine ⟨by decide +kernel, by decide +kernel, ?_⟩
  exact not_faithful_of_pixels (c := ⟨0x66, 0x66, 0x66, 0xff⟩) (d := ⟨0x88, 0x88, 0x88, 0xff⟩)
    hqueued (by decide +kernel) (by decide) (by decide +kernel) (by decide +kernel)

end Handheld.Session
