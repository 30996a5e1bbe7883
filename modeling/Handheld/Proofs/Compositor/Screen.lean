import Handheld.Proofs.Compositor.Bounds

/-!
# The composed screen

Whatever a compositor has shown before, the screen it leaves is that of its last scene: a square
of the size of the grid, on which each point shows the topmost visible pixel of the game. A paused
game is dimmed, and under a leaderboard it is dimmed further before the bars are drawn over it.

* `Rgba.DimmedTo`: a pixel with its colors scaled;
* `Composed`: what a scene leaves on the screen;
* `composed_render`: every scene is composed so, on every screen, without leaving its bounds.
-/

namespace Handheld

/-- A pixel of full opacity with the color channels of another one scaled by `factor / 256`. -/
structure Rgba.DimmedTo (factor : Nat) (c p : Rgba) : Prop where
  red : p.red.toNat = c.red.toNat * factor / 256
  green : p.green.toNat = c.green.toNat * factor / 256
  blue : p.blue.toNat = c.blue.toNat * factor / 256
  alpha : p.alpha = 255

theorem Rgba.dimmedTo_dimmed {factor : Nat} (hfactor : factor ≤ 256) {c : Rgba}
    (halpha : c.alpha = 255) : DimmedTo factor c (c.dimmed factor) := by
  have hchannel : ∀ channel : UInt8,
      (UInt8.ofNat (channel.toNat * factor / 256)).toNat = channel.toNat * factor / 256 := by
    intro channel
    have hmul := Nat.mul_le_mul_left channel.toNat hfactor
    have hlt := channel.toNat_lt
    rw [UInt8.toNat_ofNat']
    omega
  exact ⟨hchannel c.red, hchannel c.green, hchannel c.blue, halpha⟩

namespace Scene

theorem size_drawLeaderboard (palette : Palette) (entries : List LeaderboardEntry)
    (screen : Image) :
    (drawLeaderboard palette entries screen).width = screen.width ∧
      (drawLeaderboard palette entries screen).height = screen.height :=
  size_foldl_draw (fun _ _ => ⟨Image.width_stamp _ _ _ _ _ _, Image.height_stamp _ _ _ _ _ _⟩) _
    screen

theorem size_picture (s : Scene) : s.picture.width = s.side ∧ s.picture.height = s.side :=
  s.size_drawGame s.background

/-- What a scene leaves on the screen. -/
structure Composed (s : Scene) (screen : Image) : Prop where
  width : screen.width = 8 * s.display.grid.cells
  height : screen.height = 8 * s.display.grid.cells
  playing : s.display.paused = false → ∀ x y, x < screen.width → y < screen.height →
    screen.get? x y = some (s.pixelAt x y)
  paused : s.display.paused = true → s.overlay = none →
    ∀ x y, x < screen.width → y < screen.height →
      ∃ p, screen.get? x y = some p ∧ (s.pixelAt x y).DimmedTo 128 p
  /-- The bars are drawn over a picture that is dimmed further. -/
  covered : s.display.paused = true → ∀ entries, s.overlay = some entries →
    ∃ under : Image, screen = drawLeaderboard s.palette entries under ∧
      under.width = screen.width ∧ under.height = screen.height ∧
      ∀ x y, x < screen.width → y < screen.height →
        ∃ p, under.get? x y = some p ∧ (s.pixelAt x y).DimmedTo 64 p

variable {s : Scene}

theorem get?_dimmed (halpha : ∀ x y, (s.pixelAt x y).alpha = 255) {factor : Nat}
    (hfactor : factor ≤ 256) {x y : Nat} (hx : x < s.side) (hy : y < s.side) :
    ∃ p, (s.picture.map (Rgba.dimmed factor)).get? x y = some p ∧
      (s.pixelAt x y).DimmedTo factor p := by
  refine ⟨(s.pixelAt x y).dimmed factor, ?_, Rgba.dimmedTo_dimmed hfactor (halpha x y)⟩
  rw [Image.get?_map, get?_picture s hx hy]
  rfl

theorem composed_compose (halpha : ∀ x y, (s.pixelAt x y).alpha = 255) : Composed s s.compose := by
  obtain ⟨hwidth, hheight⟩ := s.size_picture
  have hside : s.side = 8 * s.display.grid.cells := Nat.mul_comm ..
  unfold compose drawPause
  cases hpaused : s.display.paused with
  | false =>
    rw [if_neg Bool.false_ne_true]
    refine ⟨hwidth.trans hside, hheight.trans hside, ?_, ?_, ?_⟩
    · intro _ x y hx hy
      exact get?_picture s (hwidth ▸ hx) (hheight ▸ hy)
    · exact fun h => absurd (hpaused.symm.trans h) Bool.false_ne_true
    · exact fun h => absurd (hpaused.symm.trans h) Bool.false_ne_true
  | true =>
    rw [if_pos rfl]
    have hplaying : ∀ {p : Prop}, s.display.paused = false → p :=
      fun h => absurd (h.symm.trans hpaused) Bool.false_ne_true
    cases hoverlay : s.overlay with
    | none =>
      refine ⟨hwidth.trans hside, hheight.trans hside, hplaying, ?_, ?_⟩
      · intro _ _ x y hx hy
        exact get?_dimmed halpha (by decide) (hwidth ▸ hx) (hheight ▸ hy)
      · exact fun _ entries h => absurd (hoverlay.symm.trans h) (Option.some_ne_none entries).symm
    | some entries =>
      obtain ⟨hwidth', hheight'⟩ := size_drawLeaderboard s.palette entries
        (s.picture.map (Rgba.dimmed 64))
      refine ⟨(hwidth'.trans hwidth).trans hside, (hheight'.trans hheight).trans hside, hplaying,
        ?_, ?_⟩
      · exact fun _ h => absurd (hoverlay.symm.trans h) (Option.some_ne_none entries)
      · intro _ entries' h
        have hsame : entries = entries' := Option.some.inj (hoverlay.symm.trans h)
        subst hsame
        refine ⟨s.picture.map (Rgba.dimmed 64), rfl, hwidth'.symm, hheight'.symm, ?_⟩
        intro x y hx hy
        rw [hwidth'] at hx
        rw [hheight'] at hy
        exact get?_dimmed halpha (by decide) (hwidth ▸ hx) (hheight ▸ hy)

/-- A compositor that draws a scene with an atlas of sprites leaves on the screen what the scene
shows, whatever was there before, and neither reads nor writes out of bounds. -/
theorem composed_render (c : Compositor) (display : Display) (sprites : List Sprite)
    (colors palette : Palette) (size : AtlasSize) (overlay : Option (List LeaderboardEntry)) :
    let s : Scene := ⟨display, .rasterize sprites colors size, palette, overlay⟩
    Composed s (c.render s).screen ∧ (∀ x y, (s.pixelAt x y).alpha = 255) ∧
      (∀ d : Compositor, (d.render s).screen = (c.render s).screen) ∧
      s.drawGame? (c.prepared s) = some (s.drawGame (c.prepared s)) := by
  intro s
  have hatlas : s.atlas = .rasterize sprites colors size := rfl
  have halpha := alpha_pixelAt s hatlas
  refine ⟨?_, halpha, ?_, drawGame?_eq hatlas (c.prepared s)⟩
  · rw [Compositor.screen_render]
    exact composed_compose halpha
  · intro d
    rw [Compositor.screen_render, Compositor.screen_render]

end Scene

end Handheld
