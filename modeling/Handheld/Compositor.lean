import Handheld.Atlas
import Handheld.Display
import Handheld.Record

/-!
# Composing frames

A scene is everything that one frame shows. Its image is painted from the bottom up: the
background color, the tiles, the sprites in slot order, and over a paused game a dimming layer,
darker if the leaderboard lies over it. Transparent pixels and whatever lies off the screen are
left out.

Without a font the leaderboard is a bar for each rank, scaled to the highest score.

The compositor paints on one screen, frame after frame. A screen that has the size of the scene is
painted over with the background color, any other is replaced by a new one.

## Contents

* `Scene`, `Scene.compose`: a frame and its image.
* `Compositor`: the screen and how many frames were composed on it.

## Main statements

* `screen_render`: the screen shows the last scene, whatever was there before.
-/

namespace Handheld

/-- Everything that one frame shows. -/
structure Scene where
  display : Display
  atlas : Atlas
  palette : Palette
  overlay : Option (List LeaderboardEntry)

namespace Scene

/-- The visible pixel of a sprite of the atlas. -/
def visible? (atlas : Atlas) (index x y : Nat) : Option Rgba :=
  (atlas.spritePixel? index x y).filter fun p => p.alpha ≠ 0

/-- Draws a sprite of the atlas with its corner at a point that may lie off the screen. -/
def drawCell (atlas : Atlas) (screen : Image) (index : Nat) (left top : Int) : Image :=
  if index < atlas.count then screen.stamp left top cellSide cellSide (visible? atlas index)
  else screen

def drawTiles (s : Scene) (screen : Image) : Image :=
  s.display.tiles.foldl
    (fun screen t =>
      drawCell s.atlas screen t.2 (t.1.1 * cellSide : Nat) (t.1.2 * cellSide : Nat))
    screen

def drawSprites (s : Scene) (screen : Image) : Image :=
  s.display.sprites.foldl
    (fun screen p =>
      drawCell s.atlas screen p.2.sprite (Number.pixelOf p.2.x) (Number.pixelOf p.2.y))
    screen

def topScore (entries : List LeaderboardEntry) : Int :=
  entries.foldl (fun top e => max top e.score) 1

def barWidth (entries : List LeaderboardEntry) (track : Nat) (score : Int) : Nat :=
  (min (track : Int) (track * max score 0 / topScore entries)).toNat

/-- The color of the bar of a row: the visible colors in turn. -/
def barColor (palette : Palette) (row : Nat) : Rgba :=
  palette.rgba (1 + row % (max palette.size 2 - 1) : Nat)

/-- How many bars fit a screen. -/
def barRows (height : Nat) : Nat := height / cellSide - 2

def barTrack (width : Nat) : Nat := width - 2 * cellSide

/-- Draws a bar for each of the first ranks. -/
def drawLeaderboard (palette : Palette) (entries : List LeaderboardEntry) (screen : Image) :
    Image :=
  (entries.take (barRows screen.height)).zipIdx.foldl
    (fun img e =>
      img.stamp cellSide (cellSide * (e.2 + 1) + 1 : Nat)
        (barWidth entries (barTrack screen.width) e.1.score) (cellSide - 2)
        fun _ _ => some (barColor palette e.2))
    screen

/-- The color of everything that nothing is drawn on. -/
def backgroundColor (s : Scene) : Rgba := s.palette.rgba s.display.background

def side (s : Scene) : Nat := s.display.grid.pixels

/-- A new screen before anything is drawn. -/
def background (s : Scene) : Image := .filled s.side s.side s.backgroundColor

/-- Draws the game on a screen. -/
def drawGame (s : Scene) (screen : Image) : Image := s.drawSprites (s.drawTiles screen)

/-- Dims the game if it is paused, and draws the leaderboard over it. -/
def drawPause (s : Scene) (screen : Image) : Image :=
  if s.display.paused then
    match s.overlay with
    | some entries => drawLeaderboard s.palette entries (screen.map (Rgba.dimmed 64))
    | none => screen.map (Rgba.dimmed 128)
  else screen

/-- The screen of the game itself. -/
def picture (s : Scene) : Image := s.drawGame s.background

/-- The image of a scene. -/
def compose (s : Scene) : Image := s.drawPause s.picture

end Scene

/-- A renderer that keeps its screen from frame to frame. -/
structure Compositor where
  screen : Image := .empty
  frames : Nat := 0
  deriving DecidableEq

namespace Compositor

/-- The screen as a scene finds it: painted over if it has the size of the scene, and a new one
otherwise. -/
def prepared (c : Compositor) (s : Scene) : Image :=
  if c.screen.width = s.side ∧ c.screen.height = s.side then
    c.screen.paintedOver s.backgroundColor
  else s.background

/-- Composes a scene on the screen. -/
def render (c : Compositor) (s : Scene) : Compositor :=
  ⟨s.drawPause (s.drawGame (c.prepared s)), c.frames + 1⟩

/-- The last image, if there was one. -/
def lastFrame? (c : Compositor) : Option Image :=
  if 0 < c.frames then some c.screen else none

/-- Nothing is left of what the screen showed. -/
@[simp] theorem prepared_eq (c : Compositor) (s : Scene) : c.prepared s = s.background := by
  unfold prepared
  split
  · rename_i hsize
    rw [Image.paintedOver_eq, hsize.1, hsize.2]
    rfl
  · rfl

/-- After a scene is composed the screen shows it, whatever was there before. -/
@[simp] theorem screen_render (c : Compositor) (s : Scene) : (c.render s).screen = s.compose := by
  simp only [render, prepared_eq]
  rfl

/-- After a scene is composed there is a last image. -/
@[simp] theorem lastFrame?_render (c : Compositor) (s : Scene) :
    (c.render s).lastFrame? = some s.compose := by
  rw [← screen_render c s]
  exact if_pos (Nat.succ_pos c.frames)

end Compositor

end Handheld
