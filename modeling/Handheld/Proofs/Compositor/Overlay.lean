import Handheld.Proofs.Compositor.Bars
import Handheld.Proofs.Compositor.Bounds
import Mathlib.Algebra.Group.Int.Defs
import Mathlib.Algebra.Group.Nat.Defs

/-!
# Drawing the leaderboard in words

A painter that calculates in words of a fixed size, and may neither leave their range nor divide by
zero nor write outside of the screen, draws every leaderboard to its end, and draws the same. The
scores are words themselves, and may be the least and the greatest.

* `Word.signed?`, `Word.unsigned?`, `Word.quotient?`, `Word.remainder?`: arithmetic that fails;
* `Image.fill?`, `drawBar?`, `drawLeaderboard?`: drawing that fails;
* `barColor?_eq`, `barWidth?_eq`, `drawBar?_eq`: it does not fail;
* `overlaid_render`: a paused scene is overlaid with its leaderboard, and nothing fails on the way.
-/

namespace Handheld

/-! ### Words -/

/-- A number that fits a signed word with so many bits beside the sign. -/
def Word.signed? (bits : Nat) (n : Int) : Option Int :=
  if -2 ^ bits ≤ n ∧ n < 2 ^ bits then some n else none

/-- A number that fits a word without sign. -/
def Word.unsigned? (bits : Nat) (n : Int) : Option Nat :=
  if 0 ≤ n ∧ n < 2 ^ bits then some n.toNat else none

/-- The quotient of two signed words, rounded towards zero. -/
def Word.quotient? (bits : Nat) (n m : Int) : Option Int :=
  if m = 0 then none else signed? bits (n.tdiv m)

/-- The remainder of two signed words, which fails where their quotient does. -/
def Word.remainder? (bits : Nat) (n m : Int) : Option Int :=
  (quotient? bits n m).map fun _ => n.tmod m

namespace Word

variable {bits : Nat}

theorem signed?_natCast {n : Nat} (hn : n < 2 ^ bits) : signed? bits n = some (n : Int) := by
  have hcast : (n : Int) < 2 ^ bits := by exact_mod_cast hn
  exact if_pos ⟨by omega, hcast⟩

theorem unsigned?_natCast {n : Nat} (hn : n < 2 ^ bits) : unsigned? bits n = some n := by
  have hcast : (n : Int) < 2 ^ bits := by exact_mod_cast hn
  exact if_pos ⟨Int.natCast_nonneg n, hcast⟩

/-- Numbers that are not negative have a quotient by any other than zero. -/
theorem quotient?_natCast {n m : Nat} (hn : n < 2 ^ bits) (hm : 0 < m) :
    quotient? bits n m = some ((n / m : Nat) : Int) := by
  have hm' : ¬ (m : Int) = 0 := by omega
  have hquotient : (n : Int).tdiv m = (n / m : Nat) := rfl
  rw [quotient?, if_neg hm', hquotient]
  exact signed?_natCast (Nat.lt_of_le_of_lt (Nat.div_le_self n m) hn)

theorem remainder?_natCast {n m : Nat} (hn : n < 2 ^ bits) (hm : 0 < m) :
    remainder? bits n m = some ((n % m : Nat) : Int) := by
  have hremainder : (n : Int).tmod m = (n % m : Nat) := rfl
  rw [remainder?, quotient?_natCast hn hm, Option.map_some, hremainder]

end Word

/-! ### Filling rectangles -/

/-- Fills a rectangle pixel by pixel, and fails outside of the image. -/
def Image.fill? (img : Image) (left top width height : Nat) (color : Rgba) : Option Image :=
  (List.range' top height).foldlM
    (fun img y => (List.range' left width).foldlM (fun img x => img.put? x y color) img) img

/-- An image of the size of another one. -/
def Image.SameSize (screen img : Image) : Prop :=
  img.width = screen.width ∧ img.height = screen.height

namespace Image

variable {screen : Image} {left top width height : Nat}

theorem put?_eq {x y : Nat} (hx : x < screen.width) (hy : y < screen.height) (color : Rgba) :
    screen.put? x y color = some (screen.plot x y (some color)) := by
  rw [put?, if_pos ⟨hx, hy⟩, plot]
  simp

theorem fillRow?_eq {y : Nat} (hx : ∀ x < width, left + x < screen.width) (hy : y < screen.height)
    (color : Rgba) :
    (List.range' left width).foldlM (fun img x => img.put? x y color) screen
      = some (screen.stampRow left y width fun _ => some color) := by
  rw [List.range'_eq_map_range, List.foldlM_map]
  refine Scene.foldlM_eq_some_of_kept screen.SameSize ?_ ⟨rfl, rfl⟩
  intro x hmem img himg
  have hon := hx x (List.mem_range.mp hmem)
  refine ⟨?_, ?_⟩
  · rw [put?_eq (himg.1 ▸ hon) (himg.2 ▸ hy), Int.natCast_add]
  · exact ⟨(width_plot _ _ _ _).trans himg.1, (height_plot _ _ _ _).trans himg.2⟩

/-- A rectangle on the image is filled. -/
theorem fill?_eq (hx : ∀ x < width, left + x < screen.width)
    (hy : ∀ y < height, top + y < screen.height) (color : Rgba) :
    screen.fill? left top width height color
      = some (screen.stamp left top width height fun _ _ => some color) := by
  rw [fill?, List.range'_eq_map_range (s := top), List.foldlM_map]
  refine Scene.foldlM_eq_some_of_kept screen.SameSize ?_ ⟨rfl, rfl⟩
  intro y hmem img himg
  have hon := hy y (List.mem_range.mp hmem)
  refine ⟨?_, ?_⟩
  · rw [fillRow?_eq (himg.1 ▸ hx) (himg.2 ▸ hon), Int.natCast_add]
  · exact ⟨(width_stampRow _ _ _ _ _).trans himg.1, (height_stampRow _ _ _ _ _).trans himg.2⟩

end Image

namespace Scene

/-! ### Strict drawing -/

/-- The color of the bar of a row. -/
def barColor? (palette : Palette) (row : Nat) : Option Rgba := do
  let place ← Word.signed? 63 row
  let colors ← Word.signed? 63 (max palette.size 2 : Nat)
  let turn ← Word.signed? 63 (colors - 1)
  let step ← Word.remainder? 63 place turn
  let index ← Word.signed? 63 (1 + step)
  some (palette.rgba index)

/-- The length of the bar of a score. -/
def barWidth? (entries : List LeaderboardEntry) (track : Nat) (score : Int) : Option Nat := do
  let product ← Word.signed? 127 (track * max score 0)
  let share ← Word.quotient? 127 product (topScore entries)
  Word.unsigned? 32 (min track share)

/-- Draws the bar of a row. -/
def drawBar? (palette : Palette) (entries : List LeaderboardEntry) (track : Nat) (screen : Image)
    (row : Nat) (score : Int) : Option Image := do
  let color ← barColor? palette row
  let width ← barWidth? entries track score
  let below ← Word.unsigned? 32 (row + 1 : Nat)
  let top ← Word.unsigned? 32 (cellSide * below : Nat)
  let first ← Word.unsigned? 32 (top + 1 : Nat)
  let under ← Word.unsigned? 32 (top + cellSide : Nat)
  let right ← Word.unsigned? 32 (cellSide + width : Nat)
  screen.fill? cellSide first (right - cellSide) (under - 1 - first) color

def drawLeaderboard? (palette : Palette) (entries : List LeaderboardEntry) (screen : Image) :
    Option Image :=
  (entries.take (barRows screen.height)).zipIdx.foldlM
    (fun img e => drawBar? palette entries (barTrack screen.width) img e.2 e.1.score) screen

/-! ### It draws to the end -/

variable {palette : Palette} {entries : List LeaderboardEntry} {screen : Image}

/-- There are always colors to take in turn. -/
theorem barColor?_eq {row : Nat} (hsize : palette.size ≤ Palette.capacity) (hrow : row < 2 ^ 32) :
    barColor? palette row = some (barColor palette row) := by
  obtain ⟨turn, hturn⟩ : ∃ turn, max palette.size 2 = turn + 1 + 1 :=
    ⟨max palette.size 2 - 2, by omega⟩
  have hcapacity : turn + 2 ≤ 16 := hturn ▸ Nat.max_le.mpr ⟨hsize, by decide⟩
  have hword : row < 2 ^ 63 := Nat.lt_trans hrow (by decide)
  have hstep : row % (turn + 1) ≤ row := Nat.mod_le row (turn + 1)
  have hcolors : Word.signed? 63 (turn + 1 + 1 : Nat) = some ((turn + 1 + 1 : Nat) : Int) :=
    Word.signed?_natCast (by omega)
  have hturns : Word.signed? 63 (((turn + 1 + 1 : Nat) : Int) - 1)
      = some ((turn + 1 : Nat) : Int) := by
    rw [show ((turn + 1 + 1 : Nat) : Int) - 1 = (turn + 1 : Nat) by omega]
    exact Word.signed?_natCast (by omega)
  have hindex : Word.signed? 63 (1 + (row % (turn + 1) : Nat))
      = some ((1 + row % (turn + 1) : Nat) : Int) := by
    rw [show (1 : Int) + (row % (turn + 1) : Nat) = (1 + row % (turn + 1) : Nat) by omega]
    exact Word.signed?_natCast (by omega)
  have hplace := Word.signed?_natCast hword
  have hremainder := Word.remainder?_natCast hword (Nat.succ_pos turn)
  simp only [barColor?, barColor, hturn, Option.bind_eq_bind, Option.bind_eq_some_iff,
    Option.some.injEq]
  exact ⟨_, hplace, _, hcolors, _, hturns, _, hremainder, _, hindex, rfl⟩

/-- The product of a track and a score is exact. -/
theorem barWidth?_eq (entries : List LeaderboardEntry) {track : Nat} {score : Int}
    (htrack : track < 2 ^ 32) (hscore : score < 2 ^ 63) :
    barWidth? entries track score = some (barWidth entries track score) := by
  have hpos := (fullScore_topScore entries).pos
  obtain ⟨points, hpoints⟩ := Int.eq_ofNat_of_zero_le (Int.le_max_right score 0)
  obtain ⟨top, htop⟩ := Int.eq_ofNat_of_zero_le (Int.le_trans (by decide) hpos)
  have hbound : track * points < 2 ^ 127 := by
    have hmul : track * points ≤ 2 ^ 32 * 2 ^ 63 := Nat.mul_le_mul (by omega) (by omega)
    have hword : 2 ^ 32 * 2 ^ 63 < 2 ^ 127 := by decide
    omega
  have hproduct : (track : Int) * points = (track * points : Nat) := by simp
  have hquotient : ((track * points : Nat) : Int) / (top : Nat) = (track * points / top : Nat) := by
    simp
  have hshare : min (track : Int) (track * points / top : Nat)
      = (min track (track * points / top) : Nat) := by omega
  have hless : min track (track * points / top) < 2 ^ 32 := by omega
  simp only [barWidth?, barWidth, hpoints, htop, hproduct, Option.bind_eq_bind, Option.bind_some,
    Word.signed?_natCast hbound, Word.quotient?_natCast hbound (show 0 < top by omega), hquotient,
    hshare, Word.unsigned?_natCast hless, Int.toNat_natCast]

theorem drawBar?_eq {row : Nat} {score : Int} (hsize : palette.size ≤ Palette.capacity)
    (hscore : score < 2 ^ 63) (hwidth : screen.width < 2 ^ 32) (hheight : screen.height < 2 ^ 32)
    (hrow : row < barRows screen.height) :
    drawBar? palette entries (barTrack screen.width) screen row score =
      some (screen.stamp cellSide (cellSide * (row + 1) + 1 : Nat)
        (barWidth entries (barTrack screen.width) score) (cellSide - 2)
        fun _ _ => some (barColor palette row)) := by
  have hbar := barWidth_le entries (barTrack screen.width) score
  have htrack : barTrack screen.width < 2 ^ 32 := Nat.lt_of_le_of_lt (Nat.sub_le _ _) hwidth
  have hshort := barWidth?_eq entries htrack hscore
  generalize barWidth entries (barTrack screen.width) score = length at hbar hshort ⊢
  simp only [barTrack, barRows, cellSide] at hbar hrow
  have hplace : row < 2 ^ 32 := by omega
  have hcolor := barColor?_eq hsize hplace
  -- All lines of the row are lines of the screen, and the screen is measured in words.
  have hline : ∀ n : Nat, n ≤ screen.height → Word.unsigned? 32 n = some n :=
    fun n hn => Word.unsigned?_natCast (Nat.lt_of_le_of_lt hn hheight)
  have hright : Word.unsigned? 32 (8 + length : Nat) = some (8 + length) :=
    Word.unsigned?_natCast (by omega)
  have hlines : 8 * (row + 1) + 8 - 1 - (8 * (row + 1) + 1) = 8 - 2 := by omega
  simp only [drawBar?, cellSide, Option.bind_eq_bind, Option.bind_eq_some_iff]
  refine ⟨_, hcolor, _, hshort, _, hline (row + 1) (by omega), _, hline (8 * (row + 1)) (by omega),
    _, hline (8 * (row + 1) + 1) (by omega), _, hline (8 * (row + 1) + 8) (by omega), _, hright, ?_⟩
  rw [hlines, Nat.add_sub_cancel_left]
  exact Image.fill?_eq (fun x hx => by omega) (fun y hy => by omega) _

/-- A leaderboard of words is drawn to the end. -/
theorem drawLeaderboard?_eq (hsize : palette.size ≤ Palette.capacity)
    (hscores : ∀ e ∈ entries, e.score < 2 ^ 63) (hwidth : screen.width < 2 ^ 32)
    (hheight : screen.height < 2 ^ 32) :
    drawLeaderboard? palette entries screen = some (drawLeaderboard palette entries screen) := by
  refine foldlM_eq_some_of_kept screen.SameSize ?_ ⟨rfl, rfl⟩
  intro p hp img himg
  obtain ⟨hentry, hrow⟩ := mem_zipIdx_take_iff.mp hp
  have hscore := hscores p.1 (List.mem_of_getElem? hentry)
  rw [← himg.1] at hwidth ⊢
  rw [← himg.2] at hheight hrow
  refine ⟨drawBar?_eq hsize hscore hwidth hheight hrow, ?_⟩
  exact ⟨(Image.width_stamp _ _ _ _ _ _).trans himg.1, (Image.height_stamp _ _ _ _ _ _).trans himg.2⟩

/-- A paused scene is overlaid with its leaderboard, whatever the scores and the palette are.
Nothing overflows, no number is divided by zero, and no pixel is written outside of the screen. -/
theorem overlaid_render (c : Compositor) (display : Display) (atlas : Atlas) (colors : List Nat)
    (entries : List LeaderboardEntry)
    (hscores : ∀ e ∈ entries, -2 ^ 63 ≤ e.score ∧ e.score < 2 ^ 63) :
    let s : Scene := ⟨display.setPaused true, atlas, .ofColors colors, some entries⟩
    let before := s.picture.map (Rgba.dimmed 64)
    before.width = 8 * display.grid.cells ∧ before.height = 8 * display.grid.cells ∧
      drawLeaderboard? s.palette entries before = some (c.render s).screen ∧
      Overlaid s.palette entries before (c.render s).screen := by
  intro s before
  have hscreen : (c.render s).screen = drawLeaderboard s.palette entries before :=
    c.screen_render s
  obtain ⟨hwidth, hheight⟩ := s.size_picture
  have hside : s.side = 8 * display.grid.cells := Nat.mul_comm ..
  have hsize : s.palette.size ≤ Palette.capacity := by
    rw [Palette.length_ofColors]
    exact Nat.min_le_left _ _
  have hsmall : s.side < 2 ^ 32 := by
    rw [hside]
    cases display.grid <;> decide
  rw [hscreen]
  refine ⟨hwidth.trans hside, hheight.trans hside, ?_, overlaid_drawLeaderboard _ _ _⟩
  exact drawLeaderboard?_eq hsize (fun e he => (hscores e he).2) (hwidth ▸ hsmall) (hheight ▸ hsmall)

/-- Of the greatest score and the least, the one has a bar up to the frame and the other has none. -/
theorem overlaid_render_extreme :
    let entries : List LeaderboardEntry :=
      [⟨1, "ada", 2 ^ 63 - 1⟩, ⟨2, "bob", 10 ^ 18⟩, ⟨3, "cy", -2 ^ 63⟩]
    let s : Scene := ⟨(Display.new .large).setPaused true, .rasterize [] (.ofColors []) .small,
      .ofColors [], some entries⟩
    let before := s.picture.map (Rgba.dimmed 64)
    let after := (({} : Compositor).render s).screen
    (∀ e ∈ entries, -2 ^ 63 ≤ e.score ∧ e.score < 2 ^ 63) ∧
      drawLeaderboard? s.palette entries before = some after ∧
      after.get? 247 12 = some (barColor s.palette 0) ∧
      after.get? 248 12 = before.get? 248 12 ∧
      after.get? 8 28 = before.get? 8 28 := by
  intro entries s before after
  have hscores : ∀ e ∈ entries, -2 ^ 63 ≤ e.score ∧ e.score < 2 ^ 63 := by decide
  obtain ⟨hwidth, hheight, hdrawn, hover⟩ := overlaid_render {} (Display.new .large)
    (.rasterize [] (.ofColors []) .small) [] entries hscores
  have hbar : OnBar 0 (barWidth entries (before.width - 16) (2 ^ 63 - 1)) 247 12 := by
    rw [hwidth]
    decide
  refine ⟨hscores, hdrawn, hover.bars 0 _ rfl (by rw [hheight]; decide) 247 12 hbar, ?_, ?_⟩
  · by_contra hchanged
    have hframe := (hover.framed 248 12 hchanged).2.1
    rw [hwidth] at hframe
    exact absurd hframe (by decide)
  · refine hover.rest 8 28 fun row e hentry hrow hon => ?_
    obtain rfl : row = 2 := by
      unfold OnBar at hon
      omega
    obtain rfl : e = ⟨3, "cy", -2 ^ 63⟩ := (Option.some.inj hentry).symm
    rw [hwidth] at hon
    exact absurd hon (by decide)

end Scene

end Handheld
