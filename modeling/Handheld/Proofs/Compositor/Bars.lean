import Handheld.Proofs.Compositor.Screen

/-!
# The bars of a leaderboard

Each rank that fits has a bar of its own, in a row of its own and to the scale of the highest score.
The bars keep away from the edges of the screen, and nothing else is drawn.

* `FullScore`, `barWidth_eq`: how long a bar is, of a track;
* `barWidth_mono`, `barWidth_full`: a higher score has no shorter bar, and the highest one a full
  bar;
* `OnBar`, `get?_drawLeaderboard`: the drawn leaderboard, point by point;
* `Overlaid`, `overlaid_drawLeaderboard`: what it leaves of a screen.
-/

namespace Handheld.Scene

/-! ### Lengths -/

/-- The score of a full bar: the highest one, and one at least. -/
structure FullScore (entries : List LeaderboardEntry) (top : Int) : Prop where
  pos : 1 ≤ top
  le : ∀ e ∈ entries, e.score ≤ top
  reached : top = 1 ∨ ∃ e ∈ entries, e.score = top

theorem foldl_max_score (entries : List LeaderboardEntry) (least : Int) :
    let top := entries.foldl (fun top e => max top e.score) least
    least ≤ top ∧ (∀ e ∈ entries, e.score ≤ top) ∧
      (top = least ∨ ∃ e ∈ entries, e.score = top) := by
  induction entries generalizing least with
  | nil => simp
  | cons e entries ih =>
    obtain ⟨hleast, hle, hreached⟩ := ih (max least e.score)
    simp only [List.foldl_cons, List.forall_mem_cons]
    refine ⟨by omega, ⟨by omega, hle⟩, ?_⟩
    rcases hreached with htop | ⟨e', he', hscore⟩
    · rcases Int.le_total e.score least with hlow | hhigh
      · exact Or.inl (htop.trans (Int.max_eq_left hlow))
      · exact Or.inr ⟨e, List.mem_cons_self, (htop.trans (Int.max_eq_right hhigh)).symm⟩
    · exact Or.inr ⟨e', List.mem_cons_of_mem e he', hscore⟩

theorem fullScore_topScore (entries : List LeaderboardEntry) :
    FullScore entries (topScore entries) := by
  obtain ⟨hpos, hle, hreached⟩ := foldl_max_score entries 1
  exact ⟨hpos, hle, hreached⟩

section

variable {entries : List LeaderboardEntry} {e : LeaderboardEntry}

theorem share_nonneg (entries : List LeaderboardEntry) (track : Nat) (score : Int) :
    0 ≤ (track : Int) * max score 0 / topScore entries := by
  have hpos := (fullScore_topScore entries).pos
  exact Int.ediv_nonneg (Int.mul_nonneg (by omega) (by omega)) (by omega)

theorem barWidth_le (entries : List LeaderboardEntry) (track : Nat) (score : Int) :
    barWidth entries track score ≤ track := by
  unfold barWidth
  omega

/-- The bar of an entry has its share of the track, with the fraction dropped. -/
theorem barWidth_eq (he : e ∈ entries) (track : Nat) :
    (barWidth entries track e.score : Int) = track * max e.score 0 / topScore entries := by
  have hfull := fullScore_topScore entries
  have hpos := hfull.pos
  have hle := hfull.le e he
  have hshare : (track : Int) * max e.score 0 / topScore entries ≤ track := by
    refine Int.ediv_le_of_le_mul (by omega) ?_
    exact Int.mul_le_mul_of_nonneg_left (by omega) (by omega)
  have hnonneg := share_nonneg entries track e.score
  rw [barWidth, Int.min_eq_right hshare, Int.toNat_of_nonneg hnonneg]

theorem barWidth_mono (entries : List LeaderboardEntry) (track : Nat) {score score' : Int}
    (hle : score ≤ score') : barWidth entries track score ≤ barWidth entries track score' := by
  have hpos := (fullScore_topScore entries).pos
  have hproduct : (track : Int) * max score 0 ≤ track * max score' 0 :=
    Int.mul_le_mul_of_nonneg_left (by omega) (by omega)
  have hshare := Int.ediv_le_ediv (show 0 < topScore entries by omega) hproduct
  unfold barWidth
  omega

/-- The highest score fills the track if it is positive. -/
theorem barWidth_full (he : e ∈ entries) (hpos : 0 < e.score)
    (hhighest : ∀ e' ∈ entries, e'.score ≤ e.score) (track : Nat) :
    barWidth entries track e.score = track := by
  have hfull := fullScore_topScore entries
  have htop : topScore entries = e.score := by
    have hle := hfull.le e he
    rcases hfull.reached with hone | ⟨e', he', hscore⟩
    · omega
    · have hle' := hhighest e' he'
      omega
  have hwidth := barWidth_eq he track
  rw [htop, Int.max_eq_left (Int.le_of_lt hpos), Int.mul_ediv_cancel _ (Int.ne_of_gt hpos)]
    at hwidth
  exact Int.ofNat_inj.mp hwidth

end

/-! ### Bars -/

/-- A point lies on the bar of a row. -/
def OnBar (row width x y : Nat) : Prop :=
  (8 ≤ x ∧ x < 8 + width) ∧ 8 * (row + 1) + 1 ≤ y ∧ y ≤ 8 * (row + 2) - 2

instance (row width x y : Nat) : Decidable (OnBar row width x y) :=
  inferInstanceAs (Decidable (_ ∧ _))

/-- Bars of different rows have no point in common. -/
theorem OnBar.row_unique {row row' width width' x y : Nat} (h : OnBar row width x y)
    (h' : OnBar row' width' x y) : row = row' := by
  unfold OnBar at h h'
  omega

/-- A bar on the track of a row that fits keeps away from the edges. -/
theorem OnBar.framed {row width x y : Nat} {screen : Image} (h : OnBar row width x y)
    (hwidth : width ≤ barTrack screen.width) (hrow : row < barRows screen.height) :
    8 ≤ x ∧ x + 8 < screen.width ∧ 8 ≤ y ∧ y + 8 < screen.height := by
  unfold OnBar at h
  simp only [barTrack, barRows, cellSide] at hwidth hrow
  omega

theorem get?_stamp_bar (screen : Image) (row width : Nat) (color : Rgba) {x y : Nat}
    (hx : x < screen.width) (hy : y < screen.height) :
    (screen.stamp cellSide (cellSide * (row + 1) + 1 : Nat) width (cellSide - 2)
        fun _ _ => some color).get? x y
      = (if OnBar row width x y then some color else none).or (screen.get? x y) := by
  have hon : OnBar row width x y ↔
      ((cellSide : Nat) : Int) ≤ x ∧ (x : Int) < (cellSide : Nat) + width ∧
        ((cellSide * (row + 1) + 1 : Nat) : Int) ≤ y ∧
        (y : Int) < (cellSide * (row + 1) + 1 : Nat) + (cellSide - 2 : Nat) ∧
        x < screen.width ∧ y < screen.height := by
    unfold OnBar
    simp only [cellSide]
    omega
  rw [Image.get?_stamp]
  by_cases hbar : OnBar row width x y
  · rw [if_pos (hon.mp hbar), if_pos hbar]
  · rw [if_neg fun h => hbar (hon.mpr h), if_neg hbar]
    rfl

/-- An entry has a bar with a point on it. -/
def HasBar (entries : List LeaderboardEntry) (screen : Image) (x y row : Nat)
    (e : LeaderboardEntry) : Prop :=
  entries[row]? = some e ∧ row < barRows screen.height ∧
    OnBar row (barWidth entries (barTrack screen.width) e.score) x y

section

variable {palette : Palette} {entries : List LeaderboardEntry} {screen : Image} {x y row : Nat}
  {e : LeaderboardEntry}

theorem HasBar.framed (h : HasBar entries screen x y row e) :
    8 ≤ x ∧ x + 8 < screen.width ∧ 8 ≤ y ∧ y + 8 < screen.height :=
  h.2.2.framed (barWidth_le entries _ e.score) h.2.1

theorem mem_zipIdx_take_iff {n : Nat} {p : LeaderboardEntry × Nat} :
    p ∈ (entries.take n).zipIdx ↔ entries[p.2]? = some p.1 ∧ p.2 < n := by
  rw [List.mem_zipIdx_iff_getElem?, List.getElem?_take]
  by_cases hlt : p.2 < n <;> simp [hlt]

/-- The drawn leaderboard shows, at each point of the screen, the bar of an entry or what was there
before. -/
theorem get?_drawLeaderboard (hx : x < screen.width) (hy : y < screen.height) :
    (∀ row e, HasBar entries screen x y row e →
        (drawLeaderboard palette entries screen).get? x y = some (barColor palette row)) ∧
      ((∀ row e, ¬ HasBar entries screen x y row e) →
        (drawLeaderboard palette entries screen).get? x y = screen.get? x y) := by
  let seen : LeaderboardEntry × Nat → Option Rgba := fun p =>
    if OnBar p.2 (barWidth entries (barTrack screen.width) p.1.score) x y then
      some (barColor palette p.2)
    else none
  have hdrawn : (drawLeaderboard palette entries screen).get? x y =
      (((entries.take (barRows screen.height)).zipIdx.reverse).findSome? seen).or
        (screen.get? x y) :=
    get?_foldl_draw
      (fun img p => ⟨Image.width_stamp _ _ _ _ _ _, Image.height_stamp _ _ _ _ _ _⟩) seen
      (fun img p hx hy => get?_stamp_bar img p.2 _ _ hx hy) _ hx hy
  have hbar : ∀ {p color}, p ∈ (entries.take (barRows screen.height)).zipIdx.reverse →
      seen p = some color → HasBar entries screen x y p.2 p.1 ∧ color = barColor palette p.2 := by
    intro p color hmem hseen
    obtain ⟨hentry, hfits⟩ := mem_zipIdx_take_iff.mp (List.mem_reverse.mp hmem)
    obtain ⟨hon, hcolor⟩ := Option.ite_none_right_eq_some.mp hseen
    exact ⟨⟨hentry, hfits, hon⟩, (Option.some.inj hcolor).symm⟩
  rw [hdrawn]
  cases hfound : ((entries.take (barRows screen.height)).zipIdx.reverse).findSome? seen with
  | none =>
    refine ⟨fun row e h => ?_, fun _ => rfl⟩
    have hmem := List.mem_reverse.mpr ((mem_zipIdx_take_iff (p := (e, row))).mpr ⟨h.1, h.2.1⟩)
    have hnone := List.findSome?_eq_none_iff.mp hfound _ hmem
    rw [show seen (e, row) = some (barColor palette row) from if_pos h.2.2] at hnone
    cases hnone
  | some color =>
    obtain ⟨p, hmem, hseen⟩ := List.exists_of_findSome?_eq_some hfound
    obtain ⟨hhas, rfl⟩ := hbar hmem hseen
    refine ⟨fun row e h => ?_, fun hfree => absurd hhas (hfree p.2 p.1)⟩
    rw [hhas.2.2.row_unique h.2.2]
    rfl

end

/-- What a leaderboard leaves of a screen. -/
structure Overlaid (palette : Palette) (entries : List LeaderboardEntry) (before after : Image) :
    Prop where
  width : after.width = before.width
  height : after.height = before.height
  /-- The bar of each entry whose row fits. -/
  bars : ∀ row e, entries[row]? = some e → row < before.height / 8 - 2 → ∀ x y,
    OnBar row (barWidth entries (before.width - 16) e.score) x y →
      after.get? x y = some (barColor palette row)
  /-- Nothing else is drawn. -/
  rest : ∀ x y, (∀ row e, entries[row]? = some e → row < before.height / 8 - 2 →
    ¬ OnBar row (barWidth entries (before.width - 16) e.score) x y) →
      after.get? x y = before.get? x y
  framed : ∀ x y, after.get? x y ≠ before.get? x y →
    8 ≤ x ∧ x + 8 < before.width ∧ 8 ≤ y ∧ y + 8 < before.height
  scaled : ∃ top, FullScore entries top ∧ ∀ e ∈ entries, ∀ track : Nat,
    (barWidth entries track e.score : Int) = track * max e.score 0 / top
  bounded : ∀ e ∈ entries, ∀ track, barWidth entries track e.score ≤ track
  monotone : ∀ e ∈ entries, ∀ e' ∈ entries, e.score ≤ e'.score →
    ∀ track, barWidth entries track e.score ≤ barWidth entries track e'.score
  full : ∀ e ∈ entries, 0 < e.score → (∀ e' ∈ entries, e'.score ≤ e.score) →
    ∀ track, barWidth entries track e.score = track

theorem overlaid_drawLeaderboard (palette : Palette) (entries : List LeaderboardEntry)
    (screen : Image) : Overlaid palette entries screen (drawLeaderboard palette entries screen) := by
  obtain ⟨hwidth, hheight⟩ := size_drawLeaderboard palette entries screen
  have hrest : ∀ x y, (∀ row e, ¬ HasBar entries screen x y row e) →
      (drawLeaderboard palette entries screen).get? x y = screen.get? x y := by
    intro x y hfree
    by_cases hon : x < screen.width ∧ y < screen.height
    · exact (get?_drawLeaderboard hon.1 hon.2).2 hfree
    · rw [Image.get?, Image.get?, hwidth, hheight, if_neg hon, if_neg hon]
  constructor
  case width => exact hwidth
  case height => exact hheight
  case bars =>
    intro row e hentry hrow x y hon
    have hbar : HasBar entries screen x y row e := ⟨hentry, hrow, hon⟩
    obtain ⟨-, hx, -, hy⟩ := hbar.framed
    exact (get?_drawLeaderboard (by omega) (by omega)).1 row e hbar
  case rest =>
    intro x y hfree
    exact hrest x y fun row e hbar => hfree row e hbar.1 hbar.2.1 hbar.2.2
  case framed =>
    intro x y hchanged
    by_cases hbar : ∃ row e, HasBar entries screen x y row e
    · obtain ⟨row, e, hbar⟩ := hbar
      exact hbar.framed
    · exact absurd (hrest x y fun row e h => hbar ⟨row, e, h⟩) hchanged
  case scaled =>
    exact ⟨topScore entries, fullScore_topScore entries, fun e he track => barWidth_eq he track⟩
  case bounded => exact fun e _ track => barWidth_le entries track e.score
  case monotone => exact fun e _ e' _ hle track => barWidth_mono entries track hle
  case full => exact fun e he hpos hhighest track => barWidth_full he hpos hhighest track

end Handheld.Scene
