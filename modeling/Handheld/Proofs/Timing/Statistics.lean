import Handheld.Timing
import Mathlib.Algebra.Order.BigOperators.Group.List
import Mathlib.Algebra.Order.Field.Rat
import Mathlib.Data.List.DropRight
import Mathlib.Tactic.FieldSimp
import Mathlib.Tactic.Positivity
import Mathlib.Tactic.Ring

/-!
# Windows of durations and their statistics

A window holds the last thirty durations since it was emptied, in the order in which they came. Its
statistics are computed in one pass over their seconds, and reported as the mean of the pass and
the root of its variance. Read over the rationals, the pass ends with the mean and with the sum of
the squared deviations from it: after every sample the running mean is the mean of the samples so
far, and the product that the sample adds is what the squares grow by when the sample comes in and
the mean moves.

* `sampleMean`, `squaresAbout`: the two sums, each told by itself;
* `squaresAbout_eq`: the squares about any point, told from those about the mean;
* `Describes`, `Describes.add`, `describes_ofList`: one step of the pass, and the whole pass;
* `sinceClear`, `window_run`: the durations that a window holds;
* `stats_eq`, `Samples`: what a window reports, and what the pass says about it;
* `buffer_run`: the window of a phase after requests about every phase;
* `sampled_run`: the windows of a run and their statistics.
-/

namespace Handheld

/-! ### One pass -/

namespace Moments

/-- The arithmetic mean of some samples. -/
def sampleMean (xs : List ℚ) : ℚ := xs.sum / xs.length

/-- The sum of the squared deviations of some samples from a point. -/
def squaresAbout (center : ℚ) (xs : List ℚ) : ℚ := (xs.map fun x => (x - center) ^ 2).sum

/-- What a pass over some samples ends with. -/
structure Describes (m : Moments ℚ) (xs : List ℚ) : Prop where
  count : m.count = xs.length
  mean : m.mean = sampleMean xs
  squares : m.squares = squaresAbout (sampleMean xs) xs

theorem length_mul_sampleMean (xs : List ℚ) : xs.length * sampleMean xs = xs.sum := by
  rcases List.eq_nil_or_concat xs with rfl | ⟨ys, y, rfl⟩
  · simp [sampleMean]
  · have hsome : (((ys.concat y).length : ℕ) : ℚ) ≠ 0 := by simp; positivity
    rw [sampleMean, mul_div_cancel₀ _ hsome]

theorem squaresAbout_concat (center : ℚ) (xs : List ℚ) (x : ℚ) :
    squaresAbout center (xs ++ [x]) = squaresAbout center xs + (x - center) ^ 2 := by
  simp [squaresAbout]

theorem squaresAbout_nonneg (center : ℚ) (xs : List ℚ) : 0 ≤ squaresAbout center xs := by
  refine List.sum_nonneg fun square hsquare => ?_
  obtain ⟨x, -, rfl⟩ := List.mem_map.mp hsquare
  exact sq_nonneg _

/-- Moving the point by some distance changes the squares by twice the distance for every
deviation, and by its square. -/
theorem squaresAbout_move (center center' : ℚ) (xs : List ℚ) :
    squaresAbout center' xs = squaresAbout center xs
      + 2 * (center - center') * (xs.sum - xs.length * center)
      + xs.length * (center - center') ^ 2 := by
  induction xs using List.reverseRecOn with
  | nil => simp [squaresAbout]
  | append_singleton xs x ih =>
    rw [squaresAbout_concat, squaresAbout_concat, ih, List.sum_append, List.length_append]
    push_cast
    simp only [List.sum_singleton, List.length_singleton, Nat.cast_one]
    ring

/-- Deviations from the mean cancel, so any other point has more squares: its squared distance from
the mean for every sample. -/
theorem squaresAbout_eq (center : ℚ) (xs : List ℚ) :
    squaresAbout center xs = squaresAbout (sampleMean xs) xs
      + xs.length * (sampleMean xs - center) ^ 2 := by
  rw [squaresAbout_move (sampleMean xs) center, length_mul_sampleMean, sub_self]
  ring

/-- The mean moves by the new sample's share of its distance. -/
theorem sampleMean_concat (xs : List ℚ) (x : ℚ) :
    sampleMean (xs ++ [x]) = sampleMean xs + (x - sampleMean xs) / (xs.length + 1) := by
  have hsize : (xs.length : ℚ) + 1 ≠ 0 := by positivity
  have hsum := length_mul_sampleMean xs
  have hgrown : sampleMean (xs ++ [x]) = (xs.sum + x) / (xs.length + 1) := by
    simp [sampleMean]
  rw [hgrown, ← hsum]
  field_simp
  ring

/-- The squares grow by the product of the new sample's distances from the mean before and after. -/
theorem squaresAbout_sampleMean_concat (xs : List ℚ) (x : ℚ) :
    squaresAbout (sampleMean (xs ++ [x])) (xs ++ [x])
      = squaresAbout (sampleMean xs) xs
        + (x - sampleMean xs) * (x - sampleMean (xs ++ [x])) := by
  have hsize : (xs.length : ℚ) + 1 ≠ 0 := by positivity
  rw [squaresAbout_concat, squaresAbout_eq (sampleMean (xs ++ [x])) xs, sampleMean_concat]
  field_simp
  ring

/-- One step of the pass takes one more sample into account. -/
theorem Describes.add {m : Moments ℚ} {xs : List ℚ} (h : Describes m xs) (x : ℚ) :
    Describes (m.add Nat.cast x) (xs ++ [x]) := by
  have hmean : (m.add Nat.cast x).mean = sampleMean (xs ++ [x]) := by
    rw [sampleMean_concat]
    simp [Moments.add, h.mean, h.count]
  constructor
  case count => simp [Moments.add, h.count]
  case mean => exact hmean
  case squares =>
    have hgrown : (m.add Nat.cast x).squares
        = m.squares + (x - m.mean) * (x - (m.add Nat.cast x).mean) := rfl
    rw [squaresAbout_sampleMean_concat, hgrown, hmean, h.squares, h.mean]

section

variable {α : Type} [Add α] [Sub α] [Mul α] [Div α] (ofCount : ℕ → α) (zero : α)

theorem ofList_concat (xs : List α) (x : α) :
    ofList ofCount zero (xs ++ [x]) = (ofList ofCount zero xs).add ofCount x := by
  simp [ofList]

/-- A pass counts its samples, whatever numbers they are. -/
theorem count_ofList (xs : List α) : (ofList ofCount zero xs).count = xs.length := by
  induction xs using List.reverseRecOn with
  | nil => rfl
  | append_singleton xs x ih =>
    rw [ofList_concat, List.length_append, List.length_singleton, ← ih]
    rfl

end

/-- The pass over some samples ends with their mean and the squared deviations from it. -/
theorem describes_ofList (xs : List ℚ) : Describes (ofList Nat.cast 0 xs) xs := by
  induction xs using List.reverseRecOn with
  | nil => exact ⟨rfl, by simp [ofList, start, sampleMean], rfl⟩
  | append_singleton xs x ih =>
    rw [ofList_concat]
    exact ih.add x

end Moments

/-! ### Windows -/

namespace TimingBuffer

/-- A request to a window. -/
inductive Request
  | add (duration : Nat)
  | clear
  deriving DecidableEq

/-- The duration that a request adds. -/
def Request.duration? : Request → Option Nat
  | .add duration => some duration
  | .clear => none

def step (b : TimingBuffer) : Request → TimingBuffer
  | .add duration => b.add duration
  | .clear => b.clear

/-- The window after some requests. -/
def run (b : TimingBuffer) (rs : List Request) : TimingBuffer := rs.foldl step b

/-- The durations that were added since the window was emptied last, in their order. -/
def sinceClear (rs : List Request) : List Nat :=
  (rs.rtakeWhile fun r => r ≠ .clear).filterMap Request.duration?

theorem sinceClear_add (rs : List Request) (duration : Nat) :
    sinceClear (rs ++ [.add duration]) = sinceClear rs ++ [duration] := by
  simp [sinceClear, Request.duration?]

theorem sinceClear_clear (rs : List Request) : sinceClear (rs ++ [.clear]) = [] := by
  simp [sinceClear]

theorem run_concat (b : TimingBuffer) (rs : List Request) (r : Request) :
    b.run (rs ++ [r]) = (b.run rs).step r := by
  simp [run]

/-- The last thirty of what was there and one more are the last thirty of all. -/
theorem rtake_rtake_concat (ds : List Nat) (duration : Nat) :
    (ds.rtake capacity ++ [duration]).rtake capacity = (ds ++ [duration]).rtake capacity := by
  unfold List.rtake capacity
  rw [← List.drop_append_of_le_length (by omega), List.drop_drop]
  congr 1
  simp only [List.length_append, List.length_drop, List.length_singleton]
  omega

/-- A window holds the last thirty durations since it was emptied. -/
theorem window_run (rs : List Request) :
    (run {} rs).window = (sinceClear rs).rtake capacity := by
  induction rs using List.reverseRecOn with
  | nil => rfl
  | append_singleton rs r ih =>
    rw [run_concat]
    cases r with
    | clear =>
      rw [sinceClear_clear]
      rfl
    | add duration =>
      rw [sinceClear_add, ← rtake_rtake_concat, ← ih]
      rfl

/-- The seconds of the durations of a window, as rational numbers. -/
def exactSeconds (b : TimingBuffer) : List ℚ :=
  b.window.map fun d : Nat => (d : ℚ) / 1000000000

/-- A window of the last thirty of some durations, what it reports, and what its pass is over
rational numbers. -/
structure Samples (ds : List Nat) (b : TimingBuffer) : Prop where
  window : b.window = ds.rtake 30
  size : b.size = min 30 ds.length
  /-- The pass goes over the seconds of the window. -/
  moments : b.moments = .ofList (fun n => Number.ofWhole n) 0 (b.window.map Duration.seconds)
  /-- The mean of the pass and the root of its variance are reported, zero in place of less. -/
  stats : b.stats =
    let mean := b.moments.mean
    let variance := b.moments.variance (fun n => Number.ofWhole n) 0
    if b.window = [] then (0, 0)
    else (Duration.ofSeconds (if 0 < mean then mean else 0),
      Duration.ofSeconds (if 0 < variance then variance else 0).sqrt)
  /-- Over rational numbers the pass ends with the mean and the squared deviations from it. -/
  describes : (Moments.ofList Nat.cast 0 b.exactSeconds).Describes b.exactSeconds
  variance : (Moments.ofList Nat.cast 0 b.exactSeconds).variance Nat.cast 0 =
    if 1 < b.size then
      Moments.squaresAbout (Moments.sampleMean b.exactSeconds) b.exactSeconds / (b.size - 1)
    else 0
  nonneg : 0 ≤ (Moments.ofList Nat.cast 0 b.exactSeconds).variance Nat.cast 0

/-- A window without durations reports zeros, any other one its mean and its deviation. -/
theorem stats_eq (b : TimingBuffer) : b.stats =
    let mean := b.moments.mean
    let variance := b.moments.variance (fun n => Number.ofWhole n) 0
    if b.window = [] then (0, 0)
    else (Duration.ofSeconds (if 0 < mean then mean else 0),
      Duration.ofSeconds (if 0 < variance then variance else 0).sqrt) := by
  have hcount : b.moments.count = 0 ↔ b.window = [] := by
    rw [moments, Moments.count_ofList, List.length_map, List.length_eq_zero_iff]
  simp only [stats, hcount]
  rfl

theorem variance_exact (b : TimingBuffer) :
    (Moments.ofList Nat.cast 0 b.exactSeconds).variance Nat.cast 0 =
      if 1 < b.size then
        Moments.squaresAbout (Moments.sampleMean b.exactSeconds) b.exactSeconds / (b.size - 1)
      else 0 := by
  have hcount : (Moments.ofList Nat.cast 0 b.exactSeconds).count = b.size := by
    rw [Moments.count_ofList, exactSeconds, List.length_map]
    rfl
  rw [Moments.variance, hcount]
  split
  · rename_i hseveral
    rw [(Moments.describes_ofList _).squares, Nat.cast_sub (Nat.le_of_lt hseveral), Nat.cast_one]
  · rfl

theorem variance_exact_nonneg (b : TimingBuffer) :
    0 ≤ (Moments.ofList Nat.cast 0 b.exactSeconds).variance Nat.cast 0 := by
  rw [variance_exact]
  split
  · rename_i hseveral
    have hdivisor : (0 : ℚ) ≤ b.size - 1 := by
      rw [sub_nonneg]
      exact_mod_cast Nat.le_of_lt hseveral
    exact div_nonneg (Moments.squaresAbout_nonneg _ _) hdivisor
  · exact le_refl 0

theorem samples_of_window {ds : List Nat} {b : TimingBuffer} (h : b.window = ds.rtake 30) :
    Samples ds b := by
  have hsize : b.size = min 30 ds.length := by
    rw [size, h, List.rtake, List.length_drop]
    omega
  exact ⟨h, hsize, rfl, stats_eq b, Moments.describes_ofList _, variance_exact b,
    variance_exact_nonneg b⟩

end TimingBuffer

/-! ### The windows of the phases -/

namespace FrameTimings

/-- A request to the windows of the phases. -/
inductive Request
  | add (phase : Phase) (duration : Nat)
  | clear

/-- What a request asks of the window of a phase. -/
def Request.about (p : Phase) : Request → Option TimingBuffer.Request
  | .add phase duration => if phase = p then some (.add duration) else none
  | .clear => some .clear

def step (t : FrameTimings) : Request → FrameTimings
  | .add phase duration => t.add phase duration
  | .clear => t.clear

/-- The windows after some requests. -/
def run (t : FrameTimings) (rs : List Request) : FrameTimings := rs.foldl step t

/-- A window changes by the requests about its own phase, and by no other one. -/
theorem buffer_step (t : FrameTimings) (r : Request) (p : Phase) :
    (t.step r).buffer p = (r.about p).elim (t.buffer p) (t.buffer p).step := by
  cases r with
  | clear => cases p <;> rfl
  | add phase duration =>
    by_cases hsame : phase = p
    · rw [Request.about, if_pos hsame, ← hsame]
      exact t.buffer_add_same phase duration
    · rw [Request.about, if_neg hsame]
      exact t.buffer_add_other duration hsame

/-- The window of a phase after requests about every phase is its window after its own. -/
theorem buffer_run (t : FrameTimings) (rs : List Request) (p : Phase) :
    (t.run rs).buffer p = (t.buffer p).run (rs.filterMap (Request.about p)) := by
  induction rs generalizing t with
  | nil => rfl
  | cons r rs ih =>
    have hrun : (t.run (r :: rs)).buffer p = ((t.step r).run rs).buffer p := rfl
    rw [hrun, ih, buffer_step, List.filterMap_cons]
    cases r.about p <;> rfl

/-- A window holds the last thirty durations since it was emptied, and reports the mean and the
deviation of its pass over them, which over rational numbers are their mean and the root of their
sample variance. The windows of the phases are such windows, each of the requests about its own
phase: a duration that is added to a phase leaves the windows of the others as they are. -/
theorem sampled_run :
    (∀ rs : List TimingBuffer.Request,
        TimingBuffer.Samples (TimingBuffer.sinceClear rs) (TimingBuffer.run {} rs)) ∧
      ∀ rs : List Request, ∀ p : Phase,
        (run {} rs).buffer p = TimingBuffer.run {} (rs.filterMap (Request.about p)) ∧
          ∀ phase duration, ((run {} rs).add phase duration).buffer p =
            if phase = p then ((run {} rs).buffer p).add duration else (run {} rs).buffer p := by
  refine ⟨fun rs => TimingBuffer.samples_of_window (TimingBuffer.window_run rs), fun rs p => ?_⟩
  constructor
  · have hempty : (({} : FrameTimings).buffer p) = {} := by cases p <;> rfl
    rw [buffer_run, hempty]
  · intro phase duration
    have hstep := buffer_step (run {} rs) (.add phase duration) p
    rw [Request.about] at hstep
    split at hstep
    · rename_i hsame
      rw [if_pos hsame]
      exact hstep
    · rename_i hother
      rw [if_neg hother]
      exact hstep

end FrameTimings

end Handheld
