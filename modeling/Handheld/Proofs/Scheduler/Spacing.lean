import Handheld.Proofs.Scheduler.Delta

/-!
# The space between ticks

The tick after a tick is planned when that one is ended, and for a period after it began. However
late the end comes, and however often, it plans the same tick, and nothing but a start plans
another. So ticks that are late are followed by single ticks a period apart.

* `Served.begun?`, `Served.ends`: the ticks of a history, and their ends;
* `Pace`, `Served.pace`: the tick that was begun last, read off a history;
* `Paced`, `paced_step`, `paced_run`: the scheduler remembers that tick, or has planned the next;
* `le_began_run`: each tick takes a period at least;
* `spaced_run`: when a tick is begun after another, and after how many.
-/

namespace Handheld.Scheduler

/-! ### The tick that was begun last -/

/-- When the tick began that was asked for, if one did. -/
def Served.begun? : Served → Option Int
  | ⟨.beginTick now, .tick (some _)⟩ => some now
  | _ => none

/-- Whether the tick in flight was to be ended. -/
def Served.ends : Served → Bool
  | ⟨.endTick _, _⟩ => true
  | _ => false

/-- When the tick began that was begun last, and whether it was ended since. -/
structure Pace where
  began : Int
  ended : Bool

/-- The tick that was begun last, after one more request. -/
def Served.pace (p : Pace) (e : Served) : Pace :=
  match e.begun? with
  | some now => ⟨now, false⟩
  | none => { p with ended := p.ended || e.ends }

/-- The scheduler remembers the tick that was begun last until it is ended. From then on the next
one is planned, a period after this one began, unless the scheduler was stopped. -/
structure Paced (s : Scheduler) (p : Pace) : Prop where
  inFlight : s.inFlight = if p.ended then none else some p.began
  nextTick : s.nextTick = if p.ended && s.isActive then some (p.began + s.period) else none

variable {s : Scheduler} {p : Pace}

/-- A tick that is begun is remembered, whatever was planned before. -/
theorem paced_beginTick {now : Int} (htick : (s.beginTick now).1.isSome = true) :
    Paced (s.beginTick now).2 ⟨now, false⟩ := by
  have hdue : s.isDue now = true := (s.beginTick_isSome_iff now).mp htick
  rw [beginTick, hdue, if_pos rfl]
  split <;> exact ⟨rfl, rfl⟩

/-- What is begun was planned: the tick before was ended, and began a period ago at least. -/
theorem Paced.isDue_iff (h : Paced s p) (now : Int) :
    s.isDue now = true ↔ s.isActive = true ∧ p.ended = true ∧ p.began + s.period ≤ now := by
  rw [isDue, h.nextTick]
  cases s.isActive <;> cases p.ended <;> simp

/-- A request that leaves the tick in flight alone, and what is planned unless it stops. -/
theorem Paced.aside (h : Paced s p) {t : Scheduler} (hflight : t.inFlight = s.inFlight)
    (hperiod : t.period = s.period) (hactive : t.isActive = s.isActive)
    (hnext : t.nextTick = s.nextTick) : Paced t p where
  inFlight := hflight.trans h.inFlight
  nextTick := by rw [hnext, hactive, hperiod, h.nextTick]

theorem Paced.endTick (h : Paced s p) (now : Int) :
    Paced (s.endTick now) { p with ended := true } := by
  unfold Scheduler.endTick
  cases hended : p.ended with
  | true =>
    -- an end that comes again finds nothing in flight
    have hnone : s.inFlight = none := by rw [h.inFlight, hended, if_pos rfl]
    rw [hnone]
    refine ⟨hnone, ?_⟩
    rw [h.nextTick, hended]
  | false =>
    have hflight : s.inFlight = some p.began := by rw [h.inFlight, hended]; rfl
    have hnext : s.nextTick = none := by rw [h.nextTick, hended]; rfl
    rw [hflight]
    refine ⟨rfl, ?_⟩
    show (if s.isActive then some (p.began + s.period) else s.nextTick)
      = if true && s.isActive then some (p.began + s.period) else none
    rw [hnext, Bool.true_and]

theorem paced_step (h : Paced s p) (r : Request)
    (hstart : Served.starts ⟨r, (s.step r).1⟩ = false) :
    Paced (s.step r).2 (Served.pace p ⟨r, (s.step r).1⟩) := by
  have hkept : ∀ e : Served, e.begun? = none → e.ends = false → Served.pace p e = p := by
    intro e hbegun hends
    rw [Served.pace, hbegun, hends, Bool.or_false]
  cases r with
  | start now =>
    rw [hkept _ rfl rfl]
    show Paced (s.start now).2 p
    have hrefused : (s.start now).1 = false := hstart
    unfold start at hrefused ⊢
    split
    · rename_i hstopped
      rw [hstopped] at hrefused
      cases hrefused
    · exact h
  | stop =>
    rw [hkept _ rfl rfl]
    show Paced s.stop.2 p
    have hplanned : s.stop.2.nextTick = none ∧ s.stop.2.isActive = false ∧
        s.stop.2.inFlight = s.inFlight := by
      unfold stop isActive
      split
      · rename_i hstopped
        exact ⟨rfl, by rw [hstopped]; rfl, rfl⟩
      · exact ⟨rfl, rfl, rfl⟩
    obtain ⟨hnext, hactive, hflight⟩ := hplanned
    refine ⟨hflight.trans h.inFlight, ?_⟩
    rw [hnext, hactive, Bool.and_false, if_neg Bool.false_ne_true]
  | pause =>
    rw [hkept _ rfl rfl]
    show Paced s.pause.2 p
    unfold pause
    split
    · rename_i hrunning
      exact h.aside rfl rfl (by rw [isActive, isActive, hrunning]; rfl) rfl
    · exact h
  | unpause =>
    rw [hkept _ rfl rfl]
    show Paced s.unpause.2 p
    unfold unpause
    split
    · rename_i hpaused
      exact h.aside rfl rfl (by rw [isActive, isActive, hpaused]; rfl) rfl
    · exact h
  | resetTiming =>
    rw [hkept _ rfl rfl]
    exact h.aside rfl rfl rfl rfl
  | record phase duration =>
    rw [hkept _ rfl rfl]
    exact h.aside rfl rfl rfl rfl
  | beginTick now =>
    show Paced (s.beginTick now).2 (Served.pace p ⟨.beginTick now, .tick (s.beginTick now).1⟩)
    cases htick : (s.beginTick now).1 with
    | some tick => exact paced_beginTick (by rw [htick]; rfl)
    | none =>
      have hsame : (s.beginTick now).2 = s := by
        have hidle : s.isDue now = false := by
          rw [Bool.eq_false_iff, ne_eq, ← beginTick_isSome_iff, htick]
          exact Bool.false_ne_true
        rw [beginTick, hidle]
        rfl
      rw [hkept _ rfl rfl, hsame]
      exact h
  | endTick now =>
    have hended : Served.pace p ⟨.endTick now, (s.step (.endTick now)).1⟩
        = { p with ended := true } := congrArg (Pace.mk p.began) (Bool.or_true _)
    rw [hended]
    exact h.endTick now

/-! ### Runs -/

theorem period_step (s : Scheduler) (r : Request) : (s.step r).2.period = s.period := by
  have hserves := serves_step s r
  generalize (⟨r, (s.step r).1⟩ : Served) = e at hserves
  generalize (s.step r).2 = t at hserves
  cases hserves <;> rfl

theorem period_run (s : Scheduler) (rs : List Request) : (s.run rs).2.period = s.period := by
  induction rs generalizing s with
  | nil => rfl
  | cons r rs ih => exact (ih (s.step r).2).trans (period_step s r)

/-- Without a start the scheduler keeps the pace throughout a run. -/
theorem paced_run (h : Paced s p) (rs : List Request)
    (hstart : ∀ e ∈ s.history rs, e.starts = false) :
    Paced (s.run rs).2 ((s.history rs).foldl Served.pace p) := by
  induction rs generalizing s p with
  | nil => exact h
  | cons r rs ih =>
    obtain ⟨hfirst, hlater⟩ := List.forall_mem_cons.mp hstart
    exact ih (paced_step h r hfirst) hlater

/-- Only a tick that was due is begun. -/
theorem of_begun? {r : Request} {now : Int} (h : Served.begun? ⟨r, (s.step r).1⟩ = some now) :
    s.isDue now = true := by
  cases r with
  | beginTick time =>
    have htime : Served.begun? ⟨.beginTick time, .tick (s.beginTick time).1⟩ = some now := h
    rw [← beginTick_isSome_iff]
    cases htick : (s.beginTick time).1 with
    | none =>
      rw [htick] at htime
      cases htime
    | some tick =>
      rw [htick] at htime
      obtain rfl : time = now := Option.some.inj htime
      rw [htick]
      rfl
  | _ => cases h

/-- Each tick that is begun takes a period at least. -/
theorem le_began_run (h : Paced s p) (rs : List Request)
    (hstart : ∀ e ∈ s.history rs, e.starts = false) :
    p.began + s.period * ((s.history rs).filterMap Served.begun?).length
      ≤ ((s.history rs).foldl Served.pace p).began := by
  induction rs generalizing s p with
  | nil => simp [history]
  | cons r rs ih =>
    obtain ⟨hfirst, hlater⟩ := List.forall_mem_cons.mp hstart
    have hrest := ih (paced_step h r hfirst) hlater
    rw [period_step] at hrest
    rw [history, List.foldl_cons]
    cases hbegun : Served.begun? ⟨r, (s.step r).1⟩ with
    | none =>
      rw [List.filterMap_cons_none hbegun]
      rw [Served.pace, hbegun] at hrest ⊢
      exact hrest
    | some now =>
      have htick : p.began + s.period ≤ now := ((h.isDue_iff now).mp (of_begun? hbegun)).2.2
      have hpace : Served.pace p ⟨r, (s.step r).1⟩ = ⟨now, false⟩ := by rw [Served.pace, hbegun]
      rw [hpace] at hrest ⊢
      rw [List.filterMap_cons_some hbegun, List.length_cons, Int.natCast_succ, Int.mul_add,
        Int.mul_one]
      refine Int.le_trans ?_ hrest
      show _ ≤ now + _
      omega

/-- Between two ticks only ends matter. -/
theorem pace_of_no_tick {h : List Served} (hnone : h.filterMap Served.begun? = []) (p : Pace) :
    h.foldl Served.pace p = { p with ended := p.ended || h.any Served.ends } := by
  induction h generalizing p with
  | nil => rw [List.any_nil, Bool.or_false]; rfl
  | cons e h ih =>
    rw [List.filterMap_eq_nil_iff, List.forall_mem_cons] at hnone
    obtain ⟨hfirst, hlater⟩ := hnone
    rw [List.foldl_cons, ih (List.filterMap_eq_nil_iff.mpr hlater), Served.pace, hfirst,
      List.any_cons, Bool.or_assoc]

/-- As long as no start is accepted, every tick takes a period at least: a tick begun after another
with some in between comes later by a period for itself and one for each of them. The next tick is
begun exactly if the scheduler was not stopped and the tick before was ended, as soon as a period
has passed since that one began. -/
theorem spaced_run (period : Nat) (before between : List Request) (t₁ : Int) :
    let s := ((new period).run before).2
    let begun := (s.beginTick t₁).2
    let ticks := (begun.history between).filterMap Served.begun?
    let later := (begun.run between).2
    (s.beginTick t₁).1.isSome = true →
      (∀ e ∈ begun.history between, e.starts = false) →
      (∀ t₂, (later.beginTick t₂).1.isSome = true → t₁ + period * (ticks.length + 1) ≤ t₂) ∧
      (ticks = [] → ∀ t₂, (later.beginTick t₂).1.isSome = true ↔
        later.isActive = true ∧ (∃ e ∈ begun.history between, e.ends = true) ∧
          t₁ + period ≤ t₂) := by
  intro s begun ticks later htick hstart
  have hbegun : Paced begun ⟨t₁, false⟩ := paced_beginTick htick
  have hlater := paced_run hbegun between hstart
  have hperiod : begun.period = period :=
    (period_step s (.beginTick t₁)).trans (period_run (new period) before)
  have hperiod' : later.period = period := (period_run begun between).trans hperiod
  have hdue : ∀ t₂, (later.beginTick t₂).1.isSome = true ↔ _ := fun t₂ =>
    (beginTick_isSome_iff later t₂).trans (hlater.isDue_iff t₂)
  rw [hperiod'] at hdue
  constructor
  · intro t₂ htick₂
    have hlast : t₁ + begun.period * ticks.length
        ≤ ((begun.history between).foldl Served.pace ⟨t₁, false⟩).began :=
      le_began_run hbegun between hstart
    rw [hperiod] at hlast
    have hnext := ((hdue t₂).mp htick₂).2.2
    rw [Int.mul_add, Int.mul_one]
    show t₁ + (period * ticks.length + period) ≤ t₂
    omega
  · intro hnone t₂
    rw [hdue, pace_of_no_tick hnone, Bool.false_or, List.any_eq_true]

/-- A stall: a tick that is begun late, and is ended late and twice in a pause. The next one waits
for a whole period. -/
theorem spaced_run_stalled :
    let late : Int := 100000000
    let s := ((new standardPeriod).run [.start 0]).2
    let between : List Request :=
      [.pause, .endTick 150000000, .endTick 300000000, .unpause, .resetTiming, .beginTick 110000000]
    let later := ((s.beginTick late).2.run between).2
    ((s.beginTick late).1.isSome = true ∧
        ∀ e ∈ (s.beginTick late).2.history between, e.starts = false) ∧
      ∀ t₂, (later.beginTick t₂).1.isSome = true ↔ late + standardPeriod ≤ t₂ := by
  intro late s between later
  have htick : (s.beginTick late).1.isSome = true := rfl
  have hstart : ∀ e ∈ (s.beginTick late).2.history between, e.starts = false := by decide
  refine ⟨⟨htick, hstart⟩, fun t₂ => ?_⟩
  have hnext := (spaced_run standardPeriod [.start 0] between late htick hstart).2 rfl t₂
  refine hnext.trans ⟨fun h => h.2.2, fun h => ⟨rfl, ?_, h⟩⟩
  exact ⟨⟨.endTick 150000000, .done⟩, List.mem_cons_of_mem _ List.mem_cons_self, rfl⟩

end Handheld.Scheduler
