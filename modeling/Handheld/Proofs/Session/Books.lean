import Mathlib.Data.List.Basic
import Handheld.Proofs.Session.Poll

/-!
# Who reports the end of a game

The display remembers that a game's end was marked, every operation that puts the display back
forgets it, and the update tick that marks it queues a report. This file says which reports those
are by the history of a run alone, and that the queue holds exactly what no poll has come for yet.
Loads, resets and everything else that happens in between leave the reports where they are.

* `Raise`, `raises`, `reached`, `owed`: the first reports of an end in a history, and whether a
  later poll reaches them;
* `length_raises`: until the display is put back there is one at most;
* `Books`: the queue holds what is owed, in one piece;
* `Booked`, `rule_booked`: every operation keeps the books.
-/

namespace Handheld

/-- The queued work apart from first frames. -/
def DeferredQueue.reports (q : DeferredQueue) : List (Int × DeferredTask) :=
  q.pending.filter fun e => e.2 ≠ .firstFrame

/-- The scores that wait to be submitted. -/
def DeferredQueue.scores (q : DeferredQueue) : List Int :=
  q.reports.filterMap fun e => match e.2 with
    | .submitScore score => some score
    | .fetchLeaderboard | .firstFrame => none

namespace Session

/-! ### The first reports of an end -/

/-- The first report of a game's end: when the update tick ran, and the score that it left. -/
structure Raise where
  time : Int
  score : Int

/-- What a report queues. -/
def Raise.tasks (r : Raise) : List (Int × DeferredTask) := reportOf r.time r.score

/-- What a report is observed as. -/
def Raise.acts (r : Raise) : List Effect := [.submitted r.score, .fetched]

/-- Whether the game's end was reported since the display was put back, after one more
operation. -/
def Event.endedAfter (ended : Bool) : Event → Bool
  | .began | .disposed => false
  | .polled _ (some tick) => ended || endsGame tick.answer
  | .polled _ none | .passed => ended

/-- The report of an operation, if it is the first since the display was put back. -/
def Event.raise? (ended : Bool) : Event → Option Raise
  | .polled now (some tick) =>
    if !ended && endsGame tick.answer then some ⟨now, tick.score⟩ else none
  | .polled _ none | .began | .disposed | .passed => none

/-- Whether an operation is a poll at a time or later. -/
def Event.reaches (time : Int) : Event → Bool
  | .polled now _ => time ≤ now
  | .began | .disposed | .passed => false

/-- Whether one of some operations is a poll that reaches a report. -/
def Raise.reachedBy (r : Raise) (events : List Event) : Bool :=
  events.any (Event.reaches r.time)

/-- The first reports of an end, in order, each with whether a later poll reaches it. -/
def raises (ended : Bool) : List Event → List (Raise × Bool)
  | [] => []
  | e :: es => (e.raise? ended).toList.map (fun r => (r, r.reachedBy es))
      ++ raises (e.endedAfter ended) es

/-- The reports that a later poll reaches. -/
def reached (ended : Bool) (events : List Event) : List Raise :=
  ((raises ended events).filter fun r => r.2).map Prod.fst

/-- The reports that no later poll reaches. -/
def owed (ended : Bool) (events : List Event) : List Raise :=
  ((raises ended events).filter fun r => !r.2).map Prod.fst

/-- Only a poll reaches anything. -/
theorem reaches_of_quiet {e : Event} (he : e = .began ∨ e = .passed) (time : Int) :
    e.reaches time = false := by
  rcases he with rfl | rfl <;> rfl

/-- Only a poll reports anything. -/
theorem raise?_of_quiet {e : Event} (he : e = .began ∨ e = .passed) {ended : Bool} :
    e.raise? ended = none := by
  rcases he with rfl | rfl <;> rfl

/-- The times of the polls. -/
def pollTimes (ops : List Operation) : List Int :=
  ops.filterMap fun op => match op with
    | .poll now => some now
    | _ => none

theorem reached_cons (ended : Bool) (e : Event) (es : List Event) :
    reached ended (e :: es)
      = (e.raise? ended).toList.filter (fun r => r.reachedBy es)
        ++ reached (e.endedAfter ended) es := by
  rw [reached, raises, List.filter_append, List.map_append, List.filter_map, List.map_map]
  congr 1
  exact List.map_id _

theorem owed_cons (ended : Bool) (e : Event) (es : List Event) :
    owed ended (e :: es)
      = (e.raise? ended).toList.filter (fun r => !r.reachedBy es)
        ++ owed (e.endedAfter ended) es := by
  rw [owed, raises, List.filter_append, List.map_append, List.filter_map, List.map_map]
  congr 1
  exact List.map_id _

theorem length_reached_add_owed (ended : Bool) (events : List Event) :
    (reached ended events).length + (owed ended events).length = (raises ended events).length := by
  rw [reached, owed, List.length_map, List.length_map]
  exact (List.length_eq_length_filter_add Prod.snd).symm

/-- Until the display is put back there is one first report at most, and none once the end was
reported. -/
theorem length_raises (ended : Bool) {events : List Event}
    (h : ∀ e ∈ events, e.restarts = false) :
    (raises ended events).length ≤ (!ended).toNat := by
  induction events generalizing ended with
  | nil => exact Nat.zero_le _
  | cons e es ih =>
    have htail := ih (e.endedAfter ended) fun e' he' => h e' (List.mem_cons_of_mem e he')
    have he := h e List.mem_cons_self
    rw [raises, List.length_append, List.length_map]
    match e, he with
    | .passed, _ => simpa [Event.raise?, Event.endedAfter] using htail
    | .polled _ none, _ => simpa [Event.raise?, Event.endedAfter] using htail
    | .polled now (some tick), _ =>
      -- a first report uses up the one that there may be
      cases hends : endsGame tick.answer with
      | false => simpa [Event.raise?, Event.endedAfter, hends] using htail
      | true =>
        have hover : Event.endedAfter ended (.polled now (some tick)) = true := by
          simp [Event.endedAfter, hends]
        have hlength : ((Event.raise? ended (.polled now (some tick))).toList).length
            = (!ended).toNat := by
          cases ended <;> simp [Event.raise?, hends]
        rw [hover] at htail ⊢
        rw [hlength]
        exact Nat.add_le_add_left htail _

/-! ### What waits in the queue -/

/-- The queue holds what is owed, in one piece. Only first frames may stand before and after
it. -/
def Books (s : Session) (owed : List Raise) : Prop :=
  ∃ before after, s.deferred.pending = before ++ owed.flatMap Raise.tasks ++ after ∧
    ∀ e ∈ before ++ after, e.2 = .firstFrame

/-- What is owed after one more operation. -/
def Event.owedAfter (ended : Bool) (owed : List Raise) : Event → List Raise
  | .polled now tick =>
    owed.filter (fun r => now < r.time) ++ (Event.raise? ended (.polled now tick)).toList
  | .disposed => []
  | .began | .passed => owed

theorem owedAfter_eq (ended : Bool) (owed : List Raise) {e : Event} (he : e ≠ .disposed) :
    e.owedAfter ended owed
      = owed.filter (fun r => !e.reaches r.time) ++ (e.raise? ended).toList := by
  cases e with
  | disposed => exact absurd rfl he
  | began =>
    show owed = owed.filter (fun _ => true) ++ []
    rw [List.append_nil, List.filter_eq_self.mpr fun _ _ => rfl]
  | passed =>
    show owed = owed.filter (fun _ => true) ++ []
    rw [List.append_nil, List.filter_eq_self.mpr fun _ _ => rfl]
  | polled now tick =>
    have hlater : ∀ r ∈ owed, decide (now < r.time) = !decide (r.time ≤ now) := by
      intro r _
      rw [Bool.eq_iff_iff, Bool.not_eq_true', decide_eq_true_iff, decide_eq_false_iff_not,
        Int.not_le]
    show owed.filter (fun r => decide (now < r.time)) ++ _
      = owed.filter (fun r => !decide (r.time ≤ now)) ++ _
    rw [List.filter_congr hlater]

/-- An operation keeps the books, given that no poll is earlier than what is owed. -/
structure Booked (s : Session) (e : Event) (t : Session) : Prop where
  gameOver : t.display.gameOver = e.endedAfter s.display.gameOver
  books : ∀ owed, Books s owed →
    (∀ now tick, e = .polled now tick → ∀ r ∈ owed, r.time ≤ now) →
    Books t (e.owedAfter s.display.gameOver owed)

theorem Booked.of_quiet {s t : Session} {e : Event} (h : Booked s e t)
    (he : e = .began ∨ e = .passed) {owed : List Raise} (hs : Books s owed) : Books t owed := by
  rcases he with rfl | rfl
  · exact h.books owed hs nofun
  · exact h.books owed hs nofun

/-- Both tasks of a report have its time. -/
theorem filter_flatMap_tasks (p : Int → Bool) (owed : List Raise) :
    (owed.flatMap Raise.tasks).filter (fun e => p e.1)
      = (owed.filter fun r => p r.time).flatMap Raise.tasks := by
  induction owed with
  | nil => rfl
  | cons r owed ih =>
    rw [List.flatMap_cons, List.filter_append, ih, List.filter_cons]
    cases h : p r.time with
    | false => simp [Raise.tasks, reportOf, h]
    | true => simp [Raise.tasks, reportOf, h]

theorem ne_firstFrame_of_mem_tasks {owed : List Raise} {e : Int × DeferredTask}
    (h : e ∈ owed.flatMap Raise.tasks) : e.2 ≠ .firstFrame := by
  obtain ⟨r, _, he⟩ := List.mem_flatMap.mp h
  rcases List.mem_cons.mp he with rfl | he
  · exact nofun
  · rw [List.mem_singleton.mp he]
    exact nofun

theorem Books.reports {s : Session} {owed : List Raise} (h : Books s owed) :
    s.deferred.reports = owed.flatMap Raise.tasks := by
  obtain ⟨before, after, hpending, hframes⟩ := h
  have hdrop : ∀ es : List (Int × DeferredTask), (∀ e ∈ es, e.2 = .firstFrame) →
      es.filter (fun e => e.2 ≠ .firstFrame) = [] := by
    intro es hes
    rw [List.filter_eq_nil_iff]
    intro e he
    simp [hes e he]
  have hkeep : (owed.flatMap Raise.tasks).filter (fun e => e.2 ≠ .firstFrame)
      = owed.flatMap Raise.tasks := by
    rw [List.filter_eq_self]
    intro e he
    simpa using ne_firstFrame_of_mem_tasks he
  rw [DeferredQueue.reports, hpending, List.filter_append, List.filter_append, hkeep,
    hdrop before fun e he => hframes e (List.mem_append_left after he),
    hdrop after fun e he => hframes e (List.mem_append_right before he),
    List.nil_append, List.append_nil]

theorem Books.scores {s : Session} {owed : List Raise} (h : Books s owed) :
    s.deferred.scores = owed.map Raise.score := by
  rw [DeferredQueue.scores, h.reports]
  clear h
  induction owed with
  | nil => rfl
  | cons r owed ih =>
    rw [List.flatMap_cons, List.filterMap_append, ih]
    rfl

/-- Withdrawing the first frame leaves the reports, and nothing else. -/
theorem Books.cancel {s t : Session} {owed : List Raise} (h : Books s owed)
    (hdeferred : t.deferred = s.deferred.cancel .firstFrame) : Books t owed := by
  refine ⟨[], [], ?_, fun e he => absurd he List.not_mem_nil⟩
  rw [hdeferred, List.nil_append, List.append_nil]
  exact h.reports

theorem Books.congr {s t : Session} {owed : List Raise} (h : Books s owed)
    (hdeferred : t.deferred = s.deferred) : Books t owed := by
  rw [Books, hdeferred]
  exact h

/-! ### Every operation keeps the books -/

theorem booked_of_same {s t : Session} (hover : t.display.gameOver = s.display.gameOver)
    (hdeferred : t.deferred = s.deferred) : Booked s .passed t where
  gameOver := hover
  books := fun _ h _ => h.congr hdeferred

theorem gameOver_firstDisplay (initial : Option FrameResult) (d : Display) :
    (firstDisplay initial d).gameOver = false := by
  cases initial <;> rfl

theorem LoadLeaves.booked {s t : Session} {c : Guest.Cartridge} {e : Event}
    (h : LoadLeaves s c e t) : Booked s e t := by
  cases h with
  | loaded => exact ⟨gameOver_firstDisplay _ _, fun _ h _ => h.cancel rfl⟩
  | refused => exact ⟨rfl, fun _ h _ => h.cancel rfl⟩
  | restored => exact ⟨gameOver_firstDisplay _ _, fun _ h _ => h.cancel rfl⟩
  | lost => exact ⟨rfl, fun _ h _ => h.cancel rfl⟩

/-- What is left of the queue once everything that is owed is handed out. -/
theorem rest_of_books {s : Session} {owed : List Raise} {now : Int} (h : Books s owed)
    (hreached : ∀ r ∈ owed, r.time ≤ now) :
    (∀ e ∈ (s.deferred.rest now).pending, e.2 = .firstFrame) ∧
      owed.filter (fun r => now < r.time) = [] := by
  have hnone : owed.filter (fun r => decide (now < r.time)) = [] := by
    rw [List.filter_eq_nil_iff]
    intro r hr
    have hle := hreached r hr
    simp only [decide_eq_true_eq]
    omega
  refine ⟨?_, hnone⟩
  obtain ⟨before, after, hpending, hframes⟩ := h
  intro e he
  unfold DeferredQueue.rest at he
  simp only at he
  rw [hpending, List.filter_append, List.filter_append,
    filter_flatMap_tasks (fun t => decide (now < t)), hnone] at he
  rcases List.mem_append.mp he with he | he
  · rcases List.mem_append.mp he with he | he
    · exact hframes e (List.mem_append_left after (List.mem_filter.mp he).1)
    · exact absurd he List.not_mem_nil
  · exact hframes e (List.mem_append_right before (List.mem_filter.mp he).1)

theorem PollLeaves.booked {s t : Session} {now : Int} {tick : Option UpdateTick}
    (h : PollLeaves s now tick t) : Booked s (.polled now tick) t := by
  have hquiet : ∀ u : Session, u.display = s.display → u.deferred = s.deferred.rest now →
      Booked s (.polled now none) u := by
    intro u hdisplay hdeferred
    refine ⟨congrArg Display.gameOver hdisplay, fun owed h hreached => ?_⟩
    obtain ⟨hrest, hnone⟩ := rest_of_books h (hreached now none rfl)
    refine ⟨(s.deferred.rest now).pending, [], ?_, by simpa using hrest⟩
    show u.deferred.pending
      = _ ++ (owed.filter (fun r : Raise => now < r.time) ++ []).flatMap Raise.tasks ++ []
    rw [hdeferred, hnone]
    simp
  cases h with
  | idle => exact hquiet _ rfl rfl
  | drawn => exact hquiet _ rfl rfl
  | updated tick delta snapshot promised hactive hscore hpromised =>
    refine ⟨gameOver_after s.display tick.answer, fun owed h hreached => ?_⟩
    obtain ⟨hrest, hnone⟩ := rest_of_books h (hreached now (some tick) rfl)
    refine ⟨(s.deferred.rest now).pending, promised, ?_, ?_⟩
    · show _ = _ ++ (owed.filter (fun r : Raise => now < r.time) ++ _).flatMap Raise.tasks ++ _
      rw [hnone, List.nil_append]
      unfold Event.raise?
      simp only
      split
      · rfl
      · rfl
    · intro e he
      rcases List.mem_append.mp he with he | he
      · exact hrest e he
      · exact hpromised e he

theorem rule_booked : Rule Booked where
  aside _ _ _ _ _ _ _ _ := booked_of_same rfl rfl
  followed := by
    intro s t u e hst htu
    refine ⟨htu.gameOver.trans hst.gameOver, fun owed h hreached => ?_⟩
    exact htu.books _ (hst.books owed h hreached) nofun
  acquire _ := booked_of_same rfl rfl
  withdraw _ _ := booked_of_same rfl rfl
  load s c := (loadLeaves_load s c).booked
  startAt s now := by
    unfold startAt
    split <;> exact booked_of_same rfl rfl
  stop _ := booked_of_same rfl rfl
  pause _ := booked_of_same rfl rfl
  unpause _ := booked_of_same rfl rfl
  reset _ := ⟨gameOver_firstDisplay _ _, fun _ h _ => h⟩
  dispose _ := ⟨rfl, fun _ _ _ => ⟨[], [], rfl, fun _ he => absurd he List.not_mem_nil⟩⟩
  poll s now := (s.pollLeaves_poll now).booked

end Session

end Handheld
