import Handheld.Proofs.Session.Books
import Handheld.Proofs.Session.Effects

/-!
# The end of a game is reported once

The first answer since the display was put back that reports the game's end is followed by one
submission of the score and one fetch of the leaderboard, and no other answer is. A report is
handed out by the first poll that is not earlier than itself, and never by the poll that queued
it, as a poll does the work that is due before it runs its tick. With polls in order a report is
handed out by the very next poll, which is why the scores arrive in the order of the reports.

* `poll_of_books`: a poll submits what is owed and due, each score with its fetch behind it;
* `books_step`, `books_run`: what an operation and a run submit, and what they leave owed;
* `ReportedOnce`, `reports_run`: what is submitted, when, what is queued, and how often.
-/

namespace Handheld.Session

/-! ### What a poll submits -/

theorem flatMap_actsOf_tasks (s : Session) (owed : List Raise) :
    ((owed.flatMap Raise.tasks).map Prod.snd).flatMap s.actsOf = owed.flatMap Raise.acts := by
  induction owed with
  | nil => rfl
  | cons r owed ih =>
    rw [List.flatMap_cons, List.map_append, List.flatMap_append, ih]
    rfl

theorem isReport_of_mem_firstFrames {s : Session} {es : List (Int × DeferredTask)}
    (hes : ∀ e ∈ es, e.2 = .firstFrame) {x : Effect}
    (hx : x ∈ (es.map Prod.snd).flatMap s.actsOf) : x.isReport = false := by
  obtain ⟨task, htask, hx⟩ := List.mem_flatMap.mp hx
  obtain ⟨e, he, rfl⟩ := List.mem_map.mp htask
  rw [hes e he] at hx
  have hmem := (List.mem_filter.mp hx).1
  unfold showFirstFrame at hmem
  split at hmem
  · rcases List.mem_append.mp hmem with hmem | hmem
    · exact Effect.isReport_of_mem_tell hmem
    · rw [List.mem_singleton.mp hmem]
      rfl
  · exact absurd hmem List.not_mem_nil

/-- A poll submits what is owed and due, each score with its fetch right behind it, and calls the
leaderboard for nothing else. -/
theorem poll_of_books {s : Session} {owed : List Raise} (h : Books s owed) (now : Int) :
    ∃ earlier later, (s.poll now).effects.filter Effect.isAct
        = earlier ++ (owed.filter fun r => r.time ≤ now).flatMap Raise.acts ++ later ∧
      ∀ e ∈ earlier ++ later, e.isReport = false := by
  obtain ⟨before, after, hpending, hframes⟩ := h
  obtain ⟨later, hacts, hlater⟩ := s.poll_acts now
  let due := fun es : List (Int × DeferredTask) => es.filter fun e => decide (e.1 ≤ now)
  have hdue : s.deferred.due now = (due before).map Prod.snd
      ++ ((owed.filter fun r => decide (r.time ≤ now)).flatMap Raise.tasks).map Prod.snd
      ++ (due after).map Prod.snd := by
    rw [DeferredQueue.due, hpending, List.filter_append, List.filter_append,
      filter_flatMap_tasks (fun t => decide (t ≤ now)), List.map_append, List.map_append]
  refine ⟨((due before).map Prod.snd).flatMap s.actsOf,
    ((due after).map Prod.snd).flatMap s.actsOf ++ later, ?_, ?_⟩
  · rw [hacts, hdue, List.flatMap_append, List.flatMap_append, flatMap_actsOf_tasks,
      List.append_assoc]
  · intro e he
    rcases List.mem_append.mp he with he | he
    · refine isReport_of_mem_firstFrames (fun x hx => ?_) he
      exact hframes x (List.mem_append_left after (List.mem_filter.mp hx).1)
    · rcases List.mem_append.mp he with he | he
      · refine isReport_of_mem_firstFrames (fun x hx => ?_) he
        exact hframes x (List.mem_append_right before (List.mem_filter.mp hx).1)
      · exact hlater e he

theorem submissions_acts (owed : List Raise) :
    (owed.flatMap Raise.acts).filterMap Effect.submission? = owed.map Raise.score := by
  induction owed with
  | nil => rfl
  | cons r owed ih =>
    rw [List.flatMap_cons, List.filterMap_append, ih]
    rfl

theorem submissions_poll {s : Session} {owed : List Raise} (h : Books s owed) (now : Int) :
    (s.poll now).effects.filterMap Effect.submission?
      = (owed.filter fun r => r.time ≤ now).map Raise.score := by
  obtain ⟨earlier, later, hacts, hquiet⟩ := poll_of_books h now
  have hearlier := Effect.submissions_of_not_isReport fun e he =>
    hquiet e (List.mem_append_left later he)
  have hlater := Effect.submissions_of_not_isReport fun e he =>
    hquiet e (List.mem_append_right earlier he)
  rw [← Effect.submissions_filter_isAct, hacts, List.filterMap_append, List.filterMap_append,
    hearlier, hlater, submissions_acts, List.nil_append, List.append_nil]

/-! ### What an operation submits -/

theorem loadEvent_eq (s : Session) (c : Guest.Cartridge) :
    s.loadEvent c = .began ∨ s.loadEvent c = .passed := by
  unfold loadEvent
  split
  · exact Or.inl rfl
  · exact Or.inl rfl
  · exact Or.inr rfl

theorem offerEvent_eq (s : Session) (c : Option Guest.Cartridge) :
    s.offerEvent c = .began ∨ s.offerEvent c = .passed := by
  cases c with
  | none => exact Or.inr rfl
  | some c => exact s.loadEvent_eq c

/-- An operation is a poll, or it means that a game begins or nothing, unless it is a disposal. -/
theorem event_cases (s : Session) {op : Operation} (hdispose : op ≠ .dispose) :
    (∃ now, op = .poll now) ∨
      (∀ now, op ≠ .poll now) ∧ (s.event op = .began ∨ s.event op = .passed) := by
  cases op with
  | poll now => exact Or.inl ⟨now, rfl⟩
  | dispose => exact absurd rfl hdispose
  | reset => exact Or.inr ⟨nofun, Or.inl rfl⟩
  | load c => exact Or.inr ⟨nofun, s.loadEvent_eq c⟩
  | loadBundled | create | restart => exact Or.inr ⟨nofun, s.offerEvent_eq _⟩
  | acquire | startAt | stop | pause | unpause => exact Or.inr ⟨nofun, Or.inr rfl⟩
  | press | release | keyDown | keyUp => exact Or.inr ⟨nofun, Or.inr rfl⟩
  | openLeaderboard | closeLeaderboard | setHook => exact Or.inr ⟨nofun, Or.inr rfl⟩
  | arrange | withdraw => exact Or.inr ⟨nofun, Or.inr rfl⟩

theorem event_ne_disposed (s : Session) {op : Operation} (hdispose : op ≠ .dispose) :
    s.event op ≠ .disposed := by
  rcases s.event_cases hdispose with ⟨now, rfl⟩ | ⟨_, hevent⟩
  · exact nofun
  · rcases hevent with he | he <;> rw [he] <;> exact nofun

/-- What an operation submits, and what it leaves owed. -/
theorem books_step {s : Session} {owed : List Raise} (h : Books s owed) {op : Operation}
    (hdispose : op ≠ .dispose) (hreached : ∀ now, op = .poll now → ∀ r ∈ owed, r.time ≤ now) :
    (s.step op).effects.filterMap Effect.submission?
        = (owed.filter fun r => (s.event op).reaches r.time).map Raise.score ∧
      Books (s.step op).session
        (owed.filter (fun r => !(s.event op).reaches r.time)
          ++ ((s.event op).raise? s.display.gameOver).toList) := by
  rw [← owedAfter_eq _ _ (s.event_ne_disposed hdispose)]
  have hbooked := rule_booked.step s op
  rcases s.event_cases hdispose with ⟨now, rfl⟩ | ⟨hpoll, hevent⟩
  · refine ⟨submissions_poll h now, hbooked.books owed h fun time tick htime r hr => ?_⟩
    cases htime
    exact hreached now rfl r hr
  · have hnone : (owed.filter fun r => (s.event op).reaches r.time) = [] := by
      refine List.filter_eq_nil_iff.mpr fun r _ => ?_
      rw [reaches_of_quiet hevent]
      exact Bool.false_ne_true
    refine ⟨?_, hbooked.books owed h fun now tick htime => ?_⟩
    · rw [s.submissions_step hpoll, hnone, List.map_nil]
    · rcases hevent with he | he <;> rw [he] at htime <;> cases htime

/-! ### What a run submits -/

/-- With polls in order a poll reaches all that is owed, and nothing else reaches any of it. -/
theorem filter_reachedBy {owed : List Raise} {e : Event} (es : List Event)
    (h : (∀ r ∈ owed, e.reaches r.time = true) ∨ ∀ r ∈ owed, e.reaches r.time = false) :
    (owed.filter fun r => e.reaches r.time)
        ++ (owed.filter fun r => !e.reaches r.time).filter (fun r => r.reachedBy es)
      = owed.filter fun r => r.reachedBy (e :: es) := by
  have hcons : ∀ r : Raise, r.reachedBy (e :: es) = (e.reaches r.time || r.reachedBy es) :=
    fun _ => rfl
  rw [List.filter_filter]
  rcases h with h | h
  · have hnow : (owed.filter fun r => e.reaches r.time) = owed := List.filter_eq_self.mpr h
    have hnone : (owed.filter fun r => r.reachedBy es && !e.reaches r.time) = [] := by
      refine List.filter_eq_nil_iff.mpr fun r hr => ?_
      rw [h r hr, Bool.not_true, Bool.and_false]
      exact Bool.false_ne_true
    have hall : (owed.filter fun r => r.reachedBy (e :: es)) = owed := by
      refine List.filter_eq_self.mpr fun r hr => ?_
      rw [hcons, h r hr, Bool.true_or]
    rw [hnow, hnone, hall, List.append_nil]
  · have hnow : (owed.filter fun r => e.reaches r.time) = [] := by
      refine List.filter_eq_nil_iff.mpr fun r hr => ?_
      rw [h r hr]
      exact Bool.false_ne_true
    rw [hnow, List.nil_append]
    refine List.filter_congr fun r hr => ?_
    rw [hcons, h r hr, Bool.not_false, Bool.and_true, Bool.false_or]

theorem filter_not_reachedBy (owed : List Raise) (e : Event) (es : List Event) :
    ((owed.filter fun r => !e.reaches r.time).filter fun r => !r.reachedBy es)
      = owed.filter fun r => !r.reachedBy (e :: es) := by
  rw [List.filter_filter]
  refine List.filter_congr fun r _ => ?_
  show (!r.reachedBy es && !e.reaches r.time) = !(e.reaches r.time || r.reachedBy es)
  rw [Bool.not_or, Bool.and_comm]

theorem mem_pollTimes {ops : List Operation} {now : Int} :
    now ∈ pollTimes ops ↔ .poll now ∈ ops := by
  rw [pollTimes, List.mem_filterMap]
  constructor
  · rintro ⟨op, hop, hnow⟩
    cases op <;> cases hnow
    exact hop
  · intro hop
    exact ⟨.poll now, hop, rfl⟩

theorem time_of_raise? {ended : Bool} {now : Int} {tick : Option UpdateTick} {r : Raise}
    (h : Event.raise? ended (.polled now tick) = some r) : r.time = now := by
  cases tick with
  | none => cases h
  | some tick =>
    unfold Event.raise? at h
    simp only at h
    split at h
    · cases h
      rfl
    · cases h

/-- Only a poll reports anything, and what it reports has its time. -/
theorem poll_of_mem_raise? {s : Session} {op : Operation} (hdispose : op ≠ .dispose)
    {ended : Bool} {r : Raise} (h : r ∈ ((s.event op).raise? ended).toList) :
    op = .poll r.time := by
  rcases s.event_cases hdispose with ⟨now, rfl⟩ | ⟨_, hevent⟩
  · rw [time_of_raise? (Option.mem_toList.mp h)]
  · rw [raise?_of_quiet hevent] at h
    exact absurd h List.not_mem_nil

/-- With polls in order, an operation reaches all that is owed or nothing of it. -/
theorem reaches_or (s : Session) {op : Operation} (hdispose : op ≠ .dispose) {owed : List Raise}
    (h : ∀ now, op = .poll now → ∀ r ∈ owed, r.time ≤ now) :
    (∀ r ∈ owed, (s.event op).reaches r.time = true) ∨
      ∀ r ∈ owed, (s.event op).reaches r.time = false := by
  rcases s.event_cases hdispose with ⟨now, rfl⟩ | ⟨_, hevent⟩
  · exact Or.inl fun r hr => decide_eq_true (h now rfl r hr)
  · exact Or.inr fun r _ => reaches_of_quiet hevent r.time

/-- What a run submits, and what it leaves owed, given what was owed before it. -/
theorem books_run {ops : List Operation} {s : Session} {owed₀ : List Raise} (h : Books s owed₀)
    (hlater : ∀ r ∈ owed₀, ∀ now ∈ pollTimes ops, r.time ≤ now)
    (hsorted : (pollTimes ops).Pairwise (· ≤ ·)) (hkept : .dispose ∉ ops) :
    (s.run ops).effects.filterMap Effect.submission?
        = (owed₀.filter (fun r => r.reachedBy (s.history ops))
            ++ reached s.display.gameOver (s.history ops)).map Raise.score ∧
      Books (s.run ops).session
        (owed₀.filter (fun r => !r.reachedBy (s.history ops))
          ++ owed s.display.gameOver (s.history ops)) := by
  induction ops generalizing s owed₀ with
  | nil =>
    have hall : owed₀.filter (fun r : Raise => !r.reachedBy []) = owed₀ :=
      List.filter_eq_self.mpr fun _ _ => rfl
    have hnone : owed₀.filter (fun r : Raise => r.reachedBy []) = [] :=
      List.filter_eq_nil_iff.mpr fun _ _ => Bool.false_ne_true
    show [] = (owed₀.filter (fun r : Raise => r.reachedBy []) ++ []).map Raise.score ∧
      Books s (owed₀.filter (fun r : Raise => !r.reachedBy []) ++ [])
    rw [hall, hnone, List.append_nil, List.append_nil]
    exact ⟨rfl, h⟩
  | cons op ops ih =>
    have hdispose : op ≠ .dispose := fun hop => hkept (hop ▸ List.mem_cons_self)
    have hnow : ∀ now, op = .poll now → ∀ r ∈ owed₀, r.time ≤ now := fun now hop r hr =>
      hlater r hr now (mem_pollTimes.mpr (hop ▸ List.mem_cons_self))
    obtain ⟨hsubmitted, hbooks⟩ := books_step h hdispose hnow
    have hover := (rule_booked.step s op).gameOver
    -- what is owed now was owed before, or it is as old as this poll
    have hlater' : ∀ r ∈ owed₀.filter (fun r => !(s.event op).reaches r.time)
        ++ ((s.event op).raise? s.display.gameOver).toList,
        ∀ now ∈ pollTimes ops, r.time ≤ now := by
      intro r hr now hmem
      rcases List.mem_append.mp hr with hr | hr
      · refine hlater r (List.mem_filter.mp hr).1 now (mem_pollTimes.mpr ?_)
        exact List.mem_cons_of_mem op (mem_pollTimes.mp hmem)
      · have hop := poll_of_mem_raise? hdispose hr
        subst hop
        exact List.rel_of_pairwise_cons hsorted hmem
    have hsorted' : (pollTimes ops).Pairwise (· ≤ ·) :=
      hsorted.sublist ((List.sublist_cons_self op ops).filterMap _)
    have hkept' : Operation.dispose ∉ ops := fun hop => hkept (List.mem_cons_of_mem op hop)
    obtain ⟨hrest, hbooks'⟩ := ih hbooks hlater' hsorted' hkept'
    have hreaches := s.reaches_or hdispose hnow
    refine ⟨?_, ?_⟩
    · show ((s.step op).effects ++ ((s.step op).session.run ops).effects).filterMap _ = _
      rw [List.filterMap_append, hsubmitted, hrest, history, reached_cons,
        ← filter_reachedBy _ hreaches, hover, List.filter_append]
      simp only [List.map_append, List.append_assoc]
    · rw [List.filter_append, filter_not_reachedBy, hover, List.append_assoc] at hbooks'
      rw [history, owed_cons]
      exact hbooks'

/-- What is owed is as old as the poll that reported it. -/
theorem mem_pollTimes_of_mem_owed {ops : List Operation} {s : Session} {ended : Bool} {r : Raise}
    (hkept : .dispose ∉ ops) (h : r ∈ owed ended (s.history ops)) : r.time ∈ pollTimes ops := by
  rw [mem_pollTimes]
  induction ops generalizing s ended with
  | nil => cases h
  | cons op ops ih =>
    have hdispose : op ≠ .dispose := fun hop => hkept (hop ▸ List.mem_cons_self)
    rw [history, owed_cons] at h
    rcases List.mem_append.mp h with h | h
    · rw [← poll_of_mem_raise? hdispose (List.mem_filter.mp h).1]
      exact List.mem_cons_self
    · exact List.mem_cons_of_mem op (ih (fun hop => hkept (List.mem_cons_of_mem op hop)) h)

/-! ### Reported once -/

/-- The end of a game is reported once. -/
structure ReportedOnce (s : Session) (ops : List Operation) : Prop where
  /-- What is submitted are the scores of the first reports that a later poll reached, in their
  order. -/
  submitted : (s.run ops).effects.filterMap Effect.submission?
    = (reached false (s.history ops)).map Raise.score
  /-- The first reports that no later poll reached wait in the queue, each with its fetch, and
  nothing else waits but first frames. -/
  waiting : (s.run ops).session.deferred.reports = (owed false (s.history ops)).flatMap Raise.tasks
  /-- A poll submits what was reported before it, is due, and was not reached by a poll yet, each
  score with its fetch right behind it. It calls the leaderboard for nothing else. -/
  polls : ∀ before now after, ops = before ++ .poll now :: after →
    ∃ earlier later, ((s.run before).session.poll now).effects.filter Effect.isAct
        = earlier
          ++ ((owed false (s.history before)).filter fun r => r.time ≤ now).flatMap Raise.acts
          ++ later ∧
      ∀ e ∈ earlier ++ later, e.isReport = false
  /-- No other operation submits anything, queues a report or loses one. -/
  others : ∀ before op after, ops = before ++ op :: after → (∀ now, op ≠ .poll now) →
    let t := (s.run before).session
    (t.step op).effects.filterMap Effect.submission? = [] ∧
      (t.step op).session.deferred.reports = t.deferred.reports
  /-- Until the display is put back one score is queued at most: what leaves the queue and what
  stays in it is one more at most than was there. -/
  once : ∀ before during after, ops = before ++ during ++ after →
    let t := (s.run before).session
    (∀ e ∈ t.history during, e.restarts = false) →
    ((t.run during).effects.filterMap Effect.submission?).length
        + (t.run during).session.deferred.scores.length
      ≤ t.deferred.scores.length + 1

section

variable {s : Session} {ops : List Operation} (hfresh : Books s [])
  (hover : s.display.gameOver = false) (hsorted : (pollTimes ops).Pairwise (· ≤ ·))
  (hkept : .dispose ∉ ops)

include hfresh hover hsorted hkept

theorem submitted_and_books :
    (s.run ops).effects.filterMap Effect.submission?
        = (reached false (s.history ops)).map Raise.score ∧
      Books (s.run ops).session (owed false (s.history ops)) := by
  have hrun := books_run hfresh (fun r hr => absurd hr List.not_mem_nil) hsorted hkept
  rw [hover] at hrun
  exact hrun

theorem books_before {before after : List Operation} (hops : ops = before ++ after) :
    Books (s.run before).session (owed false (s.history before)) := by
  subst hops
  refine (submitted_and_books hfresh hover ?_ ?_).2
  · exact hsorted.sublist ((List.sublist_append_left before after).filterMap _)
  · exact fun hop => hkept (List.mem_append_left after hop)

theorem once_during {before during after : List Operation}
    (hops : ops = before ++ during ++ after)
    (hkeeps : ∀ e ∈ (s.run before).session.history during, e.restarts = false) :
    (((s.run before).session.run during).effects.filterMap Effect.submission?).length
        + ((s.run before).session.run during).session.deferred.scores.length
      ≤ (s.run before).session.deferred.scores.length + 1 := by
  have hbefore := books_before hfresh hover hsorted hkept
    (hops.trans (List.append_assoc before during after))
  subst hops
  generalize ht : (s.run before).session = t at hkeeps hbefore ⊢
  have hpolls : (pollTimes before ++ pollTimes during).Pairwise (· ≤ ·) := by
    have happend : pollTimes before ++ pollTimes during = pollTimes (before ++ during) :=
      List.filterMap_append.symm
    rw [happend]
    exact hsorted.sublist ((List.sublist_append_left _ after).filterMap _)
  obtain ⟨-, hduring, hcross⟩ := List.pairwise_append.mp hpolls
  have hkeptBefore : Operation.dispose ∉ before := fun hop =>
    hkept (List.mem_append_left after (List.mem_append_left during hop))
  have hkeptDuring : Operation.dispose ∉ during := fun hop =>
    hkept (List.mem_append_left after (List.mem_append_right before hop))
  obtain ⟨hsubmitted, hafter⟩ := books_run hbefore
    (fun r hr => hcross r.time (mem_pollTimes_of_mem_owed hkeptBefore hr)) hduring hkeptDuring
  -- what was owed before is submitted or still waits, and there is one first report at most
  have hold := List.length_eq_length_filter_add (l := owed false (s.history before))
    fun r => r.reachedBy (t.history during)
  have hnew := length_reached_add_owed t.display.gameOver (t.history during)
  have hone := length_raises t.display.gameOver hkeeps
  have hbool := Bool.toNat_le (!t.display.gameOver)
  rw [hsubmitted, hafter.scores, hbefore.scores, List.length_map, List.length_map,
    List.length_map, List.length_append, List.length_append]
  omega

/-- With polls in order and no disposal, the end of a game is reported once. -/
theorem reportedOnce : ReportedOnce s ops where
  submitted := (submitted_and_books hfresh hover hsorted hkept).1
  waiting := (submitted_and_books hfresh hover hsorted hkept).2.reports
  polls := by
    intro before now after hops
    exact poll_of_books (books_before hfresh hover hsorted hkept hops) now
  others := by
    intro before op after hops hpoll
    have hbefore := books_before hfresh hover hsorted hkept hops
    have hdispose : op ≠ .dispose := by
      intro hop
      subst hops hop
      exact hkept (List.mem_append_right before List.mem_cons_self)
    have hbooked := rule_booked.step (s.run before).session op
    refine ⟨submissions_step _ hpoll, ?_⟩
    rcases (s.run before).session.event_cases hdispose with ⟨now, hop⟩ | ⟨_, hevent⟩
    · exact absurd hop (hpoll now)
    · rw [hbefore.reports, (hbooked.of_quiet hevent hbefore).reports]
  once := by
    intro before during after hops t hkeeps
    exact once_during hfresh hover hsorted hkept hops hkeeps

end

/-- Whatever is done to a new session, short of disposing of it, and with polls in order: the end
of each game is reported once, by the first poll after it. -/
theorem reports_run (settings : Settings) (scheduler : Scheduler) (renderer : Renderer)
    (services : Services) {ops : List Operation} (hsorted : (pollTimes ops).Pairwise (· ≤ ·))
    (hkept : .dispose ∉ ops) :
    ReportedOnce (newWith settings scheduler renderer services) ops :=
  reportedOnce ⟨[], [], rfl, fun _ he => absurd he List.not_mem_nil⟩ rfl hsorted hkept

/-- A cartridge that ends in every frame. -/
def endingCartridge : Guest.Cartridge :=
  { name := "ending"
    size := 0
    program := .script
      { metadata := some { action := .give (.value (.object [])) }
        resources := some { action := .give (.value (.object [])) }
        update := some
          { entries := [{ action := .give (.value (.object [("gameOver", .bool true)])) }] } } }

/-- Two games that end, the second begun by a reset before the first is reported. -/
def endingRun : List Operation :=
  [.acquire, .load endingCartridge, .startAt 0, .poll 0, .reset, .startAt 5, .poll 20000000,
    .poll 40000000, .poll 60000000]

theorem reports_run_ending :
    (pollTimes endingRun).Pairwise (· ≤ ·) ∧ .dispose ∉ endingRun ∧
      ReportedOnce (newWith {} (.new standardPeriod) .blind .offline) endingRun ∧
      ((newWith {} (.new standardPeriod) .blind .offline).run endingRun).effects.filterMap
        Effect.submission? = [0, 0] := by
  have hsorted : (pollTimes endingRun).Pairwise (· ≤ ·) := by decide
  have hkept : .dispose ∉ endingRun := by simp [endingRun]
  exact ⟨hsorted, hkept, reports_run {} (.new standardPeriod) .blind .offline hsorted hkept, rfl⟩

end Handheld.Session
