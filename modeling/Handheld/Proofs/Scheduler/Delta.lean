import Handheld.Scheduler

/-!
# What a tick carries

An update tick carries the time since the update before it, unless something made time count
afresh in between: then it carries nothing. Resuming a paused scheduler does that, and resetting
the timing. A reset also makes the frames count afresh.

A start is meant to do both as well, and does neither. So the first update after a start carries
the time that the scheduler was stopped, and the frames go on from where they were. Ticks and
frames count what they are meant to exactly if no scheduler is started that has frames counted.

* `Served`, `history`: requests with their answers;
* `updates`, `sinceUpdate`: the updates since something happened, and what happened since the last
  update;
* `Measured`: what ticks and frames are meant to count;
* `Counted`, `counted_run`: what they count;
* `Agrees`, `agrees_run`: where the two are the same;
* `measured_run`: they are the same throughout a run exactly if every start finds no frames;
* `delta_restarted`: a run in which they differ.
-/

namespace Handheld.Scheduler

/-! ### Histories -/

/-- A request with its answer. -/
structure Served where
  request : Request
  answer : Answer

namespace Served

/-- When the update tick began that was asked for, if one did. -/
def update? : Served → Option Int
  | ⟨.beginTick now, .tick (some (.update _))⟩ => some now
  | _ => none

/-- Whether the scheduler was started. -/
def starts : Served → Bool
  | ⟨.start _, .accepted yes⟩ => yes
  | _ => false

/-- Whether a pause ended. -/
def resumes : Served → Bool
  | ⟨.unpause, .accepted yes⟩ => yes
  | _ => false

def resets : Served → Bool
  | ⟨.resetTiming, _⟩ => true
  | _ => false

/-- Whether the scheduler was stopped or paused. -/
def halts : Served → Bool
  | ⟨.stop, .accepted yes⟩ => yes
  | ⟨.pause, .accepted yes⟩ => yes
  | _ => false

end Served

/-- The requests of a run with their answers, in order. -/
def history (s : Scheduler) : List Request → List Served
  | [] => []
  | r :: rs => ⟨r, (s.step r).1⟩ :: history (s.step r).2 rs

/-- When the updates began since something last happened, the latest first. -/
def updates (anew : Served → Bool) (h : List Served) : List Int :=
  (h.reverse.takeWhile fun e => !anew e).filterMap Served.update?

/-- What happened since the last update, the latest first. -/
def sinceUpdate (h : List Served) : List Served :=
  h.reverse.takeWhile fun e => e.update?.isNone

/-- The time since an instant, or none if there is no instant. -/
def timeFrom (last : Option Int) (now : Int) : Nat :=
  match last with
  | some last => Instant.elapsed last now
  | none => 0

theorem updates_concat (anew : Served → Bool) (h : List Served) (e : Served) :
    updates anew (h ++ [e]) =
      if anew e then [] else e.update?.toList ++ updates anew h := by
  unfold updates
  rw [List.reverse_append, List.reverse_singleton, List.singleton_append, List.takeWhile_cons]
  cases anew e with
  | true => rfl
  | false =>
    simp only [Bool.not_false, if_true, Bool.false_eq_true, if_false, List.filterMap_cons]
    cases e.update? <;> rfl

theorem sinceUpdate_concat (h : List Served) (e : Served) :
    sinceUpdate (h ++ [e]) = if e.update?.isNone then e :: sinceUpdate h else [] := by
  unfold sinceUpdate
  rw [List.reverse_append, List.reverse_singleton, List.singleton_append, List.takeWhile_cons]

/-- What happens more often leaves fewer updates behind it. -/
theorem updates_eq_nil_of_imp {f g : Served → Bool} (hfg : ∀ e, f e = true → g e = true)
    {h : List Served} (hnil : updates f h = []) : updates g h = [] := by
  rw [updates, List.filterMap_eq_nil_iff] at hnil ⊢
  intro e he
  refine hnil e ?_
  have hsub : (h.reverse.takeWhile fun e => !g e) <+: h.reverse.takeWhile fun e => !f e := by
    generalize h.reverse = l
    induction l with
    | nil => exact List.prefix_refl _
    | cons a l ih =>
      rw [List.takeWhile_cons, List.takeWhile_cons]
      cases hg : g a with
      | true => exact List.nil_prefix
      | false =>
        have hf : f a = false := by
          cases hf : f a with
          | false => rfl
          | true => exact absurd ((hfg a hf).symm.trans hg) Bool.noConfusion
        rw [hf]
        exact List.prefix_cons_inj a |>.mpr ih
  exact hsub.subset he

/-! ### What a request does -/

/-- A request that was refused, or is about the pending tick and the timings alone. -/
structure Served.Quiet (e : Served) : Prop where
  update : e.update? = none
  starts : e.starts = false
  resumes : e.resumes = false
  resets : e.resets = false
  halts : e.halts = false

/-- A request, its answer, and what it leaves. -/
inductive Serves (s : Scheduler) : Served → Scheduler → Prop
  | aside {e nextTick inFlight ticks timings} (hquiet : e.Quiet) :
      Serves s e
        { s with nextTick := nextTick, inFlight := inFlight, ticks := ticks, timings := timings }
  | started (now : Int) (hstopped : s.state = .stopped) :
      Serves s ⟨.start now, .accepted true⟩ { s with state := .running, nextTick := some now }
  | stopped : Serves s ⟨.stop, .accepted true⟩ { s with state := .stopped, nextTick := none }
  | paused : Serves s ⟨.pause, .accepted true⟩ { s with state := .paused }
  | resumed : Serves s ⟨.unpause, .accepted true⟩ { s with state := .running, lastUpdate := none }
  | reset : Serves s ⟨.resetTiming, .done⟩ s.resetTiming
  | updated (now : Int) (hrunning : s.state = .running) :
      Serves s ⟨.beginTick now, .tick (some (.update (s.delta now)))⟩
        { s with
          nextTick := none, inFlight := some now, ticks := s.ticks + 1
          lastUpdate := some now, frames := s.frames + 1 }

theorem serves_step (s : Scheduler) (r : Request) : Serves s ⟨r, (s.step r).1⟩ (s.step r).2 := by
  have hrefused : ∀ e : Served, e.Quiet → Serves s e s := fun e hquiet => .aside hquiet
  cases r with
  | start now =>
    show Serves s ⟨.start now, .accepted (s.start now).1⟩ (s.start now).2
    unfold start
    split
    · rename_i hstopped
      exact .started now hstopped
    · exact hrefused ⟨.start now, .accepted false⟩ ⟨rfl, rfl, rfl, rfl, rfl⟩
  | stop =>
    show Serves s ⟨.stop, .accepted s.stop.1⟩ s.stop.2
    unfold stop
    split
    · exact .aside (e := ⟨.stop, .accepted false⟩) ⟨rfl, rfl, rfl, rfl, rfl⟩
    · exact .stopped
  | pause =>
    show Serves s ⟨.pause, .accepted s.pause.1⟩ s.pause.2
    unfold pause
    split
    · exact .paused
    · exact hrefused ⟨.pause, .accepted false⟩ ⟨rfl, rfl, rfl, rfl, rfl⟩
  | unpause =>
    show Serves s ⟨.unpause, .accepted s.unpause.1⟩ s.unpause.2
    unfold unpause
    split
    · exact .resumed
    · exact hrefused ⟨.unpause, .accepted false⟩ ⟨rfl, rfl, rfl, rfl, rfl⟩
  | resetTiming => exact .reset
  | beginTick now =>
    show Serves s ⟨.beginTick now, .tick (s.beginTick now).1⟩ (s.beginTick now).2
    unfold beginTick
    split
    · rename_i hdue
      have hactive : s.isActive = true := ((Bool.and_eq_true _ _).mp hdue).1
      split
      · exact .aside (e := ⟨.beginTick now, .tick (some .renderOnly)⟩) ⟨rfl, rfl, rfl, rfl, rfl⟩
      · rename_i hpaused
        refine .updated now ?_
        unfold isActive at hactive
        cases hstate : s.state with
        | stopped => simp [hstate] at hactive
        | running => rfl
        | paused => exact absurd hstate hpaused
    · exact hrefused ⟨.beginTick now, .tick none⟩ ⟨rfl, rfl, rfl, rfl, rfl⟩
  | record phase duration =>
    exact .aside (e := ⟨.record phase duration, .done⟩) ⟨rfl, rfl, rfl, rfl, rfl⟩
  | endTick now =>
    show Serves s ⟨.endTick now, .done⟩ (s.endTick now)
    unfold endTick
    split
    · exact hrefused ⟨.endTick now, .done⟩ ⟨rfl, rfl, rfl, rfl, rfl⟩
    · exact .aside (e := ⟨.endTick now, .done⟩) ⟨rfl, rfl, rfl, rfl, rfl⟩

/-! ### What is counted -/

/-- What the scheduler remembers of a history. -/
structure Counted (s : Scheduler) (h : List Served) : Prop where
  lastUpdate : s.lastUpdate = (updates (fun e => e.resumes || e.resets) h).head?
  frames : s.frames = (updates Served.resets h).length
  /-- What was stopped or paused after an update runs again only if it was started, resumed or
  reset. -/
  asleep : updates (fun e => e.starts || e.resumes || e.resets) h ≠ [] →
    ∀ e ∈ sinceUpdate h, e.halts = true → s.state ≠ .running

variable {s t : Scheduler} {h : List Served} {e : Served}

theorem Counted.serves (hs : Counted s h) (hserves : Serves s e t) : Counted t (h ++ [e]) := by
  constructor
  case lastUpdate =>
    rw [updates_concat]
    cases hserves with
    | aside hquiet =>
      rw [hquiet.resumes, hquiet.resets, hquiet.update]
      exact hs.lastUpdate
    | started | stopped | paused => exact hs.lastUpdate
    | resumed | reset | updated => rfl
  case frames =>
    rw [updates_concat]
    cases hserves with
    | aside hquiet =>
      rw [hquiet.resets, hquiet.update]
      exact hs.frames
    | started | stopped | paused | resumed => exact hs.frames
    | reset => rfl
    | updated now =>
      show s.frames + 1 = (updates Served.resets h).length + 1
      rw [hs.frames]
  case asleep =>
    intro hsome e' he' hhalts hrunning
    rw [updates_concat] at hsome
    rw [sinceUpdate_concat] at he'
    cases hserves with
    | aside hquiet =>
      rw [hquiet.starts, hquiet.resumes, hquiet.resets, hquiet.update] at hsome
      rw [hquiet.update] at he'
      rcases List.mem_cons.mp he' with rfl | he'
      · rw [hquiet.halts] at hhalts
        cases hhalts
      · exact hs.asleep hsome e' he' hhalts hrunning
    | started | resumed | reset => exact hsome rfl
    | stopped | paused => cases hrunning
    | updated => cases he'

theorem counted_run (hs : Counted s h) (rs : List Request) :
    Counted (s.run rs).2 (h ++ s.history rs) := by
  induction rs generalizing s h with
  | nil =>
    rw [history, List.append_nil]
    exact hs
  | cons r rs ih =>
    have hstep := ih (hs.serves (serves_step s r))
    rw [List.append_assoc] at hstep
    exact hstep

theorem counted_new (period : Nat) : Counted (new period) [] where
  lastUpdate := rfl
  frames := rfl
  asleep := fun hsome => absurd rfl hsome

/-! ### What is meant to be counted -/

/-- What an update tick is meant to carry after a history, and what the frames are meant to be. -/
structure Measured (s : Scheduler) (h : List Served) : Prop where
  delta : ∀ now delta, (s.beginTick now).1 = some (.update delta) →
    delta = timeFrom (updates (fun e => e.starts || e.resumes || e.resets) h).head? now
  frames : s.frames = (updates (fun e => e.starts || e.resets) h).length
  /-- No time is carried during which the scheduler was stopped or paused. -/
  awake : ∀ now delta, (s.beginTick now).1 = some (.update delta) → 0 < delta →
    ∀ e ∈ sinceUpdate h, e.halts = false

/-- Starts make no difference to what was updated since. -/
structure Agrees (h : List Served) : Prop where
  delta : updates (fun e => e.starts || e.resumes || e.resets) h
    = updates (fun e => e.resumes || e.resets) h
  frames : updates (fun e => e.starts || e.resets) h = updates Served.resets h

theorem delta_eq_timeFrom (s : Scheduler) (now : Int) : s.delta now = timeFrom s.lastUpdate now :=
  rfl

theorem beginTick_update {now : Int} {delta : Nat}
    (hupdate : (s.beginTick now).1 = some (.update delta)) :
    s.state = .running ∧ delta = s.delta now := by
  have hserves := serves_step s (.beginTick now)
  have hanswer : (s.step (.beginTick now)).1 = .tick (some (.update delta)) :=
    congrArg Answer.tick hupdate
  rw [hanswer] at hserves
  generalize (s.step (.beginTick now)).2 = t at hserves
  cases hserves with
  | aside hquiet => cases hquiet.update
  | updated _ hrunning => exact ⟨hrunning, rfl⟩

/-- What is counted is what is meant to be counted, if starts make no difference. -/
theorem Counted.measured (hs : Counted s h) (hagrees : Agrees h) : Measured s h := by
  have hdelta : ∀ now delta, (s.beginTick now).1 = some (.update delta) →
      delta = timeFrom (updates (fun e => e.starts || e.resumes || e.resets) h).head? now := by
    intro now delta hupdate
    rw [(beginTick_update hupdate).2, delta_eq_timeFrom, hs.lastUpdate, hagrees.delta]
  constructor
  case delta => exact hdelta
  case frames => rw [hs.frames, hagrees.frames]
  case awake =>
    intro now delta hupdate hpos e he
    have hsome : updates (fun e => e.starts || e.resumes || e.resets) h ≠ [] := by
      intro hnil
      have hzero := hdelta now delta hupdate
      rw [hnil] at hzero
      exact absurd hzero (Nat.ne_of_gt hpos)
    cases hhalts : e.halts with
    | false => rfl
    | true => exact absurd (beginTick_update hupdate).1 (hs.asleep hsome e he hhalts)

theorem Agrees.concat (hagrees : Agrees h)
    (hfresh : e.starts = true → updates Served.resets h = []) : Agrees (h ++ [e]) := by
  cases hstarts : e.starts with
  | false =>
    constructor
    case delta => rw [updates_concat, updates_concat, hagrees.delta, hstarts, Bool.false_or]
    case frames => rw [updates_concat, updates_concat, hagrees.frames, hstarts, Bool.false_or]
  | true =>
    have hnil := hfresh hstarts
    have hnil' : updates (fun e => e.resumes || e.resets) h = [] :=
      updates_eq_nil_of_imp (fun e he => by rw [he, Bool.or_true]) hnil
    have hnone : e.update? = none := by
      obtain ⟨r, a⟩ := e
      cases r <;> first | rfl | cases hstarts
    constructor
    case delta =>
      rw [updates_concat, updates_concat, hnil', hnone, hstarts]
      simp
    case frames =>
      rw [updates_concat, updates_concat, hnil, hnone, hstarts]
      simp

/-! ### Runs -/

theorem run_append (s : Scheduler) (xs ys : List Request) :
    (s.run (xs ++ ys)).2 = ((s.run xs).2.run ys).2 := by
  induction xs generalizing s with
  | nil => rfl
  | cons x xs ih => exact ih (s.step x).2

theorem history_append (s : Scheduler) (xs ys : List Request) :
    s.history (xs ++ ys) = s.history xs ++ (s.run xs).2.history ys := by
  induction xs generalizing s with
  | nil => rfl
  | cons x xs ih => exact congrArg (⟨x, (s.step x).1⟩ :: ·) (ih (s.step x).2)

theorem Serves.of_starts (hserves : Serves s e t) (hstarts : e.starts = true) :
    s.state = .stopped ∧ ∃ now, e.request = .start now := by
  cases hserves with
  | aside hquiet => exact absurd (hstarts.symm.trans hquiet.starts) Bool.noConfusion
  | started now hstopped => exact ⟨hstopped, now, rfl⟩
  | stopped | paused | resumed | reset | updated => cases hstarts

theorem agrees_run (hs : Counted s h) (hagrees : Agrees h) {rs : List Request}
    (hfresh : ∀ before now after, rs = before ++ .start now :: after →
      (s.run before).2.state = .stopped → (s.run before).2.frames = 0) :
    Agrees (h ++ s.history rs) := by
  induction rs generalizing s h with
  | nil =>
    rw [history, List.append_nil]
    exact hagrees
  | cons r rs ih =>
    have hserves := serves_step s r
    have hfirst : Agrees (h ++ [⟨r, (s.step r).1⟩]) := by
      refine hagrees.concat fun hstarts => ?_
      obtain ⟨hstopped, now, hr⟩ := hserves.of_starts hstarts
      have hzero : s.frames = 0 := hfresh [] now rs (congrArg (· :: rs) hr) hstopped
      rw [hs.frames] at hzero
      exact List.eq_nil_of_length_eq_zero hzero
    have hlater := ih (hs.serves hserves) hfirst fun before now after hrs =>
      hfresh (r :: before) now after (congrArg (r :: ·) hrs)
    rw [List.append_assoc] at hlater
    exact hlater

/-- An update carries the time since the last one unless a pause ended or the timing was reset in
between, and the frames are the updates since the last reset. That is what is meant to be counted,
throughout a run, exactly if every start of a stopped scheduler finds no frames. -/
theorem measured_run (period : Nat) (rs : List Request) :
    let s := new period
    (∀ now delta, ((s.run rs).2.beginTick now).1 = some (.update delta) →
        delta = timeFrom (updates (fun e => e.resumes || e.resets) (s.history rs)).head? now) ∧
      (s.run rs).2.frames = (updates Served.resets (s.history rs)).length ∧
      ((∀ before after, rs = before ++ after → Measured (s.run before).2 (s.history before)) ↔
        ∀ before now after, rs = before ++ .start now :: after →
          (s.run before).2.state = .stopped → (s.run before).2.frames = 0) := by
  intro s
  have hcounted : ∀ rs, Counted (s.run rs).2 (s.history rs) := counted_run (counted_new period)
  refine ⟨?_, (hcounted rs).frames, ?_, ?_⟩
  · intro now delta hupdate
    rw [(beginTick_update hupdate).2, delta_eq_timeFrom, (hcounted rs).lastUpdate]
  · intro hmeasured before now after hrs hstopped
    -- the frames are meant to count afresh right after the start, and go on as they were
    have hsplit : rs = (before ++ [.start now]) ++ after := by
      rw [hrs, List.append_assoc]
      rfl
    have hafter := (hmeasured _ _ hsplit).frames
    rw [run_append, history_append] at hafter
    generalize (s.run before).2 = t at hstopped hafter ⊢
    have hstart : t.start now = (true, { t with state := .running, nextTick := some now }) := by
      rw [start, hstopped]
    simp only [run, history, step, hstart, updates_concat, Served.starts] at hafter
    exact hafter
  · intro hfresh before after hrs
    refine (hcounted before).measured ?_
    refine agrees_run (s := s) (h := []) (counted_new period) ⟨rfl, rfl⟩ ?_
    intro earlier now later hbefore
    refine hfresh earlier now (later ++ after) ?_
    rw [hrs, hbefore, List.append_assoc]
    rfl

/-- A scheduler that is stopped for a second and started again carries that second. -/
theorem delta_restarted :
    let s := new standardPeriod
    let rs := [.start 0, .beginTick 0, .endTick 0, .stop, .start 1000000000]
    ((s.run rs).2.beginTick 1000000000).1 = some (.update 1000000000) ∧
      ¬ Measured (s.run rs).2 (s.history rs) := by
  refine ⟨rfl, fun hmeasured => ?_⟩
  have hzero : (1000000000 : Nat) = 0 := hmeasured.delta 1000000000 1000000000 rfl
  exact absurd hzero (by decide)

end Handheld.Scheduler
