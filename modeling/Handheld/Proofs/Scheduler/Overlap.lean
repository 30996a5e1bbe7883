import Handheld.Proofs.Scheduler.Delta

/-!
# Ticks one after the other

A tick that is begun takes the pending tick away, and the next one is planned when it is ended. A
start plans a tick too, and is not to be accepted while a tick is unfinished. The scheduler only
asks whether it was stopped. So a scheduler that is stopped and started during a tick begins the
next tick before that one is finished.

Of the ticks begun since the last start no two overlap, whatever is asked in between. Of all the
ticks of a run no two overlap exactly if no start was accepted during a tick.

* `unfinished`: the ticks that were begun since something happened and are not finished;
* `Serial`, `serial_run`: since the last start there is one at most, and none while one is pending;
* `unfinished_agree`: starts between ticks make no difference to what is unfinished;
* `serial_run_iff`: no two ticks of a run overlap exactly if no start is accepted during a tick;
* `overlap_restarted`: a run in which two do.
-/

namespace Handheld.Scheduler

/-! ### Unfinished ticks -/

/-- The unfinished ticks after one more request, the latest first. A tick that is begun joins them,
and an end finishes the one that was begun last. -/
def Served.follow (ticks : List Int) : Served → List Int
  | ⟨.beginTick now, .tick (some _)⟩ => now :: ticks
  | ⟨.endTick _, _⟩ => ticks.tail
  | _ => ticks

/-- When the ticks began that are unfinished, of those begun since something last happened. -/
def unfinished (anew : Served → Bool) (h : List Served) : List Int :=
  h.foldl (fun ticks e => if anew e then [] else e.follow ticks) []

/-- What never happens: nothing is forgotten. -/
def Served.never (_ : Served) : Bool := false

theorem unfinished_concat (anew : Served → Bool) (h : List Served) (e : Served) :
    unfinished anew (h ++ [e]) = if anew e then [] else e.follow (unfinished anew h) := by
  rw [unfinished, List.foldl_append]
  rfl

/-- Starts neither begin nor end a tick. -/
theorem Served.follow_of_starts {e : Served} (h : e.starts = true) (ticks : List Int) :
    e.follow ticks = ticks := by
  obtain ⟨request, answer⟩ := e
  cases request <;> first | rfl | cases h

/-! ### One tick at a time -/

variable {s : Scheduler} {h : List Served}

/-- Of the ticks begun since the last start one at most is unfinished. It is the one in flight, and
no other is pending until it is ended. -/
def Serial (s : Scheduler) (h : List Served) : Prop :=
  unfinished Served.starts h = [] ∨
    ∃ began, unfinished Served.starts h = [began] ∧ s.inFlight = some began ∧ s.nextTick = none

/-- A request that leaves the ticks alone, and plans none unless it is a start. -/
theorem Serial.aside {t : Scheduler} {e : Served} (hs : Serial s h)
    (hfollow : ∀ ticks, e.follow ticks = ticks) (hflight : t.inFlight = s.inFlight)
    (hnext : e.starts = false → s.nextTick = none → t.nextTick = none) : Serial t (h ++ [e]) := by
  rw [Serial, unfinished_concat, hfollow]
  cases hstarts : e.starts with
  | true => exact Or.inl rfl
  | false =>
    rcases hs with hnil | ⟨began, hone, hbegan, hnone⟩
    · exact Or.inl hnil
    · exact Or.inr ⟨began, hone, hflight.trans hbegan, hnext hstarts hnone⟩

/-- A tick that is begun was pending, so there was none unfinished. -/
theorem Serial.of_isDue (hs : Serial s h) {now : Int} (hdue : s.isDue now = true) :
    unfinished Served.starts h = [] := by
  rcases hs with hnil | ⟨began, -, -, hnone⟩
  · exact hnil
  · unfold isDue at hdue
    rw [hnone] at hdue
    exact absurd ((Bool.and_eq_true _ _).mp hdue).2 Bool.false_ne_true

theorem Serial.beginTick (hs : Serial s h) (now : Int) :
    Serial (s.beginTick now).2 (h ++ [⟨.beginTick now, .tick (s.beginTick now).1⟩]) := by
  cases hdue : s.isDue now with
  | false =>
    have hsame : s.beginTick now = (none, s) := by
      rw [Scheduler.beginTick, hdue]
      rfl
    rw [hsame]
    exact hs.aside (fun _ => rfl) rfl fun _ hnone => hnone
  | true =>
    obtain ⟨tick, htick⟩ := Option.isSome_iff_exists.mp ((s.beginTick_isSome_iff now).mpr hdue)
    have hleft : (s.beginTick now).2.inFlight = some now ∧ (s.beginTick now).2.nextTick = none := by
      rw [Scheduler.beginTick, hdue, if_pos rfl]
      split <;> exact ⟨rfl, rfl⟩
    refine Or.inr ⟨now, ?_, hleft⟩
    rw [unfinished_concat, htick]
    show now :: unfinished Served.starts h = [now]
    rw [hs.of_isDue hdue]

theorem Serial.endTick (hs : Serial s h) (now : Int) :
    Serial (s.endTick now) (h ++ [⟨.endTick now, .done⟩]) := by
  refine Or.inl ?_
  rw [unfinished_concat]
  show (unfinished Served.starts h).tail = []
  rcases hs with hnil | ⟨began, hone, -, -⟩
  · rw [hnil]
    rfl
  · rw [hone]
    rfl

theorem serial_step (hs : Serial s h) (r : Request) :
    Serial (s.step r).2 (h ++ [⟨r, (s.step r).1⟩]) := by
  cases r with
  | start now =>
    show Serial (s.start now).2 (h ++ [⟨.start now, .accepted (s.start now).1⟩])
    unfold start
    split
    · exact hs.aside (fun _ => rfl) rfl fun hrefused _ => absurd hrefused.symm Bool.false_ne_true
    · exact hs.aside (fun _ => rfl) rfl fun _ hnone => hnone
  | stop =>
    show Serial s.stop.2 (h ++ [⟨.stop, .accepted s.stop.1⟩])
    refine hs.aside (fun _ => rfl) ?_ fun _ _ => ?_ <;>
      (unfold stop; split <;> rfl)
  | pause =>
    show Serial s.pause.2 (h ++ [⟨.pause, .accepted s.pause.1⟩])
    unfold pause
    split <;> exact hs.aside (fun _ => rfl) rfl fun _ hnone => hnone
  | unpause =>
    show Serial s.unpause.2 (h ++ [⟨.unpause, .accepted s.unpause.1⟩])
    unfold unpause
    split <;> exact hs.aside (fun _ => rfl) rfl fun _ hnone => hnone
  | resetTiming => exact hs.aside (fun _ => rfl) rfl fun _ hnone => hnone
  | beginTick now => exact hs.beginTick now
  | record phase duration => exact hs.aside (fun _ => rfl) rfl fun _ hnone => hnone
  | endTick now => exact hs.endTick now

theorem serial_run (hs : Serial s h) (rs : List Request) :
    Serial (s.run rs).2 (h ++ s.history rs) := by
  induction rs generalizing s h with
  | nil =>
    rw [history, List.append_nil]
    exact hs
  | cons r rs ih =>
    have hlater := ih (serial_step hs r)
    rw [List.append_assoc] at hlater
    exact hlater

theorem serial_new (period : Nat) : Serial (new period) [] := Or.inl rfl

/-! ### Runs -/

/-- If every start that was accepted found nothing unfinished, starts make no difference. -/
theorem unfinished_agree (hagree : unfinished Served.never h = unfinished Served.starts h)
    (rs : List Request)
    (hidle : ∀ before now after, rs = before ++ .start now :: after →
      (s.run before).2.state = .stopped →
      unfinished Served.never (h ++ s.history before) = []) :
    unfinished Served.never (h ++ s.history rs) = unfinished Served.starts (h ++ s.history rs) := by
  induction rs generalizing s h with
  | nil =>
    rw [history, List.append_nil]
    exact hagree
  | cons r rs ih =>
    have hfirst : unfinished Served.never (h ++ [⟨r, (s.step r).1⟩])
        = unfinished Served.starts (h ++ [⟨r, (s.step r).1⟩]) := by
      rw [unfinished_concat, unfinished_concat, ← hagree]
      cases hstarts : Served.starts ⟨r, (s.step r).1⟩ with
      | false => rfl
      | true =>
        obtain ⟨hstopped, now, hr⟩ := (serves_step s r).of_starts hstarts
        have hnil := hidle [] now rs (congrArg (· :: rs) hr) hstopped
        rw [history, List.append_nil] at hnil
        rw [Served.follow_of_starts hstarts, hnil]
        rfl
    have hlater := ih hfirst fun before now after hrs hstopped => by
      have hnil := hidle (r :: before) now after (congrArg (r :: ·) hrs) hstopped
      rw [List.append_assoc]
      exact hnil
    rw [List.append_assoc] at hlater
    exact hlater

/-- Right after a start that is accepted a tick can be begun. -/
theorem isDue_start (hstopped : s.state = .stopped) (now : Int) :
    (s.start now).2.isDue now = true := by
  unfold start
  rw [hstopped]
  exact decide_eq_true (Int.le_refl now)

/-- A tick is begun only if every tick begun since the last start is finished. It is begun only if
every earlier tick is finished, throughout a run, exactly if every start of a stopped scheduler
finds every tick finished. -/
theorem serial_run_iff (period : Nat) (rs : List Request) :
    let s := new period
    (∀ now, ((s.run rs).2.beginTick now).1.isSome = true →
        unfinished Served.starts (s.history rs) = []) ∧
      ((∀ before after, rs = before ++ after → ∀ now,
          ((s.run before).2.beginTick now).1.isSome = true →
          unfinished Served.never (s.history before) = []) ↔
        ∀ before now after, rs = before ++ .start now :: after →
          (s.run before).2.state = .stopped →
          unfinished Served.never (s.history before) = []) := by
  intro s
  have hserial : ∀ rs, Serial (s.run rs).2 (s.history rs) := serial_run (serial_new period)
  have hbegun : ∀ rs now, ((s.run rs).2.beginTick now).1.isSome = true →
      unfinished Served.starts (s.history rs) = [] := fun rs now htick =>
    (hserial rs).of_isDue ((beginTick_isSome_iff _ now).mp htick)
  refine ⟨hbegun rs, ?_, ?_⟩
  · intro hruns before now after hrs hstopped
    -- what was unfinished before the start still is when the tick that it plans is begun
    have hsplit : rs = (before ++ [.start now]) ++ after := by
      rw [hrs, List.append_assoc]
      rfl
    have hafter := hruns _ _ hsplit now
    rw [run_append, history_append] at hafter
    have hdue := isDue_start hstopped now
    have hnil := hafter ((beginTick_isSome_iff _ now).mpr hdue)
    simp only [history, unfinished_concat] at hnil
    exact hnil
  · intro hidle before after hrs now htick
    have hagree : unfinished Served.never (s.history before)
        = unfinished Served.starts (s.history before) := by
      refine unfinished_agree (h := []) rfl before fun earlier now later hbefore => ?_
      refine hidle earlier now (later ++ after) ?_
      rw [hrs, hbefore, List.append_assoc]
      rfl
    exact hagree.trans (hbegun before now htick)

/-- A scheduler that is stopped and started during a tick begins another one, and neither is
finished. -/
theorem overlap_restarted :
    let s := new standardPeriod
    let rs := [.start 0, .beginTick 0, .stop, .start 1]
    unfinished Served.never (s.history rs) = [0] ∧
      ((s.run rs).2.beginTick 1).1 = some (.update 1) ∧
      unfinished Served.never (s.history (rs ++ [.beginTick 1])) = [1, 0] :=
  ⟨rfl, rfl, rfl⟩

end Handheld.Scheduler
