import Handheld.Deferred
import Mathlib.Data.List.Induction
import Mathlib.Data.Nat.Find

/-!
# The fate of deferred work

Every entry that is queued is handed out once, or dropped, or still there. It is handed out by the
first taking from its due time on, unless it is dropped before; entries that wait and entries that
are handed out together come in the order in which they were queued, whatever their due times are
and however the times of the takings go back and forth.

An entry is told from equal ones by the place of the request that queued it.

* `Waits`, `HandedOut`: which entries are in the queue after some requests, and which ones a request
  hands out, read off the requests alone;
* `Lists`: the entries that a condition describes, in the order of queueing;
* `lists_pending`, `lists_due`: the queue holds the entries that wait, and a taking hands out those
  that are due;
* `Fates`, `fates_run`: the fate of every entry, and what the queue says about it.
-/

namespace Handheld.DeferredQueue

/-! ### Entries and their places -/

/-- Whether a request takes an entry out of the queue, to hand it out or to drop it. -/
def Request.removes (e : Int × DeferredTask) : Request → Bool
  | .schedule _ _ => false
  | .take now => e.1 ≤ now
  | .cancel task => e.2 = task
  | .cancelAll => true

/-- An entry leaves the queue when it is taken at its due time or later, or dropped. -/
theorem removes_eq_true_iff {e : Int × DeferredTask} {r : Request} :
    r.removes e = true ↔
      (∃ now, r = .take now ∧ e.1 ≤ now) ∨ r = .cancel e.2 ∨ r = .cancelAll := by
  cases r <;> simp [Request.removes, eq_comm]

/-- An entry was queued by the request at a place, and no later one took it out. -/
def Waits (rs : List Request) (i : Nat) (e : Int × DeferredTask) : Prop :=
  rs[i]? = some (.schedule e.1 e.2) ∧ ∀ k, i < k → ∀ r, rs[k]? = some r → r.removes e = false

/-- The request at a place hands out the entry that was queued at an earlier one: it is a taking,
and finds the entry due. -/
def HandedOut (rs : List Request) (j i : Nat) (e : Int × DeferredTask) : Prop :=
  Waits (rs.take j) i e ∧ ∃ now, rs[j]? = some (.take now) ∧ e.1 ≤ now

/-- Exactly the entries of which a condition holds with their places, in the order of the places. -/
def Lists (p : Nat → Int × DeferredTask → Prop) (es : List (Int × DeferredTask)) : Prop :=
  ∃ placed : List (Nat × Int × DeferredTask), placed.Pairwise (fun a b => a.1 < b.1) ∧
    (∀ i e, (i, e) ∈ placed ↔ p i e) ∧ placed.map Prod.snd = es

section

variable {p q : Nat → Int × DeferredTask → Prop} {es : List (Int × DeferredTask)}

theorem lists_nil (hnone : ∀ i e, ¬ p i e) : Lists p [] :=
  ⟨[], .nil, fun i e => ⟨fun h => absurd h List.not_mem_nil, fun h => absurd h (hnone i e)⟩, rfl⟩

theorem Lists.congr (h : Lists p es) (hpq : ∀ i e, p i e ↔ q i e) : Lists q es := by
  obtain ⟨placed, hordered, hmem, hes⟩ := h
  exact ⟨placed, hordered, fun i e => (hmem i e).trans (hpq i e), hes⟩

theorem Lists.filter (h : Lists p es) (keep : Int × DeferredTask → Bool) :
    Lists (fun i e => p i e ∧ keep e = true) (es.filter keep) := by
  obtain ⟨placed, hordered, hmem, rfl⟩ := h
  refine ⟨placed.filter fun a => keep a.2, hordered.filter _, ?_, ?_⟩
  · intro i e
    rw [List.mem_filter, hmem]
  · rw [List.filter_map]
    rfl

/-- An entry that is queued last comes last. -/
theorem Lists.concat (h : Lists p es) {n : Nat} (hbelow : ∀ i e, p i e → i < n)
    (last : Int × DeferredTask) : Lists (fun i e => p i e ∨ i = n ∧ e = last) (es ++ [last]) := by
  obtain ⟨placed, hordered, hmem, rfl⟩ := h
  refine ⟨placed ++ [(n, last)], ?_, ?_, by simp⟩
  · rw [List.pairwise_append]
    refine ⟨hordered, List.pairwise_singleton _ _, ?_⟩
    intro a ha b hb
    rw [List.mem_singleton.mp hb]
    exact hbelow a.1 a.2 ((hmem a.1 a.2).mp ha)
  · intro i e
    rw [List.mem_append, hmem, List.mem_singleton, Prod.mk.injEq]

end

/-! ### Waiting -/

theorem waits_take_iff {rs : List Request} {j i : Nat} {e : Int × DeferredTask} :
    Waits (rs.take j) i e ↔ i < j ∧ rs[i]? = some (.schedule e.1 e.2) ∧
      ∀ k, i < k → k < j → ∀ r, rs[k]? = some r → r.removes e = false := by
  simp only [Waits, List.getElem?_take]
  constructor
  · rintro ⟨hqueued, hleft⟩
    split at hqueued
    · rename_i hij
      refine ⟨hij, hqueued, fun k hik hkj r hr => hleft k hik r ?_⟩
      rw [if_pos hkj, hr]
    · cases hqueued
  · rintro ⟨hij, hqueued, hleft⟩
    rw [if_pos hij]
    refine ⟨hqueued, fun k hik r hr => ?_⟩
    split at hr
    · rename_i hkj
      exact hleft k hik hkj r hr
    · cases hr

theorem Waits.lt_length {rs : List Request} {i : Nat} {e : Int × DeferredTask}
    (h : Waits rs i e) : i < rs.length :=
  (List.getElem?_eq_some_iff.mp h.1).1

/-- After one more request, what waits is what it left, and what it queued. -/
theorem waits_concat_iff (rs : List Request) (r : Request) (i : Nat) (e : Int × DeferredTask) :
    Waits (rs ++ [r]) i e ↔
      (Waits rs i e ∧ r.removes e = false) ∨ (i = rs.length ∧ r = .schedule e.1 e.2) := by
  have hold : ∀ k, k < rs.length → (rs ++ [r])[k]? = rs[k]? := fun k hk =>
    List.getElem?_append_left hk
  have hlast : (rs ++ [r])[rs.length]? = some r := List.getElem?_concat_length
  constructor
  · intro h
    have hi := h.lt_length
    rw [List.length_append, List.length_singleton] at hi
    rcases Nat.lt_succ_iff_lt_or_eq.mp hi with hlt | rfl
    · refine Or.inl ⟨⟨(hold i hlt).symm.trans h.1, fun k hik r' hr' => ?_⟩, h.2 _ hlt r hlast⟩
      have hk := (List.getElem?_eq_some_iff.mp hr').1
      exact h.2 k hik r' ((hold k hk).trans hr')
    · exact Or.inr ⟨rfl, Option.some.inj (hlast.symm.trans h.1)⟩
  · rintro (⟨h, hkept⟩ | ⟨rfl, rfl⟩)
    · refine ⟨(hold i h.lt_length).trans h.1, fun k hik r' hr' => ?_⟩
      have hk := (List.getElem?_eq_some_iff.mp hr').1
      rw [List.length_append, List.length_singleton] at hk
      rcases Nat.lt_succ_iff_lt_or_eq.mp hk with hlt | rfl
      · exact h.2 k hik r' ((hold k hlt).symm.trans hr')
      · rwa [← Option.some.inj (hlast.symm.trans hr')]
    · refine ⟨hlast, fun k hk r' hr' => ?_⟩
      have hlt := (List.getElem?_eq_some_iff.mp hr').1
      rw [List.length_append, List.length_singleton] at hlt
      omega

/-! ### What the queue holds -/

theorem pending_step (q : DeferredQueue) (r : Request) :
    (q.step r).2.pending = (q.pending.filter fun e => !r.removes e) ++
      match r with
      | .schedule due task => [(due, task)]
      | _ => [] := by
  cases r with
  | schedule due task =>
    have hkept : (q.pending.filter fun _ => true) = q.pending :=
      List.filter_eq_self.mpr fun _ _ => rfl
    simp only [step, schedule, Request.removes, Bool.not_false, hkept]
  | take now =>
    simp only [step, takeDue, rest, Request.removes, List.append_nil]
    refine List.filter_congr fun e _ => ?_
    rw [← decide_not, decide_eq_decide, Int.not_le]
  | cancel task => simp [step, cancel, Request.removes]
  | cancelAll => simp [step, cancelAll, Request.removes]

theorem run_append (q : DeferredQueue) (xs ys : List Request) :
    (q.run (xs ++ ys)).2 = ((q.run xs).2.run ys).2 := by
  induction xs generalizing q with
  | nil => rfl
  | cons x xs ih => exact ih (q.step x).2

/-- After any requests the queue holds the entries that wait, in the order of queueing. -/
theorem lists_pending (rs : List Request) : Lists (Waits rs) (run {} rs).2.pending := by
  induction rs using List.reverseRecOn with
  | nil => exact lists_nil fun i e h => absurd h.lt_length (Nat.not_lt_zero i)
  | append_singleton rs r ih =>
    have hrest := ih.filter fun e => !r.removes e
    simp only [Bool.not_eq_true'] at hrest
    have hstep : (run {} (rs ++ [r])).2.pending = _ :=
      (congrArg pending (run_append {} rs [r])).trans (pending_step _ r)
    rw [hstep]
    cases r with
    | schedule due task =>
      refine (hrest.concat (fun i e h => h.1.lt_length) (due, task)).congr fun i e => ?_
      rw [waits_concat_iff, Request.schedule.injEq, Prod.ext_iff, @eq_comm _ e.1, @eq_comm _ e.2]
    | take | cancel | cancelAll =>
      rw [List.append_nil]
      refine hrest.congr fun i e => ?_
      simp [waits_concat_iff]

/-- A taking hands out the entries that wait and are due, in the order of queueing. -/
theorem lists_due (rs : List Request) (now : Int) :
    ∃ es, Lists (fun i e => Waits rs i e ∧ e.1 ≤ now) es ∧
      (run {} rs).2.due now = es.map Prod.snd := by
  refine ⟨_, (lists_pending rs).filter (fun e => e.1 ≤ now) |>.congr fun i e => ?_, rfl⟩
  rw [decide_eq_true_iff]

theorem length_run (q : DeferredQueue) (rs : List Request) : (q.run rs).1.length = rs.length := by
  induction rs generalizing q with
  | nil => rfl
  | cons r rs ih => simp only [run, List.length_cons, ih]

/-- What a request of a run hands out is what it hands out to the queue before it. -/
theorem getElem?_run (q : DeferredQueue) (rs : List Request) (j : Nat) :
    (q.run rs).1[j]? = rs[j]?.map fun r => ((q.run (rs.take j)).2.step r).1 := by
  induction rs generalizing q j with
  | nil => simp [run]
  | cons r rs ih =>
    cases j with
    | zero => rfl
    | succ j => exact ih (q.step r).2 j

/-! ### The fate of every entry -/

section

variable {rs : List Request} {i j : Nat} {e : Int × DeferredTask}

/-- The request that hands an entry out takes it out, so no later one finds it. -/
theorem HandedOut.not_waits (h : HandedOut rs j i e) {n : Nat} (hn : j < n) :
    ¬ Waits (rs.take n) i e := by
  obtain ⟨hwaits, now, hr, hdue⟩ := h
  intro hlater
  have hkept := (waits_take_iff.mp hlater).2.2 j (waits_take_iff.mp hwaits).1 hn _ hr
  rw [Request.removes, decide_eq_false_iff_not] at hkept
  exact hkept hdue

theorem HandedOut.entry_unique (h : HandedOut rs j i e) {j' : Nat} {e' : Int × DeferredTask}
    (h' : HandedOut rs j' i e') : e = e' := by
  have hqueued := (waits_take_iff.mp h.1).2.1
  rw [(waits_take_iff.mp h'.1).2.1, Option.some.injEq, Request.schedule.injEq] at hqueued
  exact Prod.ext hqueued.1.symm hqueued.2.symm

theorem HandedOut.place_unique (h : HandedOut rs j i e) {j' : Nat} {e' : Int × DeferredTask}
    (h' : HandedOut rs j' i e') : j = j' := by
  obtain rfl := h.entry_unique h'
  rcases Nat.lt_trichotomy j j' with hlt | heq | hgt
  · exact absurd h'.1 (h.not_waits hlt)
  · exact heq
  · exact absurd h.1 (h'.not_waits hgt)

/-- What is queued waits, was handed out, or was dropped while it waited. -/
theorem accounted (hqueued : rs[i]? = some (.schedule e.1 e.2)) :
    Waits rs i e ∨ (∃ j, HandedOut rs j i e) ∨
      ∃ j, Waits (rs.take j) i e ∧ (rs[j]? = some (.cancel e.2) ∨ rs[j]? = some .cancelAll) := by
  classical
  by_cases hremoved : ∃ k, i < k ∧ ∃ r, rs[k]? = some r ∧ r.removes e = true
  · -- the first request that takes the entry out still finds it
    obtain ⟨hik, r, hr, hremoves⟩ := Nat.find_spec hremoved
    have hwaits : Waits (rs.take (Nat.find hremoved)) i e := by
      refine waits_take_iff.mpr ⟨hik, hqueued, fun k hik' hk r' hr' => ?_⟩
      refine Bool.eq_false_iff.mpr fun hearlier => Nat.find_min hremoved hk ?_
      exact ⟨hik', r', hr', hearlier⟩
    rcases removes_eq_true_iff.mp hremoves with ⟨now, rfl, hdue⟩ | rfl | rfl
    · exact Or.inr (Or.inl ⟨_, hwaits, now, hr, hdue⟩)
    · exact Or.inr (Or.inr ⟨_, hwaits, Or.inl hr⟩)
    · exact Or.inr (Or.inr ⟨_, hwaits, Or.inr hr⟩)
  · refine Or.inl ⟨hqueued, fun k hik r hr => Bool.eq_false_iff.mpr fun hremoves => ?_⟩
    exact hremoved ⟨k, hik, r, hr, hremoves⟩

end

/-- The fate of every entry over a run of requests, and what the queue says about it. -/
structure Fates (rs : List Request) : Prop where
  /-- After every request the queue holds what waits, in the order of queueing. -/
  pending : ∀ n, Lists (Waits (rs.take n)) (run {} (rs.take n)).2.pending
  /-- What a request hands out, in the order of queueing. -/
  handed : ∀ j answer, (run {} rs).1[j]? = some answer →
    ∃ es, Lists (HandedOut rs j) es ∧ answer = es.map Prod.snd
  answered : (run {} rs).1.length = rs.length
  once : ∀ i e e' j j', HandedOut rs j i e → HandedOut rs j' i e' → j = j'
  notEarly : ∀ i e j now, HandedOut rs j i e → rs[j]? = some (.take now) → i < j ∧ e.1 ≤ now
  /-- The first taking from the due time on hands an entry out, unless it was dropped. -/
  notLate : ∀ i due task j now, i < j → rs[i]? = some (.schedule due task) →
    rs[j]? = some (.take now) → due ≤ now →
    (∀ k, i < k → k < j → rs[k]? ≠ some (.cancel task) ∧ rs[k]? ≠ some .cancelAll ∧
      ∀ earlier, rs[k]? = some (.take earlier) → earlier < due) →
    HandedOut rs j i (due, task)
  /-- Nothing is lost. -/
  accounted : ∀ i due task, rs[i]? = some (.schedule due task) →
    Waits rs i (due, task) ∨ (∃ j, HandedOut rs j i (due, task)) ∨
      ∃ j, Waits (rs.take j) i (due, task) ∧
        (rs[j]? = some (.cancel task) ∨ rs[j]? = some .cancelAll)
  cancels : ∀ j task, rs[j]? = some (.cancel task) → ∀ i e,
    Waits (rs.take (j + 1)) i e ↔ Waits (rs.take j) i e ∧ e.2 ≠ task
  /-- The next due time is the least one of all that waits. -/
  nextDue : ∀ due, (run {} rs).2.nextDue? = some due ↔
    (∃ e ∈ (run {} rs).2.pending, e.1 = due) ∧ ∀ e ∈ (run {} rs).2.pending, due ≤ e.1
  takes : ∀ now, ((run {} rs).2.takeDue now).1 ≠ [] ↔
    ∃ due, (run {} rs).2.nextDue? = some due ∧ due ≤ now

theorem nextDue?_eq_some_iff (q : DeferredQueue) (due : Int) :
    q.nextDue? = some due ↔ (∃ e ∈ q.pending, e.1 = due) ∧ ∀ e ∈ q.pending, due ≤ e.1 := by
  unfold nextDue?
  rw [List.min?_eq_some_iff, List.mem_map, List.forall_mem_map]

theorem takeDue_ne_nil_iff (q : DeferredQueue) (now : Int) :
    (q.takeDue now).1 ≠ [] ↔ ∃ due, q.nextDue? = some due ∧ due ≤ now := by
  rw [nextDue?_le_iff, ne_eq, takeDue, due_eq_nil_iff]
  simp only [not_forall, Int.not_lt, exists_prop]

/-- The queue loses nothing and hands out nothing twice, in any run. -/
theorem fates_run (rs : List Request) : Fates rs where
  pending n := lists_pending (rs.take n)
  handed j answer hanswer := by
    rw [getElem?_run, Option.map_eq_some_iff] at hanswer
    obtain ⟨r, hr, rfl⟩ := hanswer
    have hother : (∀ now, r ≠ .take now) → Lists (HandedOut rs j) [] := by
      intro hno
      refine lists_nil fun i e ⟨_, now, htake, _⟩ => hno now ?_
      exact Option.some.inj (hr.symm.trans htake)
    cases r with
    | take now =>
      obtain ⟨es, hes, hdue⟩ := lists_due (rs.take j) now
      refine ⟨es, hes.congr fun i e => and_congr_right fun _ => ?_, hdue⟩
      simp [hr]
    | schedule | cancel | cancelAll => exact ⟨[], hother (by simp), rfl⟩
  answered := length_run {} rs
  once _ _ _ _ _ h h' := h.place_unique h'
  notEarly i e j now h hr := by
    obtain ⟨hwaits, now', hr', hdue⟩ := h
    obtain rfl : now' = now := by simpa [hr'] using hr
    exact ⟨(waits_take_iff.mp hwaits).1, hdue⟩
  notLate i due task j now hij hqueued htake hdue hfree := by
    refine ⟨waits_take_iff.mpr ⟨hij, hqueued, fun k hik hkj r hr => ?_⟩, now, htake, hdue⟩
    obtain ⟨hcancel, hall, hearlier⟩ := hfree k hik hkj
    refine Bool.eq_false_iff.mpr fun hremoves => ?_
    rcases removes_eq_true_iff.mp hremoves with ⟨earlier, rfl, hle⟩ | rfl | rfl
    · exact Int.not_le.mpr (hearlier earlier hr) hle
    · exact hcancel hr
    · exact hall hr
  accounted i due task hqueued := DeferredQueue.accounted (e := (due, task)) hqueued
  cancels j task hr i e := by
    rw [List.take_add_one, hr, Option.toList_some, waits_concat_iff]
    simp [Request.removes]
  nextDue := nextDue?_eq_some_iff _
  takes := takeDue_ne_nil_iff _

/-- A time that goes back hands out nothing that is not due. -/
example :
    (run {} [.schedule 16 .firstFrame, .schedule 0 (.submitScore 10), .schedule 0 .fetchLeaderboard,
      .take 20, .schedule 16 .firstFrame, .take 15]).1
      = [[], [], [], [.firstFrame, .submitScore 10, .fetchLeaderboard], [], []] := rfl

end Handheld.DeferredQueue
