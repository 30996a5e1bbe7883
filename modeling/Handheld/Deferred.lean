/-!
# Deferred work

Work that is not to delay a tick is queued with the time at which it becomes due. The queue
hands out what is due in the order of queueing, not of due times, and each entry once.

## Main statements

* `length_due_add_rest`: nothing is lost and nothing doubled.
* `nextDue?_le_iff`: something is due exactly from the next due time on.
-/

namespace Handheld

/-- A piece of deferred work. -/
inductive DeferredTask
  /-- Report the final score of a game that ended. -/
  | submitScore (score : Int)
  /-- Fetch the leaderboard. -/
  | fetchLeaderboard
  /-- Hand the composed frame to the hook. -/
  | firstFrame
  deriving Repr, DecidableEq

/-- Work in the order of queueing, each with its due time. -/
structure DeferredQueue where
  pending : List (Int × DeferredTask) := []
  deriving Repr, DecidableEq

namespace DeferredQueue

/-- Queues a task. -/
def schedule (q : DeferredQueue) (due : Int) (task : DeferredTask) : DeferredQueue :=
  ⟨q.pending ++ [(due, task)]⟩

def due (q : DeferredQueue) (now : Int) : List DeferredTask :=
  (q.pending.filter fun e => e.1 ≤ now).map Prod.snd

/-- The queue without the tasks due at a time. -/
def rest (q : DeferredQueue) (now : Int) : DeferredQueue :=
  ⟨q.pending.filter fun e => now < e.1⟩

/-- Takes the tasks that are due, in the order of queueing. -/
def takeDue (q : DeferredQueue) (now : Int) : List DeferredTask × DeferredQueue :=
  (q.due now, q.rest now)

def nextDue? (q : DeferredQueue) : Option Int :=
  (q.pending.map Prod.fst).min?

/-- Whether nothing is queued. -/
def isEmpty (q : DeferredQueue) : Bool := q.pending.isEmpty

/-- Drops the tasks equal to a task. -/
def cancel (q : DeferredQueue) (task : DeferredTask) : DeferredQueue :=
  ⟨q.pending.filter fun e => e.2 ≠ task⟩

/-- Drops every task. -/
def cancelAll (_ : DeferredQueue) : DeferredQueue := {}

/-- A request to the queue. -/
inductive Request
  | schedule (due : Int) (task : DeferredTask)
  | take (now : Int)
  | cancel (task : DeferredTask)
  | cancelAll
  deriving Repr, DecidableEq

/-- What a request hands out, and the queue after it. -/
def step (q : DeferredQueue) : Request → List DeferredTask × DeferredQueue
  | .schedule due task => ([], q.schedule due task)
  | .take now => q.takeDue now
  | .cancel task => ([], q.cancel task)
  | .cancelAll => ([], q.cancelAll)

/-- What a list of requests hands out, and the queue after them. -/
def run (q : DeferredQueue) : List Request → List (List DeferredTask) × DeferredQueue
  | [] => ([], q)
  | r :: rs =>
    let first := q.step r
    let later := run first.2 rs
    (first.1 :: later.1, later.2)

/-- Handing out splits the queue. -/
theorem length_due_add_rest (q : DeferredQueue) (now : Int) :
    (q.due now).length + (q.rest now).pending.length = q.pending.length := by
  unfold due rest
  induction q.pending with
  | nil => rfl
  | cons e es ih =>
    by_cases h : e.1 ≤ now
    · have h' : ¬ now < e.1 := by omega
      simp [h, h'] at ih ⊢
      omega
    · have h' : now < e.1 := by omega
      simp [h, h'] at ih ⊢
      omega

theorem due_eq_nil_iff (q : DeferredQueue) (now : Int) :
    q.due now = [] ↔ ∀ e ∈ q.pending, now < e.1 := by
  rw [due, List.map_eq_nil_iff, List.filter_eq_nil_iff]
  refine forall₂_congr fun e _ => ?_
  rw [decide_eq_true_iff, Int.not_le]

/-- A queue has something due exactly from its next due time on. -/
theorem nextDue?_le_iff (q : DeferredQueue) (now : Int) :
    (∃ due, q.nextDue? = some due ∧ due ≤ now) ↔ ∃ e ∈ q.pending, e.1 ≤ now := by
  unfold nextDue?
  constructor
  · rintro ⟨due, hdue, hle⟩
    obtain ⟨e, he, rfl⟩ := List.mem_map.mp (List.min?_eq_some_iff.mp hdue).1
    exact ⟨e, he, hle⟩
  · rintro ⟨e, he, hle⟩
    have hmem : e.1 ∈ q.pending.map Prod.fst := List.mem_map_of_mem he
    cases hmin : (q.pending.map Prod.fst).min? with
    | none =>
      rw [List.min?_eq_none_iff.mp hmin] at hmem
      cases hmem
    | some due => exact ⟨due, rfl, Int.le_trans ((List.min?_eq_some_iff.mp hmin).2 _ hmem) hle⟩

end DeferredQueue

end Handheld
