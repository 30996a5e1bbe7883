import Mathlib.Data.List.Basic
import Handheld.Proofs.Session.Promises

/-!
# The hook and its armings

Each arming of the hook is meant to be answered by at most one call, and not before the first frame
since has waited for a while. Over a whole run there are indeed no more calls than armings: an
update tick makes a promise on the credit of an arming, and a call redeems a promise. Single
armings can still be answered too often and too early. A reset and setting the hook arm it anew and
leave what is promised in the queue. That promise is then stale, and a later poll redeems it on top
of the one that is current.

* `armings`, `credit_step`, `handed_run`: the calls of a run are paid for by its armings;
* `Watch`, `watch`: what is seen of the hook since it was last armed;
* `Punctual`, `CallsCurrent`: what is meant, and when it is so;
* `Aligned`, `aligned_run`: what is seen, what is remembered and what is promised fit together;
* `tally_step`: what current promises call;
* `two_le_of_stale`: what a stale promise adds to that;
* `hookCalls_run`: the calls of a run;
* `called_twice`: an arming that is answered by two calls.
-/

namespace Handheld.Session

variable {s t : Session} {ps : List Promise}

/-! ### Calls and armings -/

/-- How often an operation calls the hook. -/
def handed (s : Session) (op : Operation) : Nat :=
  ((s.step op).effects.filterMap Effect.frame?).length

/-- How often the hook is armed in a run. -/
def armings (s : Session) : List Operation → Nat
  | [] => 0
  | op :: ops => (s.arms op).toNat + armings (s.step op).session ops

/-- The promise that the next update tick would make, as a number. -/
def credit (s : Session) : Nat := (s.hookSet && !s.firstFrameQueued).toNat

theorem setsHook_of_not_arms {op : Operation} (h : s.arms op = false) : op.setsHook = false := by
  cases op <;> first | rfl | cases h

theorem handed_le (h : Queued s ps) (op : Operation) :
    s.handed op ≤ (ps.filter fun p => op.comesFor p.due).length := by
  rw [handed, frames_queued h]
  exact List.length_filterMap_le _ _

theorem length_waiting_le (s : Session) (ps : List Promise) (op : Operation) :
    (s.waiting ps op).length ≤ (ps.filter fun p => !op.comesFor p.due).length := by
  unfold waiting
  split
  · exact Nat.zero_le _
  · exact Nat.le_of_eq (List.length_map _)

/-- A promise is made on credit, and only an arming gives credit. -/
theorem credit_step (s : Session) (op : Operation) :
    (s.promised? op).toList.length + (s.step op).session.credit
      ≤ s.credit + (s.arms op).toNat := by
  have hstep := s.hookStep op
  have hset := hstep.hookSet
  have hqueued := hstep.queued
  cases hat : s.promisedAt? op with
  | some time =>
    obtain ⟨rfl, -⟩ := poll_of_updatedAt? (updatedAt?_of_promisedAt? hat)
    have hcredit : s.credit = 1 := by
      rw [promisedAt?] at hat
      split at hat
      · rename_i harmed
        rw [credit, harmed]
        rfl
      · cases hat
    rw [hat] at hqueued
    have hspent : (s.step (.poll time)).session.credit = 0 := by
      rw [credit, hqueued, show s.arms (.poll time) = false from rfl]
      simp
    rw [hspent, hcredit, promised?, hat]
    exact Nat.le_refl 1
  | none =>
    rw [promised?, hat]
    rw [hat, Option.isSome_none, Bool.or_false] at hqueued
    cases harms : s.arms op with
    | true =>
      have hone : (s.step op).session.credit ≤ 1 := Bool.toNat_le _
      show 0 + _ ≤ _ + 1
      omega
    | false =>
      rw [harms, Bool.not_false, Bool.true_and] at hqueued
      rw [setsHook_of_not_arms harms, Bool.or_false] at hset
      rw [credit, hset, hqueued]
      exact Nat.le_of_eq (Nat.zero_add _)

/-- What an operation hands over and leaves promised was promised before, or is paid for by an
arming. -/
theorem handed_step (h : Queued s ps) (op : Operation) :
    s.handed op + (s.outstandingAfter ps op).length + (s.step op).session.credit
      ≤ ps.length + s.credit + (s.arms op).toNat := by
  have hhanded := handed_le h op
  have hwaiting := s.length_waiting_le ps op
  have hsplit := List.length_eq_length_filter_add (l := ps) fun p => op.comesFor p.due
  have hcredit := s.credit_step op
  rw [outstandingAfter, List.length_append]
  omega

theorem handed_run (h : Queued s ps) (ops : List Operation) :
    ((s.run ops).effects.filterMap Effect.frame?).length
      ≤ ps.length + s.credit + s.armings ops := by
  induction ops generalizing s ps with
  | nil => exact Nat.zero_le _
  | cons op ops ih =>
    have hstep := handed_step h op
    have hrest := ih (queued_step h op)
    show (((s.step op).effects ++ ((s.step op).session.run ops).effects).filterMap
      Effect.frame?).length ≤ _ + _ + ((s.arms op).toNat + armings (s.step op).session ops)
    rw [List.filterMap_append, List.length_append]
    show s.handed op + _ ≤ _
    omega

/-! ### What is seen of the hook -/

/-- What is seen of the hook since it was last armed. -/
structure Watch where
  /-- The time of the first update tick. -/
  first : Option Int := none
  calls : Nat := 0

def watchAfter (s : Session) (w : Watch) (op : Operation) : Watch :=
  if s.arms op then {}
  else { first := w.first.or (s.updatedAt? op), calls := w.calls + s.handed op }

/-- What is seen of the hook after a run. -/
def watch (w : Watch) (s : Session) : List Operation → Watch
  | [] => w
  | op :: ops => watch (s.watchAfter w op) (s.step op).session ops

theorem watch_append (w : Watch) (s : Session) (xs ys : List Operation) :
    watch w s (xs ++ ys) = watch (watch w s xs) (s.run xs).session ys := by
  induction xs generalizing w s with
  | nil => rfl
  | cons x xs ih => exact ih (s.watchAfter w x) (s.step x).session

/-- Throughout a run the hook is called at most once for each time that it was armed, and at the
earliest a while after the first update tick since. -/
structure Punctual (s : Session) (ops : List Operation) : Prop where
  once : ∀ before after, ops = before ++ after → (watch {} s before).calls ≤ 1
  late : ∀ before now after, ops = before ++ .poll now :: after →
    ((s.run before).session.poll now).effects.filterMap Effect.frame? ≠ [] →
    ∃ first, (watch {} s before).first = some first ∧ first + (hookDelay : Int) ≤ now

/-- No poll of a run that calls the hook does so for a promise that was made before the hook was
last armed. -/
def CallsCurrent (s : Session) (ops : List Operation) : Prop :=
  ∀ before now after, ops = before ++ .poll now :: after →
    ((s.run before).session.poll now).effects.filterMap Effect.frame? ≠ [] →
    ∀ p ∈ outstanding [] s before, p.due ≤ now → p.stale = false

/-! ### Promises that are current -/

/-- How many of some promises were made since the hook was last armed. -/
def current (ps : List Promise) : Nat := ps.countP fun p => !p.stale

theorem promised?_of_not_poll {op : Operation} (h : ∀ now, op ≠ .poll now) :
    s.promised? op = none := by
  rw [promised?, promisedAt?_of_not_poll h, Option.map_none]

theorem handed_of_not_poll {op : Operation} (h : ∀ now, op ≠ .poll now) : s.handed op = 0 := by
  rw [handed, List.length_eq_zero_iff, List.filterMap_eq_nil_iff]
  intro e he
  have hcontrol := s.control_step h e he
  cases e <;> first | rfl | cases hcontrol

theorem Promise.map_after_false (ps : List Promise) : (ps.map fun p => p.after false) = ps := by
  refine (List.map_congr_left fun p _ => ?_).trans (List.map_id ps)
  rw [Promise.after, Bool.or_false]
  rfl

/-- A poll takes the promises away that it comes for, and may add one. -/
theorem outstandingAfter_poll (s : Session) (ps : List Promise) (now : Int) :
    s.outstandingAfter ps (.poll now)
      = (ps.filter fun p => !(Operation.poll now).comesFor p.due)
        ++ (s.promised? (.poll now)).toList := by
  have hkept : ¬ s.withdraws (.poll now) = true := Bool.false_ne_true
  rw [outstandingAfter, waiting, if_neg hkept]
  exact congrArg (· ++ (s.promised? (.poll now)).toList) (Promise.map_after_false _)

/-- Any other operation withdraws the promises, or leaves them and may make them stale. -/
theorem outstandingAfter_of_not_poll {op : Operation} (h : ∀ now, op ≠ .poll now)
    (ps : List Promise) :
    s.outstandingAfter ps op
      = if s.withdraws op then [] else ps.map fun p => p.after (s.arms op) := by
  have hwaiting : (ps.filter fun p => !op.comesFor p.due) = ps := by
    rw [List.filter_eq_self]
    intro p _
    rw [Operation.comesFor_of_not_poll h]
    rfl
  rw [outstandingAfter, waiting, hwaiting, promised?_of_not_poll h]
  exact List.append_nil _

/-! ### The invariant -/

/-- What is seen of the hook, what the session remembers of it and what is promised to it fit
together. -/
structure Aligned (s : Session) (w : Watch) (ps : List Promise) : Prop where
  queued : Queued s ps
  /-- The session remembers whether there was an update tick. -/
  flag : s.hookSet = true → s.firstFrameQueued = w.first.isSome
  /-- A current promise was made by the first update tick. -/
  dated : ∀ p ∈ ps, p.stale = false → w.first = some p.time
  shown : s.renderer.keeps = true → w.first.isSome = true → s.lastFrame?.isSome = true
  /-- What the first update tick promised is withdrawn with all others, still outstanding, or
  was redeemed. -/
  answered : s.renderer.keeps = true → s.hookSet = true → w.first.isSome = true →
    ps = [] ∨ 1 ≤ w.calls + current ps

/-- After an arming nothing is current: what is still promised was promised before it. -/
theorem aligned_armed {w : Watch} (h : Aligned s w ps) {op : Operation}
    (hop : ∀ now, op ≠ .poll now) (harms : s.arms op = true) :
    Aligned (s.step op).session {} (s.outstandingAfter ps op) := by
  have hqueued := queued_step h.queued op
  have hflag := (s.hookStep op).queued
  rw [outstandingAfter_of_not_poll hop, harms] at hqueued ⊢
  rw [harms] at hflag
  constructor
  case queued => exact hqueued
  case flag => exact fun _ => hflag
  case shown => exact fun _ hfirst => absurd hfirst Bool.false_ne_true
  case answered => exact fun _ _ hfirst => absurd hfirst Bool.false_ne_true
  case dated =>
    intro p hp hcurrent
    split at hp
    · exact absurd hp List.not_mem_nil
    · obtain ⟨q, -, rfl⟩ := List.mem_map.mp hp
      exact absurd ((Bool.or_true q.stale).symm.trans hcurrent) nofun

/-- Without an arming the promises are withdrawn together or stay as they are. -/
theorem aligned_unarmed {w : Watch} (h : Aligned s w ps) {op : Operation}
    (hop : ∀ now, op ≠ .poll now) (harms : s.arms op = false) :
    Aligned (s.step op).session w (s.outstandingAfter ps op) := by
  have hqueued := queued_step h.queued op
  have hset := (s.hookStep op).hookSet
  have hflag := (s.hookStep op).queued
  have hrenderer := s.renderer_step hop
  rw [outstandingAfter_of_not_poll hop, harms, Promise.map_after_false] at hqueued ⊢
  rw [setsHook_of_not_arms harms, Bool.or_false] at hset
  rw [harms, promisedAt?_of_not_poll hop, Option.isSome_none, Bool.or_false] at hflag
  constructor
  case queued => exact hqueued
  case flag =>
    intro hhook
    rw [hflag]
    exact h.flag (hset.symm.trans hhook)
  case dated =>
    intro p hp
    split at hp
    · exact absurd hp List.not_mem_nil
    · exact h.dated p hp
  case shown =>
    rw [lastFrame?, hrenderer]
    exact h.shown
  case answered =>
    rw [hrenderer, hset]
    intro hkeeps hhook hfirst
    split
    · exact Or.inl rfl
    · exact h.answered hkeeps hhook hfirst

theorem aligned_aside {w : Watch} (h : Aligned s w ps) {op : Operation}
    (hop : ∀ now, op ≠ .poll now) :
    Aligned (s.step op).session (s.watchAfter w op) (s.outstandingAfter ps op) := by
  rw [watchAfter]
  cases harms : s.arms op with
  | true =>
    rw [if_pos rfl]
    exact aligned_armed h hop harms
  | false =>
    rw [if_neg Bool.false_ne_true, updatedAt?_of_not_poll hop, Option.or_none,
      handed_of_not_poll hop, Nat.add_zero]
    exact aligned_unarmed h hop harms

/-- A promise is made by the first update tick since the hook was armed. -/
theorem Aligned.first_of_promisedAt? {w : Watch} (h : Aligned s w ps) {op : Operation} {time : Int}
    (hat : s.promisedAt? op = some time) : w.first = none ∧ s.updatedAt? op = some time := by
  refine ⟨?_, updatedAt?_of_promisedAt? hat⟩
  rw [promisedAt?] at hat
  split at hat
  · rename_i harmed
    obtain ⟨hhook, hunqueued⟩ := (Bool.and_eq_true _ _).mp harmed
    rw [h.flag hhook, Bool.not_eq_true', Option.isSome_eq_false_iff, Option.isNone_iff_eq_none]
      at hunqueued
    exact hunqueued
  · cases hat

/-- The first update tick since the hook was armed makes a promise. -/
theorem Aligned.promisedAt?_of_first {w : Watch} (h : Aligned s w ps) (hhook : s.hookSet = true)
    (op : Operation) :
    s.promisedAt? op = if w.first.isSome then none else s.updatedAt? op := by
  rw [promisedAt?, hhook, h.flag hhook]
  cases w.first <;> rfl

theorem handed_of_lastFrameFor? (h : Queued s ps) (hlast : s.lastFrameFor?.isSome = true)
    (op : Operation) : s.handed op = (ps.filter fun p => op.comesFor p.due).length := by
  obtain ⟨frame, hframe⟩ := Option.isSome_iff_exists.mp hlast
  rw [handed, frames_queued h, hframe]
  rw [show (fun _ : Promise => some frame) = some ∘ fun _ => frame from rfl,
    List.filterMap_eq_map, List.length_map]

theorem Aligned.answered_poll {w : Watch} (h : Aligned s w ps) (now : Int)
    (hkeeps : s.renderer.keeps = true) (hhook : s.hookSet = true)
    (hfirst : (w.first.or (s.updatedAt? (.poll now))).isSome = true) :
    s.outstandingAfter ps (.poll now) = [] ∨
      1 ≤ w.calls + s.handed (.poll now) + current (s.outstandingAfter ps (.poll now)) := by
  rw [outstandingAfter_poll, promised?, h.promisedAt?_of_first hhook]
  cases hwas : w.first with
  | none =>
    -- this is the first update tick, and it promises
    rw [hwas, Option.none_or] at hfirst
    obtain ⟨time, hupdated⟩ := Option.isSome_iff_exists.mp hfirst
    rw [hupdated, current, List.countP_append]
    right
    show 1 ≤ _ + (_ + 1)
    omega
  | some first =>
    have hsome : w.first.isSome = true := congrArg Option.isSome hwas
    have hlast : s.lastFrameFor?.isSome = true := by
      rw [lastFrameFor?, if_pos hhook]
      exact h.shown hkeeps hsome
    show (ps.filter fun p => !(Operation.poll now).comesFor p.due) ++ [] = [] ∨
      1 ≤ _ + current (_ ++ [])
    rw [List.append_nil]
    rcases h.answered hkeeps hhook hsome with rfl | hanswered
    · exact Or.inl rfl
    · -- what the poll comes for it redeems
      right
      have hhanded := handed_of_lastFrameFor? h.queued hlast (.poll now)
      have hsplit := List.countP_eq_countP_filter_add ps (fun p => !p.stale)
        fun p => (Operation.poll now).comesFor p.due
      have hdue := List.countP_le_length
        (l := ps.filter fun p => (Operation.poll now).comesFor p.due) (p := fun p => !p.stale)
      rw [current] at hanswered ⊢
      omega

theorem aligned_poll {w : Watch} (h : Aligned s w ps) (now : Int) :
    Aligned (s.poll now).session (s.watchAfter w (.poll now))
      (s.outstandingAfter ps (.poll now)) := by
  have hqueued := queued_step h.queued (.poll now)
  obtain ⟨hset, hflag, -⟩ := s.poll_hook now
  have hwatch : s.watchAfter w (.poll now)
      = { first := w.first.or (s.updatedAt? (.poll now))
          calls := w.calls + s.handed (.poll now) } :=
    if_neg (show s.arms (.poll now) ≠ true from nofun)
  have hkept : (s.poll now).session.renderer.keeps = s.renderer.keeps := s.keeps_step (.poll now)
  rw [hwatch]
  constructor
  case queued => exact hqueued
  case flag =>
    intro hhook
    rw [hset] at hhook
    rw [hflag, h.promisedAt?_of_first hhook, h.flag hhook]
    cases w.first <;> rfl
  case dated =>
    intro p hp hcurrent
    rw [outstandingAfter_poll] at hp
    rcases List.mem_append.mp hp with hp | hp
    · rw [h.dated p (List.mem_filter.mp hp).1 hcurrent]
      rfl
    · obtain ⟨time, hat, rfl⟩ := Option.map_eq_some_iff.mp (Option.mem_toList.mp hp)
      obtain ⟨hfirst, hupdated⟩ := h.first_of_promisedAt? hat
      rw [hfirst, hupdated]
      rfl
  case shown =>
    intro hkeeps hfirst
    rw [hkept] at hkeeps
    rw [lastFrame?, renderer_poll]
    split
    · rw [Renderer.lastFrame?_render hkeeps]
      rfl
    · rename_i hnone
      have hstill : s.updatedAt? (.poll now) = none := by
        rw [updatedAt?, Option.not_isSome_iff_eq_none.mp hnone]
      rw [hstill, Option.or_none] at hfirst
      exact h.shown hkeeps hfirst
  case answered =>
    intro hkeeps hhook
    exact h.answered_poll now (hkept.symm.trans hkeeps) (hset.symm.trans hhook)

theorem aligned_step {w : Watch} (h : Aligned s w ps) (op : Operation) :
    Aligned (s.step op).session (s.watchAfter w op) (s.outstandingAfter ps op) := by
  by_cases hpoll : ∃ now, op = .poll now
  · obtain ⟨now, rfl⟩ := hpoll
    exact aligned_poll h now
  · exact aligned_aside h fun now hop => hpoll ⟨now, hop⟩

theorem aligned_run {w : Watch} (h : Aligned s w ps) (ops : List Operation) :
    Aligned (s.run ops).session (watch w s ops) (outstanding ps s ops) := by
  induction ops generalizing s w ps with
  | nil => exact h
  | cons op ops ih => exact ih (aligned_step h op)

theorem aligned_newWith (settings : Settings) (period : Nat) (renderer : Renderer)
    (services : Services) : Aligned (newWith settings (.new period) renderer services) {} [] where
  queued := rfl
  flag := nofun
  dated := nofun
  shown := fun _ => nofun
  answered := fun _ => nofun

/-! ### Runs without stale calls -/

theorem current_after_true (ps : List Promise) : current (ps.map fun p => p.after true) = 0 := by
  rw [current, List.countP_eq_zero]
  intro p hp
  obtain ⟨q, -, rfl⟩ := List.mem_map.mp hp
  rw [Promise.after, Bool.or_true]
  exact Bool.false_ne_true

/-- A poll that calls the hook for current promises alone calls it at most once for each. -/
theorem handed_le_current (h : Queued s ps) {op : Operation}
    (hcurrent : s.handed op ≠ 0 → ∀ p ∈ ps, op.comesFor p.due = true → p.stale = false) :
    s.handed op ≤ current (ps.filter fun p => op.comesFor p.due) := by
  by_cases hnone : s.handed op = 0
  · rw [hnone]
    exact Nat.zero_le _
  · have hall : current (ps.filter fun p => op.comesFor p.due)
        = (ps.filter fun p => op.comesFor p.due).length := by
      rw [current, List.countP_eq_length]
      intro p hp
      obtain ⟨hmem, hdue⟩ := List.mem_filter.mp hp
      rw [hcurrent hnone p hmem hdue]
      rfl
    rw [hall]
    exact handed_le h op

theorem tally_poll {w : Watch} (h : Aligned s w ps)
    (htally : w.calls + current ps ≤ w.first.isSome.toNat) {now : Int}
    (hcurrent : s.handed (.poll now) ≠ 0 →
      ∀ p ∈ ps, (Operation.poll now).comesFor p.due = true → p.stale = false) :
    (s.watchAfter w (.poll now)).calls + current (s.outstandingAfter ps (.poll now))
      ≤ (s.watchAfter w (.poll now)).first.isSome.toNat := by
  have hhanded := handed_le_current h.queued hcurrent
  have hsplit : current ps = current _ + current _ :=
    List.countP_eq_countP_filter_add ps (fun p => !p.stale)
      fun p => (Operation.poll now).comesFor p.due
  rw [watchAfter, if_neg (show s.arms (.poll now) ≠ true from nofun), outstandingAfter_poll,
    current, List.countP_append]
  cases hat : s.promisedAt? (.poll now) with
  | some time =>
    obtain ⟨hfirst, hupdated⟩ := h.first_of_promisedAt? hat
    rw [hfirst] at htally
    have hnothing : w.calls + current ps ≤ 0 := htally
    rw [promised?, hat, hfirst, hupdated]
    show w.calls + s.handed (.poll now) + (current _ + 1) ≤ 1
    omega
  | none =>
    have hfirst : w.first.isSome.toNat
        ≤ (w.first.or (s.updatedAt? (.poll now))).isSome.toNat := by
      cases w.first with
      | none => exact Nat.zero_le _
      | some first => exact Nat.le_refl 1
    rw [promised?, hat]
    show w.calls + s.handed (.poll now) + (current _ + 0)
      ≤ (w.first.or (s.updatedAt? (.poll now))).isSome.toNat
    omega

theorem tally_aside {w : Watch} (htally : w.calls + current ps ≤ w.first.isSome.toNat)
    {op : Operation} (hop : ∀ now, op ≠ .poll now) :
    (s.watchAfter w op).calls + current (s.outstandingAfter ps op)
      ≤ (s.watchAfter w op).first.isSome.toNat := by
  rw [outstandingAfter_of_not_poll hop, watchAfter]
  cases harms : s.arms op with
  | true =>
    rw [if_pos rfl]
    split
    · exact Nat.le_refl 0
    · rw [current_after_true]
      exact Nat.le_refl 0
  | false =>
    rw [if_neg Bool.false_ne_true, handed_of_not_poll hop, updatedAt?_of_not_poll hop,
      Option.or_none, Nat.add_zero]
    split
    · exact Nat.le_trans (Nat.le_add_right _ _) htally
    · rw [Promise.map_after_false]
      exact htally

/-- As long as no stale promise calls the hook, the calls and the current promises are together
at most one, and none before the first update tick. -/
theorem tally_step {w : Watch} (h : Aligned s w ps)
    (htally : w.calls + current ps ≤ w.first.isSome.toNat) {op : Operation}
    (hcurrent : s.handed op ≠ 0 → ∀ p ∈ ps, op.comesFor p.due = true → p.stale = false) :
    (s.watchAfter w op).calls + current (s.outstandingAfter ps op)
      ≤ (s.watchAfter w op).first.isSome.toNat := by
  by_cases hpoll : ∃ now, op = .poll now
  · obtain ⟨now, rfl⟩ := hpoll
    exact tally_poll h htally hcurrent
  · exact tally_aside htally fun now hop => hpoll ⟨now, hop⟩

theorem handed_ne_zero_iff (s : Session) (now : Int) :
    s.handed (.poll now) ≠ 0 ↔ (s.poll now).effects.filterMap Effect.frame? ≠ [] :=
  List.length_eq_zero_iff.not

theorem tally_run (h : Aligned s {} []) {ops : List Operation} (hcurrent : CallsCurrent s ops) :
    (watch {} s ops).calls + current (outstanding [] s ops)
      ≤ (watch {} s ops).first.isSome.toNat := by
  induction ops using List.reverseRecOn with
  | nil => exact Nat.le_refl 0
  | append_singleton ops op ih =>
    have hearlier : CallsCurrent s ops := fun before now after hops =>
      hcurrent before now (after ++ [op]) (by rw [hops]; exact List.append_assoc ..)
    rw [watch_append, outstanding_append]
    refine tally_step (aligned_run h ops) (ih hearlier) fun hhanded p hp hdue => ?_
    cases op with
    | poll now =>
      exact hcurrent ops now [] rfl ((handed_ne_zero_iff _ now).mp hhanded) p hp
        (of_decide_eq_true hdue)
    | _ => exact absurd hdue Bool.false_ne_true

/-- A promise becomes stale when the session is reset or the hook is set while it waits. -/
theorem stale_run (s : Session) (ops : List Operation) {p : Promise}
    (hp : p ∈ outstanding [] s ops) (hstale : p.stale = true) :
    ∃ before op after, ops = before ++ op :: after ∧ (op = .reset ∨ op = .setHook) ∧
      outstanding [] s before ≠ [] := by
  induction ops using List.reverseRecOn generalizing p with
  | nil => exact absurd hp List.not_mem_nil
  | append_singleton ops op ih =>
    rw [outstanding_append] at hp
    rcases List.mem_append.mp hp with hwaiting | hpromised
    · rw [waiting] at hwaiting
      split at hwaiting
      · exact absurd hwaiting List.not_mem_nil
      · rename_i hwithdraws
        obtain ⟨q, hq, rfl⟩ := List.mem_map.mp hwaiting
        have hmem := (List.mem_filter.mp hq).1
        rcases (Bool.or_eq_true _ _).mp hstale with hbefore | harms
        · obtain ⟨before, op', after, rfl, hop, hne⟩ := ih hmem hbefore
          exact ⟨before, op', after ++ [op], List.append_assoc .., hop, hne⟩
        · refine ⟨ops, op, [], rfl, ?_, List.ne_nil_of_mem hmem⟩
          cases op with
          | reset => exact Or.inl rfl
          | setHook => exact Or.inr rfl
          -- what puts a game in place withdraws the promises
          | load => exact absurd rfl hwithdraws
          | loadBundled | create | restart =>
            exact absurd (Option.isSome_of_any harms) hwithdraws
          | _ => cases harms
    · obtain ⟨time, -, rfl⟩ := Option.map_eq_some_iff.mp (Option.mem_toList.mp hpromised)
      cases hstale

/-! ### Every run -/

theorem once_of_current (h : Aligned s {} []) {ops : List Operation}
    (hcurrent : CallsCurrent s ops) : Punctual s ops where
  once := by
    intro before after hops
    have hearlier : CallsCurrent s before := fun earlier now later hbefore =>
      hcurrent earlier now (later ++ after) (by rw [hops, hbefore]; exact List.append_assoc ..)
    have htally := tally_run h hearlier
    have hone : (watch {} s before).first.isSome.toNat ≤ 1 := Bool.toNat_le _
    omega
  late := by
    intro before now after hops hcalls
    have haligned := aligned_run h before
    have hsome : 0 < (s.run before).session.handed (.poll now) :=
      Nat.pos_of_ne_zero ((handed_ne_zero_iff _ now).mpr hcalls)
    obtain ⟨p, hp⟩ := List.exists_mem_of_length_pos
      (Nat.lt_of_lt_of_le hsome (handed_le haligned.queued (.poll now)))
    obtain ⟨hmem, hdue⟩ := List.mem_filter.mp hp
    have hdue : p.due ≤ now := of_decide_eq_true hdue
    exact ⟨p.time, haligned.dated p hmem (hcurrent before now after hops hcalls p hmem hdue), hdue⟩

theorem lastFrameFor?_of_handed (h : Queued s ps) {op : Operation} (hcalls : s.handed op ≠ 0) :
    s.lastFrameFor?.isSome = true := by
  rw [Option.isSome_iff_ne_none]
  intro hnone
  refine hcalls ?_
  rw [handed, frames_queued h, hnone, List.filterMap_none]
  rfl

theorem hookSet_of_lastFrameFor? (h : s.lastFrameFor?.isSome = true) :
    s.hookSet = true ∧ s.renderer.keeps = true := by
  rw [lastFrameFor?] at h
  split at h
  · rename_i hhook
    refine ⟨hhook, ?_⟩
    cases hkeeps : s.renderer.keeps with
    | true => rfl
    | false =>
      rw [lastFrame?, Renderer.lastFrame?_of_not_keeps hkeeps] at h
      cases h
  · cases h

/-- A poll that is late enough and redeems a stale promise makes a second call. -/
theorem two_le_of_stale {w : Watch} (h : Aligned s w ps) {now first : Int} {p : Promise}
    (hcalls : s.handed (.poll now) ≠ 0) (hfirst : w.first = some first)
    (hlate : first + (hookDelay : Int) ≤ now) (hp : p ∈ ps) (hdue : p.due ≤ now)
    (hstale : p.stale = true) : 2 ≤ w.calls + s.handed (.poll now) := by
  let due : Promise → Bool := fun q => (Operation.poll now).comesFor q.due
  have hlast := lastFrameFor?_of_handed h.queued hcalls
  obtain ⟨hhook, hkeeps⟩ := hookSet_of_lastFrameFor? hlast
  have hanswered : 1 ≤ w.calls + current ps :=
    (h.answered hkeeps hhook (congrArg Option.isSome hfirst)).resolve_left
      (List.ne_nil_of_mem hp)
  have hsplit : current ps = current (ps.filter due) + current (ps.filter fun q => !due q) :=
    List.countP_eq_countP_filter_add ps (fun q => !q.stale) due
  -- the current promise is due, if there is one
  have hnone : current (ps.filter fun q => !due q) = 0 := by
    rw [current, List.countP_eq_zero]
    intro q hq hcurrent
    obtain ⟨hmem, hwaits⟩ := List.mem_filter.mp hq
    have htime : first = q.time :=
      Option.some.inj (hfirst.symm.trans (h.dated q hmem ((Bool.not_eq_true' _).mp hcurrent)))
    rw [htime] at hlate
    have hreached : due q = true := decide_eq_true hlate
    rw [hreached] at hwaits
    cases hwaits
  have hstales : 0 < (ps.filter due).countP fun q => q.stale :=
    List.countP_pos_iff.mpr ⟨p, List.mem_filter.mpr ⟨hp, decide_eq_true hdue⟩, hstale⟩
  have hboth := List.length_eq_countP_add_countP (fun q : Promise => q.stale) (l := ps.filter due)
  have hhanded : s.handed (.poll now) = (ps.filter due).length :=
    handed_of_lastFrameFor? h.queued hlast (.poll now)
  have hsame : ((ps.filter due).countP fun q => decide ¬q.stale = true)
      = current (ps.filter due) := by
    refine List.countP_congr fun q _ => ?_
    cases q.stale <;> exact Iff.rfl
  omega

theorem current_of_punctual (h : Aligned s {} []) {ops : List Operation}
    (hpunctual : Punctual s ops) : CallsCurrent s ops := by
  intro before now after hops hcalls p hp hdue
  have haligned := aligned_run h before
  obtain ⟨first, hfirst, hlate⟩ := hpunctual.late before now after hops hcalls
  cases hstale : p.stale with
  | false => rfl
  | true =>
    have htwo := two_le_of_stale haligned ((handed_ne_zero_iff _ now).mpr hcalls) hfirst hlate hp
      hdue hstale
    have honce := hpunctual.once (before ++ [.poll now]) after
      (by rw [hops, List.append_assoc]; rfl)
    rw [watch_append] at honce
    have hone : (watch {} s before).calls + (s.run before).session.handed (.poll now) ≤ 1 := honce
    omega

/-- An arming that is answered by two calls is answered too often. -/
theorem not_punctual_of_calls {ops : List Operation} (h : (watch {} s ops).calls = 2) :
    ¬ Punctual s ops := by
  intro hpunctual
  have honce := hpunctual.once ops [] (List.append_nil ops).symm
  omega

/-- Over a run the hook is called no more often than it is armed. Each arming is answered by at most
one call, and not before its time, throughout a run exactly if no poll that calls the hook redeems
a promise from before the last arming. That is so if neither a reset nor setting the hook finds a
promise waiting. -/
theorem hookCalls_run (settings : Settings) (period : Nat) (renderer : Renderer)
    (services : Services) (ops : List Operation) :
    let s := newWith settings (.new period) renderer services
    ((s.run ops).effects.filterMap Effect.frame?).length ≤ s.armings ops ∧
      (Punctual s ops ↔ CallsCurrent s ops) ∧
      ((∀ before op after, ops = before ++ op :: after → op = .reset ∨ op = .setHook →
        outstanding [] s before = []) → Punctual s ops) := by
  intro s
  have haligned := aligned_newWith settings period renderer services
  refine ⟨?_, ⟨current_of_punctual haligned, once_of_current haligned⟩, fun hnever => ?_⟩
  · have hrun := handed_run haligned.queued ops
    rw [show s.credit = 0 from rfl] at hrun
    exact Nat.le_trans hrun (Nat.le_of_eq (Nat.zero_add _))
  · refine once_of_current haligned fun before now after hops _ p hp _ => ?_
    cases hstale : p.stale with
    | false => rfl
    | true =>
      obtain ⟨earlier, op, later, rfl, hop, hne⟩ := stale_run s before hp hstale
      exact absurd (hnever earlier op (later ++ .poll now :: after)
        (by rw [hops, List.append_assoc]; rfl) hop) hne

set_option maxRecDepth 2000 in
/-- A reset between the first frame and its call: the hook is called for the frame before the reset
and for the one after it. -/
theorem called_twice :
    let ops := [.acquire, .load blankCartridge, .setHook, .startAt 0, .poll 0, .reset,
      .poll 16666666, .poll 66666666]
    let s := newWith {} (.new standardPeriod) (.compositor {}) .offline
    (watch {} s ops).first = some 16666666 ∧ (watch {} s ops).calls = 2 ∧ ¬ Punctual s ops :=
  ⟨rfl, rfl, not_punctual_of_calls rfl⟩

end Handheld.Session
