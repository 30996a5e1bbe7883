import Mathlib.Data.List.Induction
import Handheld.Proofs.Session.LastFrame
import Handheld.Proofs.Session.Pauser
import Handheld.Proofs.Session.Swap

/-!
# Promised first frames

The first update tick after the hook was armed promises a frame to the hook: it queues a piece of
deferred work that a later poll redeems. The queue does not say which tick that was, nor for which
arming it was made. This file reads both off a run, as a list of promises beside the queue.

Setting the hook, a reset, and putting a game in place arm the hook. A load also withdraws what
was promised before, and so does a disposal. Setting the hook and a reset do not. What was promised
before them stays in the queue beside what is promised after them.

* `arms`, `withdraws`, `promisedAt?`: what an operation means for the hook;
* `HookStep`, `hookStep`: what an operation leaves of the hook and of the queue;
* `frames_step`: what it hands to the hook;
* `Promise`, `outstanding`: the promises of a run, with the ticks that made them;
* `Queued`, `queued_run`: the queue holds just the promises that are outstanding;
* `Made`, `made_run`: each of them was made by an update tick of the run.
-/

namespace Handheld

/-- The image that an effect hands to the hook. -/
def Effect.frame? : Effect → Option Image
  | .hooked frame => some frame
  | _ => none

/-- When the first frames are due that wait in a queue, in the order of queueing. -/
def DeferredQueue.promises (q : DeferredQueue) : List Int :=
  (q.pending.filter fun e => e.2 = .firstFrame).map Prod.fst

namespace DeferredQueue

theorem promises_append (es fs : List (Int × DeferredTask)) :
    promises ⟨es ++ fs⟩ = promises ⟨es⟩ ++ promises ⟨fs⟩ := by
  unfold promises
  rw [List.filter_append, List.map_append]

theorem promises_rest (q : DeferredQueue) (now : Int) :
    (q.rest now).promises = q.promises.filter fun due => now < due := by
  unfold promises rest
  rw [List.filter_map, List.filter_filter, List.filter_filter]
  congr 1
  refine List.filter_congr fun e _ => ?_
  exact Bool.and_comm _ _

theorem promises_cancel (q : DeferredQueue) : (q.cancel .firstFrame).promises = [] := by
  unfold promises cancel
  rw [List.filter_filter, List.map_eq_nil_iff, List.filter_eq_nil_iff]
  intro e _
  simp

end DeferredQueue

namespace Session

/-! ### What an operation means for the hook -/

/-- The cartridge that an operation loads, if it finds one. -/
def offered? (s : Session) : Operation → Option Guest.Cartridge
  | .load c => some c
  | .loadBundled name => (Guest.Bundled.ofName? name).map Guest.Bundled.cartridge
  | .create _ => s.services.generate.toOption
  | .restart _ => s.cartridge?
  | _ => none

/-- Whether an operation arms the hook: it sets the hook, resets the session, or puts a game in
place. A load that fails puts the game in place that was there. -/
def arms (s : Session) : Operation → Bool
  | .setHook | .reset => true
  | op => (s.offered? op).any fun c => (s.load c).session.game.isSome

/-- Whether an operation withdraws what was promised to the hook. -/
def withdraws (s : Session) : Operation → Bool
  | .dispose => true
  | op => (s.offered? op).isSome

def Operation.setsHook : Operation → Bool
  | .setHook => true
  | _ => false

/-- The time of an operation that runs an update tick. -/
def updatedAt? (s : Session) : Operation → Option Int
  | .poll now =>
    match (s.poll now).value with
    | some (.update _) => some now
    | some .renderOnly | none => none
  | _ => none

/-- The time of an operation that promises a frame: it runs an update tick, and the hook is armed
and was promised none yet. -/
def promisedAt? (s : Session) (op : Operation) : Option Int :=
  if s.hookSet && !s.firstFrameQueued then s.updatedAt? op else none

/-- What the hook is handed in a poll of now, if it is called. -/
def lastFrameFor? (s : Session) : Option Image := if s.hookSet then s.lastFrame? else none

variable {s t : Session}

/-! ### Polls -/

theorem promiseFrame_hook (s : Session) (now : Int) :
    (s.promiseFrame now).hookSet = s.hookSet ∧
      (s.promiseFrame now).firstFrameQueued = (s.firstFrameQueued || s.hookSet) ∧
      (s.promiseFrame now).deferred.promises = s.deferred.promises
        ++ if s.hookSet && !s.firstFrameQueued then [now + hookDelay] else [] := by
  unfold promiseFrame
  cases hset : s.hookSet with
  | false => exact ⟨hset, (Bool.or_false _).symm, (List.append_nil _).symm⟩
  | true =>
    cases hqueued : s.firstFrameQueued with
    | true => exact ⟨hset, hqueued, (List.append_nil _).symm⟩
    | false => exact ⟨rfl, rfl, DeferredQueue.promises_append _ _⟩

theorem promises_report (now score : Int) (ends : Bool) :
    DeferredQueue.promises ⟨if ends then reportOf now score else []⟩ = [] := by
  cases ends <;> rfl

/-- An update leaves the hook alone, and promises nothing. -/
theorem update_hook (s : Session) (now : Int) (delta : Nat) :
    (s.update now delta).1.hookSet = s.hookSet ∧
      (s.update now delta).1.firstFrameQueued = s.firstFrameQueued ∧
      (s.update now delta).1.deferred.promises = s.deferred.promises := by
  obtain ⟨scheduler, hupdate⟩ := s.update_fst now delta _ rfl
  rw [hupdate]
  refine ⟨rfl, rfl, ?_⟩
  rw [DeferredQueue.promises_append, promises_report]
  exact List.append_nil _

/-- What a poll leaves of the hook and of what was promised to it. -/
theorem poll_hook (s : Session) (now : Int) :
    (s.poll now).session.hookSet = s.hookSet ∧
      (s.poll now).session.firstFrameQueued
        = (s.firstFrameQueued || (s.promisedAt? (.poll now)).isSome) ∧
      (s.poll now).session.deferred.promises = (s.deferred.promises.filter (now < ·))
        ++ ((s.promisedAt? (.poll now)).map (· + (hookDelay : Int))).toList := by
  have hrest := s.deferred.promises_rest now
  have hquiet : s.updatedAt? (.poll now) = none → s.promisedAt? (.poll now) = none := by
    intro hnone
    rw [promisedAt?, hnone, ite_self]
  rcases htick : s.scheduler.beginTick now with ⟨_ | tick, begun⟩
  · obtain ⟨board, submission, hpoll⟩ := poll_of_none htick
    rw [hquiet (by rw [updatedAt?, hpoll]), hpoll, ← hrest]
    exact ⟨rfl, (Bool.or_false _).symm, (List.append_nil _).symm⟩
  · obtain ⟨board, submission, hpoll⟩ := poll_of_some htick
    cases tick with
    | renderOnly =>
      rw [hquiet (by rw [updatedAt?, hpoll]), hpoll, ← hrest]
      exact ⟨rfl, (Bool.or_false _).symm, (List.append_nil _).symm⟩
    | update delta =>
      have hat : s.promisedAt? (.poll now)
          = if s.hookSet && !s.firstFrameQueued then some now else none := by
        rw [promisedAt?, updatedAt?, hpoll]
      let t : Session :=
        { s with
          deferred := s.deferred.rest now, board := board, submission := submission
          scheduler := begun }
      obtain ⟨hset, hqueued, hpromises⟩ := t.update_hook now delta
      obtain ⟨hset', hqueued', hpromises'⟩ :=
        (t.update now delta).1.render.1.promiseFrame_hook now
      rw [hat, hpoll, ← hrest]
      refine ⟨hset'.trans hset, hqueued'.trans ?_, hpromises'.trans ?_⟩
      · show ((t.update now delta).1.firstFrameQueued || (t.update now delta).1.hookSet) = _
        rw [hset, hqueued]
        show (s.firstFrameQueued || s.hookSet) = _
        cases s.firstFrameQueued <;> cases s.hookSet <;> rfl
      · show (t.update now delta).1.deferred.promises
          ++ (if (t.update now delta).1.hookSet && !(t.update now delta).1.firstFrameQueued
            then [now + (hookDelay : Int)] else []) = _
        rw [hset, hqueued, hpromises]
        show _ ++ (if s.hookSet && !s.firstFrameQueued then _ else []) = _
        cases s.firstFrameQueued <;> cases s.hookSet <;> rfl

/-! ### Frames that are handed over -/

theorem frames_showFirstFrame (s : Session) :
    s.showFirstFrame.filterMap Effect.frame? = s.lastFrameFor?.toList := by
  unfold showFirstFrame lastFrameFor?
  cases s.hookSet with
  | false => rfl
  | true => cases s.lastFrame? <;> rfl

/-- The promises among the work that is due are redeemed, each with the last frame. -/
theorem frames_due (s : Session) (now : Int) (es : List (Int × DeferredTask)) :
    ((DeferredQueue.due ⟨es⟩ now).flatMap s.actsOf).filterMap Effect.frame?
      = ((DeferredQueue.promises ⟨es⟩).filter (· ≤ now)).filterMap fun _ => s.lastFrameFor? := by
  induction es with
  | nil => rfl
  | cons e es ih =>
    unfold DeferredQueue.due DeferredQueue.promises at ih ⊢
    obtain ⟨due, task⟩ := e
    by_cases hdue : due ≤ now
    · rw [List.filter_cons_of_pos (by simpa using hdue), List.map_cons, List.flatMap_cons,
        List.filterMap_append, ih]
      cases task with
      | submitScore score => rfl
      | fetchLeaderboard => rfl
      | firstFrame =>
        have hshown : (s.actsOf .firstFrame).filterMap Effect.frame? = s.lastFrameFor?.toList :=
          (Effect.filterMap_filter_isAct (fun _ _ => rfl) _).trans s.frames_showFirstFrame
        rw [hshown, List.filter_cons_of_pos (by simp), List.map_cons,
          List.filter_cons_of_pos (by simpa using hdue), List.filterMap_cons]
        cases s.lastFrameFor? <;> rfl
    · rw [List.filter_cons_of_neg (by simpa using hdue), ih]
      cases task with
      | submitScore score => rfl
      | fetchLeaderboard => rfl
      | firstFrame =>
        rw [List.filter_cons_of_pos (by simp), List.map_cons,
          List.filter_cons_of_neg (by simpa using hdue)]

theorem frames_runDeferred (s : Session) (now : Int) :
    (s.runDeferred now).2.filterMap Effect.frame?
      = (s.deferred.promises.filter (· ≤ now)).filterMap fun _ => s.lastFrameFor? := by
  have hacts : { s with deferred := s.deferred.rest now }.actsOf = s.actsOf := by
    funext task
    cases task <;> rfl
  rw [← Effect.filterMap_filter_isAct (fun _ _ => rfl), runDeferred, runTasks_acts, hacts]
  exact s.frames_due now s.deferred.pending

/-- A poll redeems the promises that are due with the last frame, and its tick hands over
nothing. -/
theorem frames_poll (s : Session) (now : Int) :
    (s.poll now).effects.filterMap Effect.frame?
      = (s.deferred.promises.filter (· ≤ now)).filterMap fun _ => s.lastFrameFor? := by
  rw [← frames_runDeferred]
  rcases htick : s.scheduler.beginTick now with ⟨_ | tick, begun⟩
  · obtain ⟨board, submission, hpoll⟩ := poll_of_none htick
    rw [hpoll]
  · obtain ⟨board, submission, hpoll⟩ := poll_of_some htick
    rw [hpoll]
    simp only
    rw [List.filterMap_append]
    refine (congrArg (_ ++ ·) ?_).trans (List.append_nil _)
    rw [← Effect.filterMap_filter_isAct (fun _ _ => rfl), tick_acts]
    cases tick with
    | renderOnly =>
      show (Effect.ticked :: (render _).2.filter Effect.isAct).filterMap Effect.frame? = []
      rw [render_acts]
      rfl
    | update delta =>
      show (Effect.ticked :: ((update _ now delta).2 ++ (render _).2).filter
        Effect.isAct).filterMap Effect.frame? = []
      rw [List.filter_append, update_acts, render_acts]
      rfl

/-! ### Every operation -/

/-- Whether an operation is a poll at which something is due. -/
def Operation.comesFor (due : Int) : Operation → Bool
  | .poll now => due ≤ now
  | _ => false

theorem Operation.comesFor_of_not_poll {op : Operation} (h : ∀ now, op ≠ .poll now) (due : Int) :
    op.comesFor due = false := by
  cases op <;> first | exact absurd rfl (h _) | rfl

/-- What is due waits on for an operation that is no poll. -/
theorem Operation.waiting_of_not_poll {op : Operation} (h : ∀ now, op ≠ .poll now)
    (dues : List Int) : (dues.filter fun due => !op.comesFor due) = dues := by
  rw [List.filter_eq_self]
  intro due _
  rw [Operation.comesFor_of_not_poll h]
  rfl

theorem updatedAt?_of_not_poll {op : Operation} (h : ∀ now, op ≠ .poll now) :
    s.updatedAt? op = none := by
  cases op <;> first | exact absurd rfl (h _) | rfl

theorem promisedAt?_of_not_poll {op : Operation} (h : ∀ now, op ≠ .poll now) :
    s.promisedAt? op = none := by
  rw [promisedAt?, updatedAt?_of_not_poll h, ite_self]

/-- What an operation leaves of the hook and of what was promised to it. -/
structure HookStep (s : Session) (op : Operation) (t : Session) : Prop where
  hookSet : t.hookSet = (s.hookSet || op.setsHook)
  queued : t.firstFrameQueued
    = (!s.arms op && (s.firstFrameQueued || (s.promisedAt? op).isSome))
  promises : t.deferred.promises
    = (if s.withdraws op then [] else s.deferred.promises.filter fun due => !op.comesFor due)
      ++ ((s.promisedAt? op).map (· + (hookDelay : Int))).toList

theorem hook_load (s : Session) (c : Guest.Cartridge) :
    (s.load c).session.hookSet = s.hookSet ∧
      (s.load c).session.firstFrameQueued
        = (!(s.load c).session.game.isSome && s.firstFrameQueued) ∧
      (s.load c).session.deferred.promises = [] := by
  have hwithdrawn := s.deferred.promises_cancel
  have hends := s.loadLeaves_load c
  generalize s.loadEvent c = e at hends
  generalize (s.load c).session = t at hends ⊢
  cases hends with
  | loaded => exact ⟨rfl, rfl, hwithdrawn⟩
  | restored => exact ⟨rfl, rfl, hwithdrawn⟩
  | lost => exact ⟨rfl, rfl, hwithdrawn⟩
  | refused _ hgame =>
    refine ⟨rfl, ?_, hwithdrawn⟩
    show s.firstFrameQueued = (!s.game.isSome && s.firstFrameQueued)
    rw [hgame]
    rfl

/-- An operation that loads a cartridge leaves what the load leaves, apart from the scheduler. -/
theorem HookStep.load {op : Operation} {c : Guest.Cartridge} (hoffered : s.offered? op = some c)
    (hset : t.hookSet = (s.load c).session.hookSet)
    (hqueued : t.firstFrameQueued = (s.load c).session.firstFrameQueued)
    (hdeferred : t.deferred = (s.load c).session.deferred) : HookStep s op t := by
  obtain ⟨hset', hqueued', hpromises'⟩ := s.hook_load c
  have harms : s.arms op = (s.load c).session.game.isSome := by
    have hany : (s.offered? op).any (fun c => (s.load c).session.game.isSome)
        = (s.load c).session.game.isSome := by
      rw [hoffered]
      rfl
    cases op <;> first | cases hoffered; done | exact hany
  have hwithdraws : s.withdraws op = true := by
    cases op <;> first | rfl | exact congrArg Option.isSome hoffered
  have hat : s.promisedAt? op = none :=
    promisedAt?_of_not_poll fun now hop => by
      subst hop
      cases hoffered
  have hsets : op.setsHook = false := by
    cases op <;> first | rfl | cases hoffered
  constructor
  case hookSet => rw [hset, hset', hsets, Bool.or_false]
  case queued => rw [hqueued, hqueued', harms, hat, Option.isSome_none, Bool.or_false]
  case promises =>
    rw [hdeferred, hpromises', hwithdraws, hat]
    rfl

/-- An operation that leaves the queue alone leaves what was promised. -/
theorem HookStep.kept {op : Operation} (hpoll : ∀ now, op ≠ .poll now)
    (hwithdraws : s.withdraws op = false) (hset : t.hookSet = (s.hookSet || op.setsHook))
    (hqueued : t.firstFrameQueued = (!s.arms op && s.firstFrameQueued))
    (hdeferred : t.deferred = s.deferred) : HookStep s op t where
  hookSet := hset
  queued := by rw [hqueued, promisedAt?_of_not_poll hpoll, Option.isSome_none, Bool.or_false]
  promises := by
    rw [hdeferred, hwithdraws, promisedAt?_of_not_poll hpoll, if_neg Bool.false_ne_true,
      Operation.waiting_of_not_poll hpoll]
    exact (List.append_nil _).symm

theorem HookStep.untouched {op : Operation} (harms : s.arms op = false)
    (hwithdraws : s.withdraws op = false) (hsets : op.setsHook = false)
    (hpoll : ∀ now, op ≠ .poll now) (hset : t.hookSet = s.hookSet)
    (hqueued : t.firstFrameQueued = s.firstFrameQueued) (hdeferred : t.deferred = s.deferred) :
    HookStep s op t := by
  refine .kept hpoll hwithdraws ?_ ?_ hdeferred
  · rw [hset, hsets, Bool.or_false]
  · rw [hqueued, harms, Bool.not_false, Bool.true_and]

/-- Opening and closing the leaderboard leaves the hook alone. -/
theorem hook_closeLeaderboard (s : Session) :
    s.closeLeaderboard.session.hookSet = s.hookSet ∧
      s.closeLeaderboard.session.firstFrameQueued = s.firstFrameQueued ∧
      s.closeLeaderboard.session.deferred = s.deferred := by
  rw [closeLeaderboard_session]
  cases s.pausedForOverlay <;> exact ⟨rfl, rfl, rfl⟩

theorem hook_openLeaderboard (s : Session) :
    s.openLeaderboard.session.hookSet = s.hookSet ∧
      s.openLeaderboard.session.firstFrameQueued = s.firstFrameQueued ∧
      s.openLeaderboard.session.deferred = s.deferred := by
  have hpaused : s.pausedFor.1.hookSet = s.hookSet ∧
      s.pausedFor.1.firstFrameQueued = s.firstFrameQueued ∧
      s.pausedFor.1.deferred = s.deferred := by
    unfold pausedFor
    split <;> exact ⟨rfl, rfl, rfl⟩
  obtain ⟨hset, hqueued, hdeferred⟩ := hpaused
  cases hfetch : s.pausedFor.1.services.fetch with
  | ok entries =>
    rw [openLeaderboard_of_ok rfl hfetch]
    exact ⟨hset, hqueued, hdeferred⟩
  | error cause =>
    obtain ⟨hset', hqueued', hdeferred'⟩ := s.pausedFor.1.hook_closeLeaderboard
    rw [openLeaderboard_of_error rfl hfetch]
    exact ⟨hset'.trans hset, hqueued'.trans hqueued, hdeferred'.trans hdeferred⟩

theorem hook_startAt (s : Session) (now : Int) :
    (s.startAt now).session.hookSet = s.hookSet ∧
      (s.startAt now).session.firstFrameQueued = s.firstFrameQueued ∧
      (s.startAt now).session.deferred = s.deferred := by
  unfold startAt
  split <;> exact ⟨rfl, rfl, rfl⟩

theorem hookStep (s : Session) (op : Operation) : HookStep s op (s.step op).session := by
  cases op with
  | load c => exact .load (c := c) rfl rfl rfl rfl
  | loadBundled name =>
    show HookStep s _ (s.loadBundled name).session
    unfold loadBundled
    cases hname : Guest.Bundled.ofName? name with
    | none =>
      have hnone : s.offered? (.loadBundled name) = none := congrArg (Option.map _) hname
      exact .untouched (congrArg (Option.any _) hnone) (congrArg Option.isSome hnone) rfl nofun
        rfl rfl rfl
    | some g => exact .load (congrArg (Option.map _) hname) rfl rfl rfl
  | create description =>
    show HookStep s _ (s.create description).session
    unfold create
    cases hmade : s.services.generate with
    | error cause =>
      have hnone : s.offered? (.create description) = none := congrArg Except.toOption hmade
      exact .untouched (congrArg (Option.any _) hnone) (congrArg Option.isSome hnone) rfl nofun
        rfl rfl rfl
    | ok c => exact .load (congrArg Except.toOption hmade) rfl rfl rfl
  | restart clock =>
    show HookStep s _ (s.restart clock).session
    unfold restart
    cases hgame : s.cartridge? with
    | none =>
      have hnone : s.offered? (.restart clock) = none := hgame
      exact .untouched (congrArg (Option.any _) hnone) (congrArg Option.isSome hnone) rfl nofun
        rfl rfl rfl
    | some c =>
      simp only
      split
      · exact .load hgame rfl rfl rfl
      · obtain ⟨hset, hqueued, hdeferred⟩ := (s.load c).session.hook_startAt clock
        exact .load hgame hset hqueued hdeferred
  | startAt now =>
    obtain ⟨hset, hqueued, hdeferred⟩ := s.hook_startAt now
    exact .untouched rfl rfl rfl nofun hset hqueued hdeferred
  | poll now =>
    obtain ⟨hset, hqueued, hpromises⟩ := s.poll_hook now
    have hwaiting : (s.deferred.promises.filter (now < ·))
        = s.deferred.promises.filter fun due => !(Operation.poll now).comesFor due := by
      refine List.filter_congr fun due _ => ?_
      rw [Operation.comesFor, ← decide_not, decide_eq_decide, Int.not_le]
    refine ⟨hset.trans (Bool.or_false _).symm, hqueued, hpromises.trans ?_⟩
    rw [hwaiting]
    rfl
  | openLeaderboard =>
    obtain ⟨hset, hqueued, hdeferred⟩ := s.hook_openLeaderboard
    exact .untouched rfl rfl rfl nofun hset hqueued hdeferred
  | closeLeaderboard =>
    obtain ⟨hset, hqueued, hdeferred⟩ := s.hook_closeLeaderboard
    exact .untouched rfl rfl rfl nofun hset hqueued hdeferred
  | setHook => exact .kept nofun rfl (Bool.or_true _).symm rfl rfl
  | reset => exact .kept nofun rfl (Bool.or_false _).symm rfl rfl
  | dispose =>
    have hat : s.promisedAt? .dispose = none := promisedAt?_of_not_poll nofun
    refine ⟨(Bool.or_false _).symm, ?_, ?_⟩
    · rw [hat]
      exact (Bool.or_false _).symm
    · rw [hat]
      rfl
  | keyDown code =>
    show HookStep s _ (s.keyDown code).2
    unfold keyDown
    split <;> exact .untouched rfl rfl rfl nofun rfl rfl rfl
  | keyUp code =>
    show HookStep s _ (s.keyUp code).2
    unfold keyUp
    split <;> exact .untouched rfl rfl rfl nofun rfl rfl rfl
  | acquire | stop | pause | unpause | press | release | arrange | withdraw =>
    exact .untouched rfl rfl rfl nofun rfl rfl rfl

/-- An operation redeems the promises that it comes for with the last frame. -/
theorem frames_step (s : Session) (op : Operation) :
    (s.step op).effects.filterMap Effect.frame?
      = (s.deferred.promises.filter op.comesFor).filterMap fun _ => s.lastFrameFor? := by
  by_cases hpoll : ∃ now, op = .poll now
  · obtain ⟨now, rfl⟩ := hpoll
    exact s.frames_poll now
  · have hnot : ∀ now, op ≠ .poll now := fun now h => hpoll ⟨now, h⟩
    have hreached : s.deferred.promises.filter op.comesFor = [] := by
      rw [List.filter_eq_nil_iff]
      intro due _
      rw [Operation.comesFor_of_not_poll hnot]
      exact Bool.false_ne_true
    rw [hreached, List.filterMap_nil, List.filterMap_eq_nil_iff]
    intro e he
    have hcontrol := s.control_step hnot e he
    cases e <;> first | rfl | cases hcontrol

/-! ### Promises of a run -/

/-- A frame that is promised to the hook. -/
structure Promise where
  /-- The time of the tick that promised it. -/
  time : Int
  /-- What that tick rendered. -/
  scene : Scene
  /-- Whether the hook was armed again since. -/
  stale : Bool := false

/-- When a promise is due. -/
def Promise.due (p : Promise) : Int := p.time + (hookDelay : Int)

/-- A promise after an operation that may have armed the hook again. -/
def Promise.after (p : Promise) (armed : Bool) : Promise := { p with stale := p.stale || armed }

/-- What an operation promises. -/
def promised? (s : Session) (op : Operation) : Option Promise :=
  (s.promisedAt? op).map fun time => { time := time, scene := (s.step op).session.scene }

/-- The promises of earlier that wait on after an operation. -/
def waiting (s : Session) (ps : List Promise) (op : Operation) : List Promise :=
  if s.withdraws op then []
  else (ps.filter fun p => !op.comesFor p.due).map fun p => p.after (s.arms op)

/-- The promises outstanding after an operation, given those before it. -/
def outstandingAfter (s : Session) (ps : List Promise) (op : Operation) : List Promise :=
  s.waiting ps op ++ (s.promised? op).toList

/-- The promises outstanding after a run. -/
def outstanding (ps : List Promise) (s : Session) : List Operation → List Promise
  | [] => ps
  | op :: ops => outstanding (s.outstandingAfter ps op) (s.step op).session ops

theorem outstanding_append (ps : List Promise) (s : Session) (xs ys : List Operation) :
    outstanding ps s (xs ++ ys) = outstanding (outstanding ps s xs) (s.run xs).session ys := by
  induction xs generalizing ps s with
  | nil => rfl
  | cons x xs ih => exact ih (s.outstandingAfter ps x) (s.step x).session

/-- The queue holds just the promises that are outstanding, in their order. -/
def Queued (s : Session) (ps : List Promise) : Prop := s.deferred.promises = ps.map Promise.due

theorem due_waiting (s : Session) (ps : List Promise) (op : Operation) :
    (s.waiting ps op).map Promise.due
      = if s.withdraws op then [] else (ps.map Promise.due).filter fun due => !op.comesFor due := by
  unfold waiting
  split
  · rfl
  · rw [List.map_map, List.filter_map]
    rfl

theorem queued_step {ps : List Promise} (h : Queued s ps) (op : Operation) :
    Queued (s.step op).session (s.outstandingAfter ps op) := by
  have hpromised : ((s.promised? op).map Promise.due).toList
      = ((s.promisedAt? op).map (· + (hookDelay : Int))).toList := by
    rw [promised?, Option.map_map]
    rfl
  rw [Queued, (s.hookStep op).promises, outstandingAfter, List.map_append, due_waiting,
    ← Option.toList_map, hpromised, h]

theorem queued_run {ps : List Promise} (h : Queued s ps) (ops : List Operation) :
    Queued (s.run ops).session (outstanding ps s ops) := by
  induction ops generalizing s ps with
  | nil => exact h
  | cons op ops ih => exact ih (queued_step h op)

/-- An operation redeems the outstanding promises that it comes for. -/
theorem frames_queued {ps : List Promise} (h : Queued s ps) (op : Operation) :
    (s.step op).effects.filterMap Effect.frame?
      = (ps.filter fun p => op.comesFor p.due).filterMap fun _ => s.lastFrameFor? := by
  rw [frames_step, h, List.filter_map, List.filterMap_map]
  rfl

/-! ### The ticks that promise -/

/-- Whoever runs an update tick is a poll. -/
theorem poll_of_updatedAt? {op : Operation} {time : Int} (h : s.updatedAt? op = some time) :
    op = .poll time ∧ ∃ delta, (s.poll time).value = some (.update delta) := by
  cases op with
  | poll now =>
    rw [updatedAt?] at h
    split at h
    · rename_i delta hvalue
      obtain rfl : now = time := Option.some.inj h
      exact ⟨rfl, delta, hvalue⟩
    · cases h
    · cases h
  | _ => cases h

theorem updatedAt?_of_promisedAt? {op : Operation} {time : Int} (h : s.promisedAt? op = some time) :
    s.updatedAt? op = some time := by
  rw [promisedAt?] at h
  split at h
  · exact h
  · cases h

/-- A promise was made by an update tick of a run, which rendered its scene. -/
def Made (s : Session) (ops : List Operation) (p : Promise) : Prop :=
  ∃ before after delta, ops = before ++ .poll p.time :: after ∧
    ((s.run before).session.poll p.time).value = some (.update delta) ∧
    ((s.run before).session.poll p.time).effects.filterMap Effect.scene? = [p.scene]

theorem Made.append {ops : List Operation} {p : Promise} (h : Made s ops p)
    (more : List Operation) : Made s (ops ++ more) p := by
  obtain ⟨before, after, delta, rfl, hupdate, hscene⟩ := h
  exact ⟨before, after ++ more, delta, List.append_assoc .., hupdate, hscene⟩

theorem mem_outstandingAfter {ps : List Promise} {op : Operation} {p : Promise}
    (h : p ∈ s.outstandingAfter ps op) :
    (∃ q ∈ ps, p = q.after (s.arms op)) ∨ s.promised? op = some p := by
  rcases List.mem_append.mp h with hwaiting | hpromised
  · rw [waiting] at hwaiting
    split at hwaiting
    · cases hwaiting
    · obtain ⟨q, hq, rfl⟩ := List.mem_map.mp hwaiting
      exact Or.inl ⟨q, (List.mem_filter.mp hq).1, rfl⟩
  · exact Or.inr (Option.mem_toList.mp hpromised)

/-- Every promise that is outstanding after a run was made in it. -/
theorem made_run (s : Session) (ops : List Operation) :
    ∀ p ∈ outstanding [] s ops, Made s ops p := by
  induction ops using List.reverseRecOn with
  | nil => exact fun p hp => absurd hp List.not_mem_nil
  | append_singleton ops op ih =>
    intro p hp
    rw [outstanding_append] at hp
    rcases mem_outstandingAfter hp with ⟨q, hq, rfl⟩ | hpromised
    · exact (ih q hq).append [op]
    · obtain ⟨time, hat, rfl⟩ := Option.map_eq_some_iff.mp hpromised
      obtain ⟨rfl, delta, hupdate⟩ := poll_of_updatedAt? (updatedAt?_of_promisedAt? hat)
      refine ⟨ops, [], delta, rfl, hupdate, ?_⟩
      rw [scenes_poll, hupdate]
      rfl

end Session

end Handheld
