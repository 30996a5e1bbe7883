import Handheld.Proofs.Sandbox.Faults
import Handheld.Proofs.Session.Lockstep
import Handheld.Proofs.Session.Poll

/-!
# A session with another sandbox

A poll looks at the sandbox once: an update tick takes from it the result of a frame. So two
sessions that differ in their sandboxes alone do the same in a poll, and differ after it in their
sandboxes alone, if the frame has the same result in both. With the same game in both, and a
different count of faults, it always has: nobody but the count itself ever shows how many faults
were counted.

* `sandboxAfter`, `poll_withSandbox`: a poll with another sandbox;
* `lockstep_faulting`: a session goes on in lockstep with itself, had it counted more faults.
-/

namespace Handheld.Session

/-- The session with another sandbox. -/
def withSandbox (s : Session) (x : Sandbox) : Session := { s with sandbox := x }

/-- The sandbox after the tick of a poll, which may be none. -/
def sandboxAfter (x : Sandbox) (input : InputSnapshot) : Option Tick → Sandbox
  | some (.update delta) => (x.invoke (Duration.seconds delta) input).2.1
  | some .renderOnly | none => x

theorem withSandbox_withSandbox (s : Session) (x y : Sandbox) :
    (s.withSandbox x).withSandbox y = s.withSandbox y := rfl

variable {s : Session} {x : Sandbox}

/-! ### Polls -/

theorem runTask_withSandbox (s : Session) (x : Sandbox) (task : DeferredTask) :
    (s.withSandbox x).runTask task = ((s.runTask task).1.withSandbox x, (s.runTask task).2) := by
  cases task with
  | submitScore score =>
    show (s.withSandbox x).submitScore score
      = ((s.submitScore score).1.withSandbox x, (s.submitScore score).2)
    have hservices : (s.withSandbox x).services = s.services := rfl
    unfold submitScore
    rw [hservices]
    cases s.services.submit <;> rfl
  | fetchLeaderboard =>
    show (s.withSandbox x).fetchLeaderboard
      = (s.fetchLeaderboard.1.withSandbox x, s.fetchLeaderboard.2)
    have hservices : (s.withSandbox x).services = s.services := rfl
    unfold fetchLeaderboard
    rw [hservices]
    cases s.services.fetch <;> rfl
  | firstFrame => rfl

theorem runTasks_withSandbox (s : Session) (x : Sandbox) (tasks : List DeferredTask) :
    (s.withSandbox x).runTasks tasks
      = ((s.runTasks tasks).1.withSandbox x, (s.runTasks tasks).2) := by
  induction tasks generalizing s with
  | nil => rfl
  | cons task tasks ih =>
    have hrest := ih (s.runTask task).1
    show (((s.withSandbox x).runTask task).1.runTasks tasks |>.1,
      ((s.withSandbox x).runTask task).2 ++
        (((s.withSandbox x).runTask task).1.runTasks tasks).2) = _
    rw [runTask_withSandbox, hrest]
    rfl

/-- What an update is observed as. -/
theorem update_acts (s : Session) (now : Int) (delta : Nat) :
    (s.update now delta).2.filter Effect.isAct = [.invoked delta s.input.snapshot.1] := by
  unfold update
  simp only
  split
  · rw [endGame, List.filter_append, List.filter_cons_of_pos rfl, Effect.filter_isAct_tell,
      Effect.filter_isAct_tell]
    rfl
  · rw [List.filter_cons_of_pos rfl, Effect.filter_isAct_tell]

theorem render_acts (s : Session) : s.render.2.filter Effect.isAct = [.rendered s.scene] := by
  rw [render, List.filter_append, Effect.filter_isAct_tell]
  rfl

/-- What a tick is observed as: that it ran, and what was done in it. -/
theorem tick_acts (worked : List Effect) (s : Session) (now : Int) :
    (.ticked :: worked ++ (s.finishTick now).2).filter Effect.isAct
      = .ticked :: worked.filter Effect.isAct := by
  have hended : (s.finishTick now).2.filter Effect.isAct = [] := Effect.filter_isAct_tell _
  rw [List.filter_append, hended, List.append_nil, List.filter_cons_of_pos rfl]

theorem update_withSandbox (now : Int) {delta : Nat}
    (h : (x.invoke (Duration.seconds delta) s.input.snapshot.1).1
      = (s.sandbox.invoke (Duration.seconds delta) s.input.snapshot.1).1) :
    ((s.withSandbox x).update now delta).1 = (s.update now delta).1.withSandbox
      (x.invoke (Duration.seconds delta) s.input.snapshot.1).2.1 := by
  have hsandbox : (s.withSandbox x).sandbox = x := rfl
  have hinput : (s.withSandbox x).input = s.input := rfl
  have hdisplay : (s.withSandbox x).display = s.display := rfl
  unfold update
  simp only [hsandbox, hinput, hdisplay, h]
  split <;> rfl

theorem promiseFrame_withSandbox (s : Session) (x : Sandbox) (now : Int) :
    (s.withSandbox x).promiseFrame now = (s.promiseFrame now).withSandbox x := by
  have hhook : (s.withSandbox x).hookSet = s.hookSet := rfl
  have hqueued : (s.withSandbox x).firstFrameQueued = s.firstFrameQueued := rfl
  unfold promiseFrame
  rw [hhook, hqueued]
  split <;> rfl

theorem work_withSandbox (now : Int) {tick : Tick}
    (h : ∀ delta, tick = .update delta →
      (x.invoke (Duration.seconds delta) s.input.snapshot.1).1
        = (s.sandbox.invoke (Duration.seconds delta) s.input.snapshot.1).1) :
    ((s.withSandbox x).work now tick).1
        = (s.work now tick).1.withSandbox (sandboxAfter x s.input.snapshot.1 (some tick)) ∧
      ((s.withSandbox x).work now tick).2.filter Effect.isAct
        = (s.work now tick).2.filter Effect.isAct := by
  cases tick with
  | renderOnly => exact ⟨rfl, (render_acts _).trans (render_acts _).symm⟩
  | update delta =>
    have hupdate := update_withSandbox now (h delta rfl)
    constructor
    · show ((s.withSandbox x).update now delta).1.render.1.promiseFrame now = _
      rw [hupdate]
      exact promiseFrame_withSandbox (s.update now delta).1.render.1 _ now
    · show (((s.withSandbox x).update now delta).2
          ++ ((s.withSandbox x).update now delta).1.render.2).filter Effect.isAct
        = ((s.update now delta).2 ++ (s.update now delta).1.render.2).filter Effect.isAct
      rw [List.filter_append, List.filter_append, update_acts, update_acts, render_acts,
        render_acts, hupdate]
      rfl

theorem runTick_withSandbox (s : Session) (x : Sandbox) (now : Int)
    (h : ∀ delta, (s.scheduler.beginTick now).1 = some (.update delta) →
      (x.invoke (Duration.seconds delta) s.input.snapshot.1).1
        = (s.sandbox.invoke (Duration.seconds delta) s.input.snapshot.1).1) :
    Together
      (fun u v => v = u.withSandbox
        (sandboxAfter x s.input.snapshot.1 (s.scheduler.beginTick now).1))
      Effect.isAct (s.runTick now) ((s.withSandbox x).runTick now) := by
  rcases htick : s.scheduler.beginTick now with ⟨_ | tick, begun⟩
  · rw [runTick_of_none htick, runTick_of_none (s := s.withSandbox x) htick]
    exact ⟨⟨rfl, rfl⟩, rfl⟩
  · rw [htick] at h
    rw [runTick_of_some htick, runTick_of_some (s := s.withSandbox x) htick]
    let t : Session := { s with scheduler := begun }
    obtain ⟨hsession, hacts⟩ := work_withSandbox (s := t) now fun delta hdelta =>
      h delta (congrArg some hdelta)
    refine ⟨⟨rfl, ?_⟩, ?_⟩
    · show (((t.withSandbox x).work now tick).1.finishTick now).1 = _
      rw [hsession]
      rfl
    · show (.ticked :: ((t.withSandbox x).work now tick).2 ++ _).filter Effect.isAct
        = (.ticked :: (t.work now tick).2 ++ _).filter Effect.isAct
      rw [tick_acts, tick_acts, hacts]

/-- A poll with another sandbox, in which the frame has the same result. -/
theorem poll_withSandbox (s : Session) (x : Sandbox) (now : Int)
    (h : ∀ delta, (s.scheduler.beginTick now).1 = some (.update delta) →
      (x.invoke (Duration.seconds delta) s.input.snapshot.1).1
        = (s.sandbox.invoke (Duration.seconds delta) s.input.snapshot.1).1) :
    Together
      (fun u v => v = u.withSandbox
        (sandboxAfter x s.input.snapshot.1 (s.scheduler.beginTick now).1))
      Effect.isAct (s.poll now) ((s.withSandbox x).poll now) := by
  obtain ⟨board, submission, hdone⟩ := s.runDeferred_fst now
  have hdeferred : (s.withSandbox x).runDeferred now
      = ((s.runDeferred now).1.withSandbox x, (s.runDeferred now).2) :=
    runTasks_withSandbox { s with deferred := s.deferred.rest now } x (s.deferred.due now)
  have htick := (s.runDeferred now).1.runTick_withSandbox x now (by rw [hdone]; exact h)
  have hinput : (s.runDeferred now).1.input = s.input := by rw [hdone]
  have hscheduler : (s.runDeferred now).1.scheduler = s.scheduler := by rw [hdone]
  rw [hinput, hscheduler] at htick
  rw [poll_eq s, poll_eq (s.withSandbox x), hdeferred]
  refine ⟨⟨htick.value, htick.session⟩, ?_⟩
  simp only
  rw [List.filter_append, htick.acts, ← List.filter_append]

theorem value_runTick (s : Session) (now : Int) :
    (s.runTick now).value = (s.scheduler.beginTick now).1 := by
  rcases htick : s.scheduler.beginTick now with ⟨_ | tick, begun⟩
  · rw [runTick_of_none htick]
    rfl
  · rw [runTick_of_some htick]

theorem value_poll (s : Session) (now : Int) :
    (s.poll now).value = (s.scheduler.beginTick now).1 := by
  obtain ⟨board, submission, hdone⟩ := s.runDeferred_fst now
  rw [poll_eq]
  simp only
  rw [value_runTick, hdone]

/-- What a poll leaves of the sandbox. -/
theorem sandbox_poll (s : Session) (now : Int) :
    (s.poll now).session.sandbox
      = sandboxAfter s.sandbox s.input.snapshot.1 (s.poll now).value := by
  have hself := (s.poll_withSandbox s.sandbox now fun _ _ => rfl).session
  rw [value_poll]
  exact congrArg Session.sandbox hself

/-! ### More faults -/

/-- The session, had it counted a number of faults more. -/
def faulting (s : Session) (n : Nat) : Session := s.withSandbox (s.sandbox.faulting n)

theorem restored_faulting (s : Session) (n : Nat) :
    (s.faulting n).restored.1 = s.restored.1.faulting n := by
  have hgame : (s.faulting n).game = s.game := rfl
  have hsandbox : (s.faulting n).sandbox = s.sandbox.faulting n := rfl
  unfold restored
  rw [hgame, hsandbox]
  cases s.game with
  | none => rfl
  | some g =>
    simp only
    rw [Sandbox.load_faulting]
    rcases s.sandbox.load g.cartridge with ⟨_ | d, sandbox, told⟩ <;> rfl

theorem alike_load_faulting (s : Session) (n : Nat) (c : Guest.Cartridge) :
    Alike (fun u v => v = u.faulting n) (s.load c) ((s.faulting n).load c) := by
  have hcleared : (s.faulting n).cleared = s.cleared.faulting n := rfl
  have hsandbox : (s.cleared.faulting n).sandbox = s.cleared.sandbox.faulting n := rfl
  unfold load
  rw [hcleared, hsandbox, Sandbox.load_faulting]
  rcases s.cleared.sandbox.load c with ⟨_ | d, sandbox, told⟩
  · exact ⟨rfl, restored_faulting { s.cleared with sandbox := sandbox } n⟩
  · exact ⟨rfl, rfl⟩

theorem together_poll_faulting (s : Session) (n : Nat) (now : Int) :
    Together (fun u v => v = u.faulting n) Effect.isAct (s.poll now) ((s.faulting n).poll now) := by
  have hresult : ∀ delta input,
      ((s.sandbox.faulting n).invoke delta input).1 = (s.sandbox.invoke delta input).1 := by
    intro delta input
    rw [Sandbox.invoke_result, Sandbox.invoke_result, Sandbox.answer_faulting]
  have hpoll := s.poll_withSandbox (s.sandbox.faulting n) now fun _ _ => hresult _ _
  refine ⟨⟨hpoll.value, ?_⟩, hpoll.acts⟩
  -- both polls moved the game on alike, and counted alike
  have hafter : ∀ tick, sandboxAfter (s.sandbox.faulting n) s.input.snapshot.1 tick
      = (sandboxAfter s.sandbox s.input.snapshot.1 tick).faulting n := by
    intro tick
    rcases tick with _ | (delta | _)
    · rfl
    · exact s.sandbox.invoke_faulting n _ _
    · rfl
  have hsandbox := s.sandbox_poll now
  rw [value_poll] at hsandbox
  show ((s.faulting n).poll now).session
    = (s.poll now).session.withSandbox ((s.poll now).session.sandbox.faulting n)
  rw [hsandbox, ← hafter]
  exact hpoll.session

/-- A session goes on in lockstep with itself, had it counted more faults. -/
theorem lockstep_faulting (n : Nat) :
    Lockstep (fun s t => t = s.faulting n) Effect.isAct where
  unlogged _ _ := rfl
  front := by
    rintro s _ rfl
    exact ⟨rfl, rfl, rfl, rfl, rfl⟩
  input := by
    rintro s _ rfl _
    rfl
  services := by
    rintro s _ rfl _
    rfl
  overlay := by
    rintro s _ rfl _
    rfl
  mark := by
    rintro s _ rfl _
    rfl
  board := by
    rintro s _ rfl _
    rfl
  setHook := by
    rintro s _ rfl
    rfl
  acquire := by
    rintro s _ rfl
    show (s.faulting n).withSandbox (s.sandbox.faulting n).acquire.1 = _
    rw [Sandbox.acquire_faulting]
    rfl
  withdraw := by
    rintro s _ rfl _
    rfl
  load := by
    rintro s _ rfl c
    exact s.alike_load_faulting n c
  startAt := by
    rintro s _ rfl now
    have hplayable : (s.faulting n).isPlayable = s.isPlayable := rfl
    unfold startAt
    rw [hplayable]
    split <;> exact ⟨rfl, rfl⟩
  stop := by
    rintro s _ rfl
    exact ⟨rfl, rfl⟩
  pause := by
    rintro s _ rfl
    exact ⟨rfl, rfl⟩
  unpause := by
    rintro s _ rfl
    exact ⟨rfl, rfl⟩
  reset := by
    rintro s _ rfl
    rfl
  dispose := by
    rintro s _ rfl
    have hcounted := s.sandbox.release_faulting n
    show (Session.withSandbox _ (s.sandbox.faulting n).release.1).unloaded = _
    rw [hcounted]
    rfl
  poll := by
    rintro s _ rfl now
    exact s.together_poll_faulting n now

end Handheld.Session
