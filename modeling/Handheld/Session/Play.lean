import Handheld.Session.Control

/-!
# Playing

A poll runs the deferred work that is due and then the tick that is due. A tick that updates
takes a snapshot of the input, calls the game, and applies what it returned; every tick renders.
When a frame ends the game, the scheduler stops, and reporting the score and fetching the
leaderboard are queued as deferred work.

The time that the work itself takes is left out: ticks cost nothing. What is planned does not
depend on it.

## Contents

* `runDeferred`, `update`, `render`, `poll`: one poll and its parts.
* `runUntil`: polling whenever something is due.
* `Operation`, `step`, `run`: the operations of a session as values.

## Main statements

* `poll_idle`: a poll with nothing due does nothing.
* `run_append`: a run is made of its parts.
-/

namespace Handheld.Session

/-! ### Deferred work -/

def submitScore (s : Session) (score : Int) : Session × List Effect :=
  let asked := Effect.submitted score :: Effect.tell (s.services.submitNotices score)
  match s.services.submit with
  | .ok submission =>
    ({ s with submission := some submission },
      asked ++ Effect.tell [.scoreSubmitted score submission])
  | .error cause => (s, asked ++ Effect.tell [.submitFailed score cause])

def fetchLeaderboard (s : Session) : Session × List Effect :=
  let asked := Effect.fetched :: Effect.tell s.services.fetchNotices
  match s.services.fetch with
  | .ok entries =>
    ({ s with board := some entries },
      asked ++ Effect.tell [.leaderboardFetched entries.length])
  | .error cause => (s, asked ++ Effect.tell [.fetchFailed cause])

/-- Hands the last frame to the hook, if there are both. -/
def showFirstFrame (s : Session) : List Effect :=
  match s.hookSet, s.lastFrame? with
  | true, some frame => Effect.tell [.hookRun] ++ [.hooked frame]
  | _, _ => []

/-- Does a piece of deferred work. -/
def runTask (s : Session) : DeferredTask → Session × List Effect
  | .submitScore score => s.submitScore score
  | .fetchLeaderboard => s.fetchLeaderboard
  | .firstFrame => (s, s.showFirstFrame)

/-- Does pieces of deferred work in order. -/
def runTasks (s : Session) : List DeferredTask → Session × List Effect
  | [] => (s, [])
  | task :: tasks =>
    let (t, done) := s.runTask task
    let (u, more) := t.runTasks tasks
    (u, done ++ more)

def runDeferred (s : Session) (now : Int) : Session × List Effect :=
  { s with deferred := s.deferred.rest now }.runTasks (s.deferred.due now)

/-! ### Ticks -/

/-- Stops the game that a frame ended, and queues what is to be reported. -/
def endGame (s : Session) (now : Int) : Session × List Effect :=
  let queue := (s.deferred.schedule now (.submitScore s.display.score)).schedule now
    .fetchLeaderboard
  ({ s.halted with deferred := queue },
    Effect.tell (.gameOver s.display.score :: s.stopNotices))

/-- The session with the durations of an update recorded. They are nothing. -/
def timed (s : Session) : Session :=
  { s with scheduler := (s.scheduler.record .update 0).record .apply 0 }

/-- Calls the game with the input of now and applies what it returns. -/
def update (s : Session) (now : Int) (delta : Nat) : Session × List Effect :=
  let (snapshot, input) := s.input.snapshot
  let (result, sandbox, told) := s.sandbox.invoke (Duration.seconds delta) snapshot
  let frame := result.frame
  let t :=
    { s with input := input, sandbox := sandbox, display := frame.apply s.display }.timed
  let effects := Effect.invoked delta snapshot
    :: Effect.tell (told ++ frameNotices result s.display)
  if frame.raises s.display then
    let (u, ended) := t.endGame now
    (u, effects ++ ended)
  else (t, effects)

/-- The sprites and tiles of a scene that the atlas lacks, in drawing order. -/
def missingNotices (s : Scene) : List Notice :=
  ((s.display.tiles.map Prod.snd ++ s.display.sprites.map fun p => p.2.sprite).filter
    fun index => s.atlas.count ≤ index).map .spriteMissing

/-- What a renderer tells while it composes a scene. -/
def renderNotices (r : Renderer) (s : Scene) : List Notice :=
  match r with
  | .compositor _ => missingNotices s
  | .blind => []

def render (s : Session) : Session × List Effect :=
  ({ s with
      renderer := s.renderer.render s.scene
      scheduler := s.scheduler.record .render 0 },
    Effect.tell (renderNotices s.renderer s.scene) ++ [.rendered s.scene])

/-- Promises the first frame to the hook, if it waits for one. -/
def promiseFrame (s : Session) (now : Int) : Session :=
  if s.hookSet && !s.firstFrameQueued then
    { s with
      firstFrameQueued := true
      deferred := s.deferred.schedule (now + hookDelay) .firstFrame }
  else s

def endNotices (s : Session) (now : Int) : List Notice :=
  match s.scheduler.inFlight with
  | none => []
  | some began =>
    let elapsed := Instant.elapsed began now
    (if s.scheduler.period < elapsed then [.behindSchedule (elapsed - s.scheduler.period)] else [])
      ++ if s.scheduler.ticks % summaryPeriod = 0 then
          [.timingSummary s.scheduler.frames (s.scheduler.endTick now).timings.summary]
        else []

def finishTick (s : Session) (now : Int) : Session × List Effect :=
  ({ s with scheduler := s.scheduler.endTick now }, Effect.tell (s.endNotices now))

def work (s : Session) (now : Int) : Tick → Session × List Effect
  | .update delta =>
    let (t, updated) := s.update now delta
    let (u, drawn) := t.render
    (u.promiseFrame now, updated ++ drawn)
  | .renderOnly => s.render

def runTick (s : Session) (now : Int) : Reply (Option Tick) :=
  match s.scheduler.beginTick now with
  | (none, _) => quiet none s
  | (some tick, scheduler) =>
    let (t, worked) := { s with scheduler := scheduler }.work now tick
    let (u, ended) := t.finishTick now
    ⟨some tick, u, .ticked :: worked ++ ended⟩

/-- Does the deferred work that is due, and then runs the tick that is due. -/
def poll (s : Session) (now : Int) : Reply (Option Tick) :=
  let (t, done) := s.runDeferred now
  let ticked := t.runTick now
  { ticked with effects := done ++ ticked.effects }

/-! ### Playing in real time -/

/-- How a run in real time ended: the ticks that were run, and the time. -/
structure Played where
  ticks : Nat
  clock : Int
  deriving Repr, DecidableEq

/-- Polls, and waits for what is due next, until `goal` ticks were run or nothing is due any
more. `fuel` bounds the polls. -/
def playOn (goal : Nat) : Nat → Session → Played → Reply Played
  | 0, s, played => quiet played s
  | fuel + 1, s, played =>
    let polled := s.poll played.clock
    let ticks := if polled.value.isSome then played.ticks + 1 else played.ticks
    if polled.value.isSome && goal ≤ ticks then
      ⟨{ played with ticks := ticks }, polled.session, polled.effects⟩
    else
      match polled.session.nextDue? with
      | none => ⟨{ played with ticks := ticks }, polled.session, polled.effects⟩
      | some due =>
        let rest := playOn goal fuel polled.session ⟨ticks, max played.clock due⟩
        { rest with effects := polled.effects ++ rest.effects }

/-- How many polls a run in real time takes at most: each runs a tick or deferred work, and a
tick queues three pieces of work at most. -/
def playFuel (s : Session) (goal : Nat) : Nat :=
  4 * (goal + 1) + s.deferred.pending.length + 2

/-- Plays in real time until `goal` ticks were run or nothing is left to do. -/
def runUntil (s : Session) (clock : Int) (goal : Nat) : Reply Played :=
  playOn goal (s.playFuel goal) s ⟨0, clock⟩

/-- What a number of polls found due. -/
structure Polled where
  updates : Nat := 0
  renders : Nat := 0
  idle : Nat := 0
  /-- What the last poll found due. -/
  last : Option Tick := none
  deriving Repr, DecidableEq

def Polled.add (p : Polled) (tick : Option Tick) : Polled :=
  match tick with
  | some (.update delta) => { p with updates := p.updates + 1, last := some (.update delta) }
  | some .renderOnly => { p with renders := p.renders + 1, last := some .renderOnly }
  | none => { p with idle := p.idle + 1, last := none }

/-- Polls a number of times, a step apart. -/
def pollEvery (s : Session) (now step : Int) (found : Polled) : Nat → Reply Polled
  | 0 => quiet found s
  | n + 1 =>
    let first := s.poll now
    let rest := pollEvery first.session (now + step) step (found.add first.value) n
    { rest with effects := first.effects ++ rest.effects }

/-! ### Operations as values -/

/-- An operation of a session. -/
inductive Operation
  | acquire
  | load (c : Guest.Cartridge)
  | loadBundled (name : String)
  | create (description : String)
  | restart (clock : Int)
  | startAt (now : Int)
  | stop
  | pause
  | unpause
  | reset
  | press (x : Button)
  | release (x : Button)
  | keyDown (code : String)
  | keyUp (code : String)
  | poll (now : Int)
  | openLeaderboard
  | closeLeaderboard
  | setHook
  | dispose
  /-- The outside services answer differently from now on. -/
  | arrange (services : Services)
  | withdraw (name : String)

/-- What an operation answers. -/
inductive Outcome
  | done
  | accepted (yes : Bool)
  | loaded (result : Except SessionError Definition)
  | restarted (result : Except SessionError Unit)
  | polled (tick : Option Tick)
  | opened (result : Except SessionError (List LeaderboardEntry))

/-- A reply with its value seen as an outcome. -/
def answering {α : Type} (r : Reply α) (f : α → Outcome) : Reply Outcome :=
  ⟨f r.value, r.session, r.effects⟩

/-- Carries out an operation. -/
def step (s : Session) : Operation → Reply Outcome
  | .acquire => answering s.acquire fun _ => .done
  | .load c => answering (s.load c) .loaded
  | .loadBundled name => answering (s.loadBundled name) .loaded
  | .create description => answering (s.create description) .loaded
  | .restart clock => answering (s.restart clock) .restarted
  | .startAt now => answering (s.startAt now) .accepted
  | .stop => answering s.stop .accepted
  | .pause => answering s.pause .accepted
  | .unpause => answering s.unpause .accepted
  | .reset => answering s.reset fun _ => .done
  | .press x => quiet .done (s.press x)
  | .release x => quiet .done (s.release x)
  | .keyDown code => quiet (.accepted (s.keyDown code).1) (s.keyDown code).2
  | .keyUp code => quiet (.accepted (s.keyUp code).1) (s.keyUp code).2
  | .poll now => answering (s.poll now) .polled
  | .openLeaderboard => answering s.openLeaderboard .opened
  | .closeLeaderboard => answering s.closeLeaderboard fun _ => .done
  | .setHook => quiet .done s.setHook
  | .dispose => answering s.dispose fun _ => .done
  | .arrange services => quiet .done { s with services := services }
  | .withdraw name => quiet .done (s.withdraw name)

/-- Carries out operations in order. -/
def run (s : Session) : List Operation → Reply (List Outcome)
  | [] => quiet [] s
  | op :: ops =>
    let first := s.step op
    let later := first.session.run ops
    ⟨first.value :: later.value, later.session, first.effects ++ later.effects⟩

/-- A poll with nothing due does nothing. -/
theorem poll_idle {s : Session} {now : Int} (htasks : s.deferred.due now = [])
    (hrest : s.deferred.rest now = s.deferred) (htick : s.scheduler.isDue now = false) :
    s.poll now = ⟨none, s, []⟩ := by
  simp [poll, runDeferred, htasks, hrest, runTasks, runTick, Scheduler.beginTick, htick, quiet]

/-- A run is made of its parts. -/
theorem run_append (s : Session) (xs ys : List Operation) :
    (s.run (xs ++ ys)).session = ((s.run xs).session.run ys).session := by
  induction xs generalizing s with
  | nil => rfl
  | cons x xs ih => simpa [run] using ih (s.step x).session

end Handheld.Session
