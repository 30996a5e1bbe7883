import Handheld.Session.State

/-!
# Controlling the session

Starting, stopping and pausing, the leaderboard over the game, and loading games.

The mark on the display that dims a paused game is set to what the scheduler says whenever a game
is paused, resumed or begins. A stop leaves it alone. Whether it was the leaderboard that paused the
game is remembered, so that closing the leaderboard resumes exactly those games.

A load stops the game, withdraws the frame promised to the hook and closes the leaderboard. If
it fails, the game that was there is loaded again from its cartridge, so that it stays
available; work already queued for the outside services is kept.

## Main statements

* `load_error_value`: a failed load answers with its own cause, whatever becomes of the game
  that was there.
-/

namespace Handheld.Session

/-- A reply without effects. -/
def quiet {α : Type} (value : α) (s : Session) : Reply α := ⟨value, s, []⟩

/-! ### The scheduler -/

/-- Starts ticking with a first tick due at once; refused without a game and unless stopped. -/
def startAt (s : Session) (now : Int) : Reply Bool :=
  if !s.isPlayable then ⟨false, s, Effect.tell [.notStarting]⟩
  else
    let (started, scheduler) := s.scheduler.start now
    ⟨started, { s with scheduler := scheduler },
      Effect.tell
        [if started then .schedulerStarted else .schedulerActive s.scheduler.state.name]⟩

/-- What the scheduler tells when it is stopped. -/
def stopNotices (s : Session) : List Notice :=
  if s.scheduler.isActive then [.schedulerStopped s.scheduler.frames] else []

/-- The session with the scheduler stopped. -/
def halted (s : Session) : Session := { s with scheduler := s.scheduler.stop.2 }

def stop (s : Session) : Reply Bool :=
  ⟨s.scheduler.stop.1, s.halted, Effect.tell s.stopNotices⟩

/-- The session with the pause mark of the display set to what the scheduler says. -/
def marked (s : Session) : Session :=
  { s with display := s.display.setPaused s.scheduler.isPaused }

def pause (s : Session) : Reply Bool :=
  let (paused, scheduler) := s.scheduler.pause
  ⟨paused, { s with scheduler := scheduler }.marked,
    Effect.tell (if paused then [.paused] else [])⟩

/-- The session without the leaderboard over the game. -/
def uncovered (s : Session) : Session := { s with overlay := none, pausedForOverlay := false }

/-- Resumes a paused game. The leaderboard is closed first. -/
def unpause (s : Session) : Reply Bool :=
  let (unpaused, scheduler) := s.uncovered.scheduler.unpause
  ⟨unpaused, { s.uncovered with scheduler := scheduler }.marked,
    Effect.tell (if unpaused then [.unpaused] else [])⟩

/-! ### Input -/

def press (s : Session) (x : Button) : Session := { s with input := s.input.press x }

def release (s : Session) (x : Button) : Session := { s with input := s.input.release x }

/-- Handles a key that goes down; answers whether it is bound. -/
def keyDown (s : Session) (code : String) : Bool × Session :=
  match Button.ofKey? code with
  | some x => (true, s.press x)
  | none => (false, s)

/-- Handles a key that goes up; answers whether it is bound. -/
def keyUp (s : Session) (code : String) : Bool × Session :=
  match Button.ofKey? code with
  | some x => (true, s.release x)
  | none => (false, s)

/-! ### The display -/

/-- What applying a frame to a display tells. -/
def applyNotices (f : Frame) (d : Display) : List Notice :=
  if f.raises d then [.gameOverReported (f.apply d).score]
  else if f.repeatsGameOver d then [.gameOverRepeated]
  else []

/-- What a result tells before and while its frame is applied. -/
def frameNotices (r : FrameResult) (d : Display) : List Notice :=
  r.remarks.map .frame ++ applyNotices r.frame d

/-- The display with which a game begins: empty, with the initial state applied. -/
def firstDisplay (initial : Option FrameResult) (d : Display) : Display :=
  match initial with
  | some r => (r.frame.apply d.reset).setGameOver false
  | none => d.reset

/-- What the initial state tells when it is applied. -/
def initialNotices (initial : Option FrameResult) (d : Display) : List Notice :=
  match initial with
  | some r => frameNotices r d.reset
  | none => []

def initial? (s : Session) : Option FrameResult := s.game.bind fun g => g.definition.initial

/-- The session with the display and the timing of a game that begins. -/
def begun (s : Session) : Session :=
  { s with
    display := (firstDisplay s.initial? s.display).setPaused s.scheduler.isPaused
    scheduler := s.scheduler.resetTiming
    firstFrameQueued := false }

def resetNotices (s : Session) : List Notice :=
  initialNotices s.initial? s.display ++ [.timingReset, .displayReset]

/-- Empties the display, applies the initial state again and restarts the timing. -/
def reset (s : Session) : Reply Unit :=
  ⟨(), s.begun, Effect.tell s.resetNotices⟩

/-! ### Loading -/

def atlasNotices (sprites : List Sprite) (size : AtlasSize) : List Notice :=
  (if size.capacity < sprites.length then [.atlasOverflow sprites.length size.capacity] else [])
    ++ [.atlasReady (min sprites.length size.capacity) size.pixels]

/-- The session with a game in place, before the display is reset. -/
def equipped (s : Session) (c : Guest.Cartridge) (d : Definition) : Session :=
  { s with
    palette := d.palette
    atlas := .rasterize d.sprites d.palette s.settings.atlas
    game := some ⟨d, c⟩ }

/-- The session with a game in place and begun. -/
def installed (s : Session) (c : Guest.Cartridge) (d : Definition) : Session :=
  (s.equipped c d).begun

/-- What putting a game in place tells. -/
def installNotices (s : Session) (c : Guest.Cartridge) (d : Definition) : List Notice :=
  atlasNotices d.sprites s.settings.atlas ++ (s.equipped c d).resetNotices

/-- The session without a game. -/
def unloaded (s : Session) : Session :=
  { s with
    game := none
    palette := .standard
    atlas := .empty s.settings.atlas
    display := s.display.reset }

/-- The session as a load begins: stopped, without the frame promised to the hook and without
the leaderboard. -/
def cleared (s : Session) : Session :=
  { s.halted with deferred := s.deferred.cancel .firstFrame }.uncovered

/-- Loads the game again that was there before a failed load. -/
def restored (s : Session) : Session × List Notice :=
  match s.game with
  | none => (s, [])
  | some previous =>
    match s.sandbox.load previous.cartridge with
    | (.ok d, sandbox, told) =>
      let t := { s with sandbox := sandbox }
      (t.installed previous.cartridge d,
        told ++ [.restored d.metadata.title] ++ t.installNotices previous.cartridge d)
    | (.error cause, sandbox, told) =>
      ({ s with sandbox := sandbox }.unloaded, told ++ [.restoreFailed cause])

/-- Loads a cartridge in place of the game that is there. -/
def load (s : Session) (c : Guest.Cartridge) : Reply (Except SessionError Definition) :=
  match s.cleared.sandbox.load c with
  | (.ok d, sandbox, told) =>
    let t := { s.cleared with sandbox := sandbox }
    ⟨.ok d, t.installed c d,
      Effect.tellLoading c.size (s.stopNotices ++ told ++ t.installNotices c d)⟩
  | (.error cause, sandbox, told) =>
    let (t, more) := { s.cleared with sandbox := sandbox }.restored
    ⟨.error (.load cause), t, Effect.tellLoading c.size (s.stopNotices ++ told ++ more)⟩

def loadBundled (s : Session) (name : String) : Reply (Except SessionError Definition) :=
  match Guest.Bundled.ofName? name with
  | some g => s.load g.cartridge
  | none => quiet (.error (.load (.unknownBundledGame name))) s

/-- Loads the current game afresh and starts it. -/
def restart (s : Session) (clock : Int) : Reply (Except SessionError Unit) :=
  match s.cartridge? with
  | none => quiet (.error (.invalidState "no game loaded to restart")) s
  | some c =>
    let loaded := s.load c
    match loaded.value with
    | .error cause => ⟨.error cause, loaded.session, loaded.effects⟩
    | .ok _ =>
      let started := loaded.session.startAt clock
      ⟨.ok (), started.session, loaded.effects ++ started.effects⟩

/-- Has a new game made from a description, and loads it. -/
def create (s : Session) (description : String) : Reply (Except SessionError Definition) :=
  let asked := Effect.tell [.generating description s.game.isSome]
    ++ [.generated description s.cartridge?]
  match s.services.generate with
  | .error cause => ⟨.error (.service cause), s, asked⟩
  | .ok c =>
    let loaded := s.load c
    { loaded with effects := asked ++ loaded.effects }

/-! ### The leaderboard -/

/-- Hides the leaderboard, and resumes the game if opening it is what paused it. -/
def closeLeaderboard (s : Session) : Reply Unit :=
  if s.pausedForOverlay then
    let resumed := s.uncovered.unpause
    ⟨(), resumed.session, resumed.effects⟩
  else quiet () s.uncovered

/-- The session with a running game paused for the leaderboard. -/
def pausedFor (s : Session) : Session × List Effect :=
  match s.scheduler.state with
  | .running =>
    let paused := s.pause
    ({ paused.session with pausedForOverlay := true }, paused.effects)
  | _ => (s, [])

/-- Pauses a running game and shows the leaderboard over it. -/
def openLeaderboard (s : Session) : Reply (Except SessionError (List LeaderboardEntry)) :=
  let (t, paused) := s.pausedFor
  let asked := paused ++ [.fetched] ++ Effect.tell t.services.fetchNotices
  match t.services.fetch with
  | .ok entries =>
    ⟨.ok entries, { t with overlay := some entries, board := some entries }, asked⟩
  | .error cause =>
    let closed := t.closeLeaderboard
    ⟨.error (.service cause), closed.session,
      asked ++ Effect.tell [.leaderboardRefused cause] ++ closed.effects⟩

/-! ### The rest -/

def acquire (s : Session) : Reply Unit :=
  let (sandbox, told) := s.sandbox.acquire
  ⟨(), { s with sandbox := sandbox }, Effect.tell told⟩

/-- Sets the hook that receives the first frame of each game. -/
def setHook (s : Session) : Session := { s with hookSet := true, firstFrameQueued := false }

/-- Stops the game, drops pending work and releases the engine. -/
def dispose (s : Session) : Reply Unit :=
  let t := { s.halted with deferred := s.deferred.cancelAll }.uncovered
  let (sandbox, told) := t.sandbox.release
  ⟨(), { t with sandbox := sandbox }.unloaded, Effect.tell (s.stopNotices ++ told)⟩

def withdraw (s : Session) (name : String) : Session :=
  { s with sandbox := s.sandbox.withdraw name }

/-- A failed load answers with its own cause, whatever becomes of the game that was there. -/
theorem load_error_value (s : Session) (c : Guest.Cartridge) {cause : LoadError}
    (h : (s.cleared.sandbox.load c).1 = .error cause) :
    (s.load c).value = .error (.load cause) := by
  unfold load
  rcases hl : s.cleared.sandbox.load c with ⟨outcome, sandbox, told⟩
  rw [hl] at h
  simp only at h
  subst h
  rfl

/-- A load that succeeds answers with the definition. -/
theorem load_ok_value (s : Session) (c : Guest.Cartridge) {d : Definition}
    (h : (s.cleared.sandbox.load c).1 = .ok d) : (s.load c).value = .ok d := by
  unfold load
  rcases hl : s.cleared.sandbox.load c with ⟨outcome, sandbox, told⟩
  rw [hl] at h
  simp only at h
  subst h
  rfl

end Handheld.Session
