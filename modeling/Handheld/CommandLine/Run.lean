import Handheld.CommandLine.Arguments
import Handheld.CommandLine.Transcript
import Handheld.Guest.Decode
import Handheld.Session.Play
import Handheld.Settings.Layer

/-!
# Runs from the command line

A run loads one game, plays it for a number of frames or until it is over, lets the work that is
then pending finish, and saves the last frame if asked to. Scripted input is handed to the game
right before the frame it is written for.

In simulated time every round of the loop moves the clock by the period of the scheduler, so a
run is a function of its arguments and of what it finds around it.

## Contents

* `feed`, `turn`, `playFrames`: one round of the loop, and the loop.
* `open?`, `finish`, `save`: what comes before and after it.
* `run`: a whole run, from the arguments to its exit code.

## Main statements

* `playFrames_reached`: a frame limit that is reached ends the loop.
-/

namespace Handheld.CommandLine

/-- What a run finds around it. -/
structure Surroundings where
  env : List (String × String)
  /-- The text of a settings file. -/
  settingsText : String → Option String
  /-- The game in a file. -/
  cartridge : String → Option Guest.Cartridge
  /-- Whether a file can be written. -/
  canWrite : String → Bool

/-- What a run leaves: its exit code, what it printed, and the frame it saved. -/
structure Ending where
  code : Nat := 0
  output : List String := []
  trouble : List String := []
  saved : Option (String × Image) := none

/-! ### The loop -/

/-- Presses or releases a button. -/
def feedOne (s : Session) (i : ScriptedInput) : Session :=
  if i.down then s.press i.button else s.release i.button

/-- Hands on the scripted input of the frame that comes next. -/
def feed (inputs : List ScriptedInput) (s : Session) : Session :=
  (inputs.filter fun i => i.frame = s.scheduler.frames).foldl feedOne s

/-- One round of the loop. It answers whether the game is over and nothing is pending. -/
def turn (inputs : List ScriptedInput) (s : Session) (now : Int) : Reply Bool :=
  let polled := (feed inputs s).poll now
  ⟨!polled.session.scheduler.isActive && !polled.session.hasPendingWork, polled.session,
    polled.effects⟩

/-- Goes round in simulated time until a number of frames is reached or the game is over. It
answers the time at the end; `fuel` bounds the rounds. -/
def playFrames (inputs : List ScriptedInput) (limit : Nat) : Nat → Session → Int → Reply Int
  | 0, s, now => ⟨now, s, []⟩
  | fuel + 1, s, now =>
    if limit ≤ s.scheduler.frames then ⟨now, s, []⟩
    else
      let round := turn inputs s now
      if round.value then ⟨now, round.session, round.effects⟩
      else
        let rest := playFrames inputs limit fuel round.session (now + s.scheduler.period)
        { rest with effects := round.effects ++ rest.effects }

/-- How many rounds a run takes at most: one for each frame, one for the work that is pending
after the last, and one that finds nothing left. -/
def roundsOf (limit : Nat) : Nat := limit + 2

/-! ### Before and after the loop -/

/-- Releases the engine of a run that failed. -/
def abandoned (s : Session) : List Effect := Effect.tell s.sandbox.release.2

/-- The game that a run is for: a bundled one, or one in a file. -/
def cartridge? (around : Surroundings) (game : String) : Option Guest.Cartridge :=
  match Guest.Bundled.ofName? game with
  | some g => some g.cartridge
  | none => around.cartridge game

/-- Loads the game of a run into a new session, or tells why it cannot. -/
def open? (around : Surroundings) (r : Request) (settings : Settings) :
    Reply (Except String Unit) :=
  let ready := (Session.new settings).acquire
  match cartridge? around r.game with
  | none =>
    ⟨.error ("failed to read game " ++ Text.quote r.game), ready.session,
      ready.effects ++ abandoned ready.session⟩
  | some c =>
    let loaded := ready.session.load c
    match loaded.value with
    | .error cause =>
      ⟨.error cause.message, loaded.session,
        ready.effects ++ loaded.effects ++ abandoned loaded.session⟩
    | .ok d =>
      ⟨.ok (), loaded.session,
        ready.effects ++ loaded.effects
          ++ Effect.tell [.running d.metadata.title r.frames]⟩

/-- Stops, lets pending work finish, and tells how the run ended. -/
def finish (s : Session) (now : Int) : Reply Unit :=
  let stopped := s.stop
  let last := stopped.session.poll (now + s.scheduler.period)
  let t := last.session
  ⟨(), t, stopped.effects ++ last.effects ++ Effect.tell
    [.finished t.scheduler.frames t.display.score t.display.gameOver t.sandbox.faults]⟩

/-- Saves the last frame, if that is asked for, and lets the session go. -/
def save (around : Surroundings) (r : Request) (s : Session) :
    Reply (Except String (Option (String × Image))) :=
  match r.output with
  | none => ⟨.ok none, s.dispose.session, s.dispose.effects⟩
  | some path =>
    match s.lastFrame? with
    | none =>
      ⟨.ok none, s.dispose.session, Effect.tell [.nothingToWrite] ++ s.dispose.effects⟩
    | some frame =>
      if around.canWrite path then
        ⟨.ok (some (path, frame)), s.dispose.session, s.dispose.effects⟩
      else ⟨.error ("failed to write " ++ path), s, abandoned s⟩

/-- Plays a session with a loaded game in simulated time, from the start to the last frame. -/
def play (r : Request) (s : Session) : Reply Unit :=
  let started := s.startAt 0
  let looped := playFrames r.inputs r.frames (roundsOf r.frames) started.session 0
  let ended := finish looped.session looped.value
  { ended with effects := started.effects ++ looped.effects ++ ended.effects }

/-- A run with checked settings. -/
def perform (around : Surroundings) (r : Request) (settings : Settings) :
    Reply (Except String (Option (String × Image))) :=
  let opened := open? around r settings
  match opened.value with
  | .error trouble => ⟨.error trouble, opened.session, opened.effects⟩
  | .ok () =>
    let played := play r opened.session
    let saved := save around r played.session
    { saved with effects := opened.effects ++ played.effects ++ saved.effects }

/-! ### The whole run -/

def versionText : String := "quickcart 0.3.0"

/-- How the program is used. -/
def helpText : List String :=
  ["Runs a game headlessly at 60 Hz and optionally saves the last frame", "",
   "Usage: quickcart [OPTIONS] [GAME]", "", "Arguments:",
   "  [GAME]  A bundled game name, or a path to a guest source file [default: pong]", "",
   "Options:",
   "  -f, --frames <FRAMES>  Stop after this many update frames [default: 600]",
   "      --config <CONFIG>  Configuration file (defaults to ./quickcart.toml)",
   "      --input <INPUTS>   Scripted input as FRAME:BUTTON:down|up, e.g. "
     ++ "\x6030:start:down\x60. May be repeated",
   "  -o, --output <OUTPUT>  Write the last composed frame to this PNG file",
   "      --fast             Advance simulated time instead of waiting in real time",
   "      --list             List the bundled games and exit",
   "  -h, --help             Print help",
   "  -V, --version          Print version"]

def settingsFile (r : Request) : String := r.config.getD "quickcart.toml"

/-- The ending of a run that could not go on. -/
def failed (message : String) : Ending := { code := 1, trouble := ["Error: " ++ message] }

def Halt.ending : Halt → Ending
  | .help => { output := helpText }
  | .version => { output := [versionText] }
  | .usage fault =>
    { code := 2
      trouble := ["error: " ++ fault.message, "", "For more information, try '--help'."] }

def settingsOf (around : Surroundings) (r : Request) : Except ConfigError Settings :=
  Settings.load (settingsFile r) (around.settingsText (settingsFile r)) around.env

/-- Carries out a request; lines of the log show `time` as their time. -/
def answer (around : Surroundings) (time : String) (r : Request) : Ending :=
  if r.list then { output := Guest.Bundled.all.map Guest.Bundled.name }
  else
    match settingsOf around r with
    | .error cause => failed cause.message
    | .ok settings =>
      let (transcript, remarks) := Transcript.ofSettings around.env settings.logLevel time
      let done := perform around r settings
      let output := transcript.lines 0 done.effects
      match done.value with
      | .ok saved => { output := output, trouble := remarks, saved := saved }
      | .error message =>
        { failed message with output := output, trouble := remarks ++ (failed message).trouble }

/-- A whole run, from the arguments to its exit code. -/
def run (around : Surroundings) (time : String) (arguments : List String) : Ending :=
  match Request.ofArguments arguments with
  | .error halt => halt.ending
  | .ok r => answer around time r

/-- A frame limit that is reached ends the loop. -/
theorem playFrames_reached (inputs : List ScriptedInput) {limit : Nat} (fuel : Nat) {s : Session}
    (now : Int) (h : limit ≤ s.scheduler.frames) :
    playFrames inputs limit fuel s now = ⟨now, s, []⟩ := by
  cases fuel <;> simp [playFrames, h]

end Handheld.CommandLine
