import Handheld.Error
import Handheld.Guest.Script
import Handheld.Log.Line
import Handheld.Text.Quoted
import Handheld.Timing

/-!
# Notices

A notice is something that the log tells: what happened, as a value. Operations hand their
notices on in order; the log line of a notice is a function of it.

## Contents

* `Notice`: everything that the log tells.
* `Notice.event`: the level, place, message and fields of a notice.
* `consoleLines`, `faults`: what a list of notices tells about a cartridge.
-/

namespace Handheld

/-- Something that the log tells. -/
inductive Notice
  /-- A line that a cartridge wrote to its console. -/
  | console (line : Guest.ConsoleLine)
  | engineThere
  | engineReady (memory frameBudget : Option Nat)
  | engineReleased (unloadedGame : Bool)
  | contextReleased
  | gameLoaded (title : String) (sprites colors : Nat)
  | loadFailed (cause : LoadError)
  | frameReported (report : GuestReport)
  | frameFailed (cause : GuestError)
  | nothingToInvoke
  | definition (remark : Definition.Remark)
  | frame (remark : FrameResult.Remark)
  | gameOverReported (score : Int)
  | gameOverRepeated
  | atlasOverflow (sprites capacity : Nat)
  | atlasReady (count size : Nat)
  | spriteMissing (index : Nat)
  | schedulerActive (state : String)
  | schedulerStarted
  | schedulerStopped (frames : Nat)
  | paused
  | unpaused
  | timingReset
  | timingSummary (frames : Nat) (summary : String)
  | behindSchedule (duration : Nat)
  | notStarting
  | displayReset
  | restored (title : String)
  | restoreFailed (cause : LoadError)
  | gameOver (score : Int)
  | scoreSubmitted (score : Int) (submission : Submission)
  | submitFailed (score : Int) (cause : ServiceError)
  | leaderboardFetched (entries : Nat)
  | fetchFailed (cause : ServiceError)
  | leaderboardRefused (cause : ServiceError)
  | hookRun
  | generating (description : String) (iterating : Bool)
  | offlineFetch
  | offlineSubmit (score : Int)
  | running (title : String) (frames : Nat)
  | finished (frames : Nat) (score : Int) (gameOver : Bool) (faults : Nat)
  | nothingToWrite

namespace Notice

mutual

/-- A JSON value with the kind of each part, as fields show it. -/
def kindText : Json → String
  | .null => "Null"
  | .bool b => "Bool(" ++ (if b then "true" else "false") ++ ")"
  | .number n => "Number(" ++ n.compact ++ ")"
  | .text s => "String(" ++ Text.quote s ++ ")"
  | .list items => "Array [" ++ ", ".intercalate (kindItems items) ++ "]"
  | .object members => "Object \x7b" ++ ", ".intercalate (kindMembers members) ++ "\x7d"

/-- The items of a list with their kinds. -/
def kindItems : List Json → List String
  | [] => []
  | v :: vs => kindText v :: kindItems vs

/-- The members of an object with their kinds. -/
def kindMembers : List (String × Json) → List String
  | [] => []
  | (key, v) :: ms => (Text.quote key ++ ": " ++ kindText v) :: kindMembers ms

end

/-- A value that may be missing, as fields show it. -/
def optional (text : Option String) : String :=
  match text with
  | some s => "Some(" ++ s ++ ")"
  | none => "None"

/-- A field with a text as it is. -/
def plain (name text : String) : Log.Field := ⟨name, text⟩

def quoted (name text : String) : Log.Field := ⟨name, Text.quote text⟩

def count (name : String) (n : Nat) : Log.Field := ⟨name, Nat.repr n⟩

def whole (name : String) (n : Int) : Log.Field := ⟨name, Int.repr n⟩

/-- A field with a truth value. -/
def flag (name : String) (b : Bool) : Log.Field := ⟨name, if b then "true" else "false"⟩

def sandbox : String := "quickcart::sandbox"

def scheduler : String := "quickcart::scheduler"

def session : String := "quickcart::game"

def sprite : String := "quickcart::texture::sprite"

/-- Where notices about frames come from. -/
def commands : String := "quickcart::game::commands"

def definitions : String := "quickcart::game::definition"

/-- Where notices about applied frames come from. -/
def interpreter : String := "quickcart::game::interpreter"

def atlas : String := "quickcart::texture::atlas"

def services : String := "quickcart::services"

/-- Where notices of the command line come from. -/
def application : String := "quickcart"

/-- The event of a remark about a sprite. -/
def spriteEvent : Sprite.Remark → Log.Event
  | .noLayers => ⟨.debug, sprite, "Sprite object has no layers, using a blank sprite", []⟩
  | .unrecognized kind =>
    ⟨.debug, sprite, "Unrecognized sprite format, using a blank sprite", [quoted "kind" kind]⟩
  | .extraLayers n =>
    ⟨.debug, sprite, "Sprite has more than 4 layers, ignoring the rest", [count "count" n]⟩
  | .malformedLayer => ⟨.debug, sprite, "Malformed sprite layer, treating as empty", []⟩
  | .malformedRow => ⟨.debug, sprite, "Malformed sprite row, treating as transparent", []⟩

/-- The event of a remark about a definition. -/
def definitionEvent : Definition.Remark → Log.Event
  | .sprite r => spriteEvent r
  | .notSprites field =>
    ⟨.warn, definitions, "Sprite resources must be an array or object, ignoring",
      [quoted "field" field]⟩
  | .appendedTiles n =>
    ⟨.debug, definitions, "Appended tile resources after sprites", [count "tiles" n]⟩
  | .notPalette =>
    ⟨.warn, definitions, "Palette must be an array, using the default palette", []⟩
  | .longPalette n =>
    ⟨.warn, "quickcart::display::palette", "Palette has more than 16 colors, truncating",
      [count "len" n]⟩
  | .unusableInitial reason =>
    ⟨.warn, definitions, "Ignoring malformed initial state",
      [plain "error" (GuestError.invalidResult reason).message]⟩
  | .notControls =>
    ⟨.warn, definitions, "Game controls must be an array, ignoring", []⟩

/-- The event of a remark about a frame. -/
def frameEvent : FrameResult.Remark → Log.Event
  | .skippedSprite slot =>
    ⟨.trace, commands, "Skipping malformed sprite entry", [count "slot" slot]⟩
  | .skippedTile => ⟨.trace, commands, "Skipping malformed tile entry", []⟩
  | .skippedCommand kind =>
    ⟨.trace, commands, "Skipping malformed command", [quoted "kind" kind]⟩
  | .ignoredSound sound =>
    ⟨.debug, commands, "Ignoring sound command", [plain "sound" (optional (sound.map kindText))]⟩
  | .unknownKind kind => ⟨.warn, commands, "Unknown command type", [quoted "kind" kind]⟩

def event : Notice → Log.Event
  | .console line => ⟨line.level, Log.guestTarget, line.text, []⟩
  | .engineThere => ⟨.trace, sandbox, "Sandbox runtime already initialized", []⟩
  | .engineReady memory frameBudget =>
    ⟨.info, sandbox, "Sandbox runtime initialized",
      [plain "memory_limit" (optional (memory.map Nat.repr)),
       plain "frame_budget" (optional (frameBudget.map Duration.fullText))]⟩
  | .engineReleased unloadedGame =>
    ⟨.info, sandbox, "Sandbox runtime disposed", [flag "unloaded_game" unloadedGame]⟩
  | .contextReleased => ⟨.debug, sandbox, "Disposed previous execution context", []⟩
  | .gameLoaded title sprites colors =>
    ⟨.info, sandbox, "Game loaded",
      [plain "title" title, count "sprites" sprites, count "colors" colors]⟩
  | .loadFailed cause =>
    ⟨.error, sandbox, "Failed to load game", [plain "error" cause.message]⟩
  | .frameReported report =>
    ⟨.warn, sandbox, "Game update error, skipping frame",
      [plain "name" report.name, plain "message" report.message, plain "stack" report.stack]⟩
  | .frameFailed cause =>
    ⟨.warn, sandbox, "Game update failed, skipping frame", [plain "error" cause.message]⟩
  | .nothingToInvoke => ⟨.trace, sandbox, "No game loaded, nothing to invoke", []⟩
  | .definition remark => definitionEvent remark
  | .frame remark => frameEvent remark
  | .gameOverReported score =>
    ⟨.info, interpreter, "Guest reported game over", [whole "score" score]⟩
  | .gameOverRepeated =>
    ⟨.debug, interpreter, "Game over already reported, ignoring", []⟩
  | .atlasOverflow sprites capacity =>
    ⟨.warn, atlas, "Too many sprites for the atlas, dropping the overflow",
      [count "sprites" sprites, count "capacity" capacity]⟩
  | .atlasReady n size =>
    ⟨.debug, atlas, "Rasterized sprite atlas", [count "sprite_count" n, count "atlas_size" size]⟩
  | .spriteMissing index =>
    ⟨.trace, "quickcart::render", "No sprite at atlas index, skipping", [count "index" index]⟩
  | .schedulerActive state =>
    ⟨.trace, scheduler, "Scheduler already running", [plain "state" state]⟩
  | .schedulerStarted => ⟨.info, scheduler, "Scheduler started", []⟩
  | .schedulerStopped frames =>
    ⟨.info, scheduler, "Scheduler stopped", [count "frames" frames]⟩
  | .paused => ⟨.info, scheduler, "Paused", []⟩
  | .unpaused => ⟨.info, scheduler, "Unpaused", []⟩
  | .timingReset => ⟨.debug, scheduler, "Frame timing reset", []⟩
  | .timingSummary frames summary =>
    ⟨.info, scheduler, "Frame timings: " ++ summary, [count "frames" frames]⟩
  | .behindSchedule duration =>
    ⟨.warn, scheduler, "Frame loop behind schedule by: " ++ Duration.fullText duration, []⟩
  | .notStarting => ⟨.warn, session, "No game loaded, not starting", []⟩
  | .displayReset => ⟨.debug, session, "Display reset", []⟩
  | .restored title => ⟨.info, session, "Restored the previous game", [plain "title" title]⟩
  | .restoreFailed cause =>
    ⟨.error, session, "Failed to restore the previous game", [plain "error" cause.message]⟩
  | .gameOver score => ⟨.info, session, "Game over", [whole "score" score]⟩
  | .scoreSubmitted score submission =>
    ⟨.info, session, "Score submitted",
      [whole "score" score, flag "high_score" submission.isHighScore,
       plain "rank" (optional (submission.rank.map Nat.repr))]⟩
  | .submitFailed score cause =>
    ⟨.warn, session, "Failed to submit score",
      [whole "score" score, plain "error" cause.message]⟩
  | .leaderboardFetched entries =>
    ⟨.debug, session, "Leaderboard fetched", [count "entries" entries]⟩
  | .fetchFailed cause =>
    ⟨.warn, session, "Failed to fetch leaderboard", [plain "error" cause.message]⟩
  | .leaderboardRefused cause =>
    ⟨.warn, session, "Failed to open leaderboard", [plain "error" cause.message]⟩
  | .hookRun => ⟨.debug, session, "Running first-frame hook", []⟩
  | .generating description iterating =>
    ⟨.info, session, "Generating a new game",
      [quoted "description" description, flag "iterating" iterating]⟩
  | .offlineFetch =>
    ⟨.debug, services, "Offline, returning an empty leaderboard", []⟩
  | .offlineSubmit score =>
    ⟨.debug, services, "Offline, score not recorded", [whole "final_score" score]⟩
  | .running title frames =>
    ⟨.info, application, "Running", [plain "title" title, count "frames" frames]⟩
  | .finished frames score ended faults =>
    ⟨.info, application, "Finished",
      [count "frames" frames, whole "score" score, flag "game_over" ended,
       count "faults" faults]⟩
  | .nothingToWrite =>
    ⟨.warn, application, "No frame was rendered, nothing to write", []⟩

/-- The line that a cartridge wrote, if the notice is one. -/
def consoleLine? : Notice → Option Guest.ConsoleLine
  | .console line => some line
  | _ => none

/-- The fault of a frame that a notice tells about. -/
def fault? : Notice → Option GuestError
  | .frameReported report => some (.reported report)
  | .frameFailed cause => some cause
  | _ => none

end Notice

def consoleLines (ns : List Notice) : List Guest.ConsoleLine :=
  ns.filterMap Notice.consoleLine?

def faults (ns : List Notice) : List GuestError :=
  ns.filterMap Notice.fault?

end Handheld
