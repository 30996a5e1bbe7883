import Handheld.Compositor
import Handheld.Deferred
import Handheld.Frame.Apply
import Handheld.Scheduler
import Handheld.Settings

/-!
# The session's state

A session owns everything that is needed to play one game at a time: the sandbox with the
cartridge, the scheduler, the display, the atlas and palette of the loaded game, the input, the
renderer, the queue of deferred work, and what is known of the leaderboard.

Operations answer with a value, the session after them, and the effects they had, in order. An
effect is something that another can observe: a line of the log, a call of an outside service
or of the hook, a call of the game, a frame handed to the renderer.

## Contents

* `Services`: the leaderboard and the source of new games.
* `Renderer`: the compositor, or a renderer that keeps nothing.
* `Effect`, `Reply`: what an operation did.
* `Session`: the state, and `Session.new` and `Session.newWith`, where it begins.
-/

namespace Handheld

/-- How the outside services answer. -/
structure Answers where
  fetch : Except ServiceError (List LeaderboardEntry) := .ok []
  submit : Except ServiceError Submission := .ok {}
  /-- The cartridge that a description is turned into. -/
  generate : Except ServiceError Guest.Cartridge

/-- The leaderboard and the source of new games. -/
inductive Services
  /-- Nothing is connected: the leaderboard is empty, and no games are made. -/
  | offline
  | connected (answers : Answers)

namespace Services

/-- The leaderboard's rows. -/
def fetch : Services → Except ServiceError (List LeaderboardEntry)
  | .offline => .ok []
  | .connected a => a.fetch

def submit : Services → Except ServiceError Submission
  | .offline => .ok {}
  | .connected a => a.submit

/-- A cartridge for a description. -/
def generate : Services → Except ServiceError Guest.Cartridge
  | .offline => .error (.unavailable "no source generator is configured")
  | .connected a => a.generate

/-- What the services tell when the leaderboard is fetched. -/
def fetchNotices : Services → List Notice
  | .offline => [.offlineFetch]
  | .connected _ => []

/-- What the services tell when a score is submitted. -/
def submitNotices (score : Int) : Services → List Notice
  | .offline => [.offlineSubmit score]
  | .connected _ => []

end Services

/-- Who composes the frames. -/
inductive Renderer
  | compositor (c : Compositor)
  /-- A renderer that keeps no frame. -/
  | blind

namespace Renderer

def render (r : Renderer) (s : Scene) : Renderer :=
  match r with
  | .compositor c => .compositor (c.render s)
  | .blind => .blind

def lastFrame? : Renderer → Option Image
  | .compositor c => c.lastFrame?
  | .blind => none

end Renderer

/-- Something that an operation did for others to observe. -/
inductive Effect
  /-- A line of the log; the size of the text if a load wrote it. -/
  | told (notice : Notice) (loading : Option Nat)
  /-- The scheduler began a tick. -/
  | ticked
  /-- The game was called. -/
  | invoked (delta : Nat) (input : InputSnapshot)
  | fetched
  | submitted (score : Int)
  /-- A game was asked for, with the game to start from. -/
  | generated (description : String) (prior : Option Guest.Cartridge)
  | hooked (frame : Image)
  | rendered (scene : Scene)

namespace Effect

/-- Lines of the log outside of a load. -/
def tell (ns : List Notice) : List Effect := ns.map fun n => .told n none

/-- Lines of the log written by a load. -/
def tellLoading (size : Nat) (ns : List Notice) : List Effect :=
  ns.map fun n => .told n (some size)

/-- The line of the log that an effect is. -/
def notice? : Effect → Option Notice
  | .told n _ => some n
  | _ => none

end Effect

/-- The loaded game. -/
structure LoadedGame where
  definition : Definition
  /-- Where it was loaded from. -/
  cartridge : Guest.Cartridge

/-- Everything needed to play one game at a time. -/
structure Session where
  settings : Settings
  sandbox : Sandbox
  scheduler : Scheduler
  display : Display
  atlas : Atlas
  palette : Palette
  input : InputState := {}
  renderer : Renderer := .compositor {}
  services : Services := .offline
  deferred : DeferredQueue := {}
  game : Option LoadedGame := none
  /-- The leaderboard shown over the game. -/
  overlay : Option (List LeaderboardEntry) := none
  /-- Whether opening the leaderboard is what paused the game. -/
  pausedForOverlay : Bool := false
  /-- Whether somebody waits for the first frame. -/
  hookSet : Bool := false
  firstFrameQueued : Bool := false
  /-- The leaderboard as it was last fetched. -/
  board : Option (List LeaderboardEntry) := none
  submission : Option Submission := none

/-- What an operation answers, the session after it, and its effects in order. -/
structure Reply (α : Type) where
  value : α
  session : Session
  effects : List Effect := []

namespace Session

/-- A session without a game. -/
def new (settings : Settings) : Session :=
  { settings := settings
    sandbox := { limits := settings.limits }
    scheduler := .new standardPeriod
    display := .new settings.grid
    atlas := .empty settings.atlas
    palette := .standard }

/-- A session without a game around a scheduler, a renderer and services of one's own. -/
def newWith (settings : Settings) (scheduler : Scheduler) (renderer : Renderer)
    (services : Services) : Session :=
  { new settings with scheduler := scheduler, renderer := renderer, services := services }

/-- How long a first frame waits before it is handed to the hook, in nanoseconds. -/
def hookDelay : Nat := 50000000

def title? (s : Session) : Option String := s.game.map fun g => g.definition.metadata.title

def cartridge? (s : Session) : Option Guest.Cartridge := s.game.map LoadedGame.cartridge

/-- Whether a game is there to be played. -/
def isPlayable (s : Session) : Bool := s.game.isSome && s.sandbox.isLoaded

def hasPendingWork (s : Session) : Bool := !s.deferred.isEmpty

/-- What the session shows. -/
def scene (s : Session) : Scene :=
  { display := s.display, atlas := s.atlas, palette := s.palette, overlay := s.overlay }

def lastFrame? (s : Session) : Option Image := s.renderer.lastFrame?

def nextDue? (s : Session) : Option Int :=
  match s.scheduler.nextTick, s.deferred.nextDue? with
  | some tick, some task => some (min tick task)
  | some tick, none => some tick
  | none, task => task

end Session

end Handheld
