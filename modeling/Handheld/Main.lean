import Handheld.CommandLine.Run
import Handheld.Image.Png

/-!
# The program

Reads the arguments, the environment and the files of a run, carries it out, prints the log and
saves the last frame. In simulated time the whole run is one function; in real time the same
rounds are gone through with a pause before each.
-/

namespace Handheld.CommandLine

/-- The variables of the environment that a run looks at. -/
def knownVariables : List String :=
  ["RUST_LOG", "NO_COLOR"] ++
    ["GRID_SIZE", "ATLAS_SIZE", "INCLUDE_SYSTEM_BUTTONS", "FRAME_BUDGET_MS", "LOAD_BUDGET_MS",
      "MEMORY_LIMIT_BYTES", "MAX_STACK_BYTES", "LOG_LEVEL"].map (Environment.namePrefix ++ ·)

def readVariables : IO (List (String × String)) :=
  knownVariables.filterMapM fun name => do
    return (← IO.getEnv name).map fun text => (name, text)

/-- The text of a file that can be read. -/
def readText (path : String) : IO (Option String) := do
  try
    return some (← IO.FS.readFile path)
  catch _ => return none

/-- What a request finds around it. -/
def look (r : Request) : IO Surroundings := do
  let env ← readVariables
  let settings ← readText (settingsFile r)
  let game ← readText r.game
  return {
    env := env
    settingsText := fun _ => settings
    cartridge := fun name => game.map (Guest.Cartridge.ofText name)
    canWrite := fun _ => true }

/-- The time since the start, in seconds. -/
def clockText (nanos : Nat) : String := Number.fixedQuotient nanos 1000000000 6 ++ "s"

/-- Prints the lines of effects, and counts the ticks among them. -/
def print (t : Transcript) (began ticks : Nat) (effects : List Effect) : IO Nat := do
  let now := clockText ((← IO.monoNanosNow) - began)
  for line in { t with time := now }.lines ticks effects do
    IO.println line
  return effects.foldl Transcript.ticksAfter ticks

/-- Goes round in real time, and answers the time and the ticks at the end. -/
partial def playReal (t : Transcript) (began : Nat) (r : Request) (s : Session) (ticks : Nat) :
    IO (Session × Int × Nat) := do
  let now : Int := (← IO.monoNanosNow) - began
  if r.frames ≤ s.scheduler.frames then return (s, now, ticks)
  let round := turn r.inputs s now
  let ticks ← print t began ticks round.effects
  if round.value then return (round.session, now, ticks)
  let later : Int := (← IO.monoNanosNow) - began
  match round.session.scheduler.untilNext? later with
  | some wait => IO.sleep (UInt32.ofNat ((wait + 999999) / 1000000))
  | none => pure ()
  playReal t began r round.session ticks

/-- Writes the frame that a run saves, and tells whether that failed. -/
def writeFrame (saved : Option (String × Image)) : IO (Option String) := do
  match saved with
  | none => return none
  | some (path, frame) =>
    try
      IO.FS.writeBinFile path frame.png
      return none
    catch _ => return some ("failed to write " ++ path)

def performReal (around : Surroundings) (r : Request) (settings : Settings) : IO UInt32 := do
  let (transcript, remarks) := Transcript.ofSettings around.env settings.logLevel ""
  for remark in remarks do IO.eprintln remark
  let began ← IO.monoNanosNow
  let opened := open? around r settings
  let ticks ← print transcript began 0 opened.effects
  match opened.value with
  | .error trouble => IO.eprintln ("Error: " ++ trouble); return 1
  | .ok () =>
    let now : Int := (← IO.monoNanosNow) - began
    let started := opened.session.startAt now
    let ticks ← print transcript began ticks started.effects
    let (s, now, ticks) ← playReal transcript began r started.session ticks
    let ended := finish s now
    let ticks ← print transcript began ticks ended.effects
    let saved := save around r ended.session
    let _ ← print transcript began ticks saved.effects
    match saved.value with
    | .error trouble => IO.eprintln ("Error: " ++ trouble); return 1
    | .ok file =>
      match ← writeFrame file with
      | some trouble => IO.eprintln ("Error: " ++ trouble); return 1
      | none => return 0

/-- Prints what a run in simulated time left, and answers its exit code. -/
def conclude (e : Ending) : IO UInt32 := do
  for line in e.output do IO.println line
  for line in e.trouble do IO.eprintln line
  match ← writeFrame e.saved with
  | some trouble => IO.eprintln ("Error: " ++ trouble); return 1
  | none => return UInt32.ofNat e.code

end Handheld.CommandLine

open Handheld Handheld.CommandLine

def main (arguments : List String) : IO UInt32 := do
  match Request.ofArguments arguments with
  | .error halt => conclude halt.ending
  | .ok r =>
    let around ← look r
    match r.list || r.fast, settingsOf around r with
    | false, .ok settings => performReal around r settings
    | _, _ => conclude (answer around (clockText 0) r)
