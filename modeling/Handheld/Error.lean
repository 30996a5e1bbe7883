import Handheld.Record

/-!
# What can go wrong

Each part of the console fails for causes of its own. A cause is a value; its text is written
in one place, the function `message` of its type.

Faults of a running game are of a different kind: they never leave the sandbox, which counts
and logs them and shows an unchanged frame instead. They are the type `GuestError`.

## Contents

* `InitializationError`, `LoadError`, `ConfigError`, `SessionError`: what callers see.
* `GuestError`: what the sandbox contains.
-/

namespace Handheld

/-- Why the engine could not be set up. -/
inductive InitializationError
  | engine (detail : String)
  | context (detail : String)
  deriving Repr, DecidableEq

/-- The text of a failed set-up. -/
def InitializationError.message : InitializationError → String
  | .engine detail => "Failed to create the script engine: " ++ detail
  | .context detail => "Failed to create an execution context: " ++ detail

/-- The functions that every cartridge defines. -/
inductive EntryPoint
  | metadata
  | resources
  | update
  deriving Repr, DecidableEq

namespace EntryPoint

/-- The entry points in the order in which they are looked up. -/
def all : List EntryPoint := [.metadata, .resources, .update]

def name : EntryPoint → String
  | .metadata => "metadata"
  | .resources => "resources"
  | .update => "update"

end EntryPoint

/-- What a script failed with, and whether it had used up its time. -/
structure ScriptFailure where
  detail : String
  overBudget : Bool := false
  deriving Repr, DecidableEq

/-- The text of a script's failure. The engine's trace stands between the first line and the
note about the budget. -/
def ScriptFailure.message (f : ScriptFailure) : String :=
  if f.overBudget then f.detail ++ "\n (exceeded the load time budget)" else f.detail

/-- Why a cartridge could not be loaded. -/
inductive LoadError
  | notInitialized
  | context (detail : String)
  | evaluation (failure : ScriptFailure)
  | missingEntryPoints (missing : List EntryPoint)
  | entryPointFailed (name : EntryPoint) (failure : ScriptFailure)
  | invalidDefinition (detail : String)
  | unknownBundledGame (name : String)
  deriving Repr, DecidableEq

namespace LoadError

/-- The text of a failed load. -/
def message : LoadError → String
  | .notInitialized => "Runtime has not been initialized"
  | .context detail => "Failed to create an execution context: " ++ detail
  | .evaluation failure => "Failed to evaluate game code: " ++ failure.message
  | .missingEntryPoints missing =>
    "Game code must define metadata, resources, and update functions (missing: "
      ++ ", ".intercalate (missing.map EntryPoint.name) ++ ")"
  | .entryPointFailed name failure =>
    "Failed to call " ++ name.name ++ "(): " ++ failure.message
  | .invalidDefinition detail => "Invalid game definition: " ++ detail
  | .unknownBundledGame name => "Unknown bundled game: " ++ name

/-- Whether a load ran out of time. -/
def isOverBudget : LoadError → Bool
  | .evaluation failure => failure.overBudget
  | .entryPointFailed _ failure => failure.overBudget
  | _ => false

end LoadError

/-- A fault of a running game. -/
inductive GuestError
  /-- The game threw what could not be reported, or returned what could not be copied out. -/
  | thrown (detail : String)
  | reported (report : GuestReport)
  | interrupted
  | invalidResult (detail : String)
  deriving Repr, DecidableEq

/-- The text of a fault. -/
def GuestError.message : GuestError → String
  | .thrown detail => "Update function threw: " ++ detail
  | .reported report => "Update function reported " ++ report.name ++ ": " ++ report.message
  | .interrupted => "Update function exceeded its time budget"
  | .invalidResult detail => "Update function returned an unusable value: " ++ detail

/-- Why settings could not be used. -/
inductive ConfigError
  /-- A setting of the wrong type, or a settings file that is malformed. -/
  | unreadable (path : List String) (reason : String) (place : String)
  | gridSize (n : Nat)
  | atlasSize (n : Nat)
  deriving Repr, DecidableEq

/-- The text of unusable settings. -/
def ConfigError.message : ConfigError → String
  | .unreadable _ reason place => "Failed to read configuration: " ++ reason ++ place
  | .gridSize n => "Unsupported grid size " ++ Nat.repr n ++ " (expected 16 or 32)"
  | .atlasSize n => "Unsupported atlas size " ++ Nat.repr n ++ " (expected 128 or 256)"

/-- What a caller of the session sees. -/
inductive SessionError
  | initialization (cause : InitializationError)
  | load (cause : LoadError)
  | service (cause : ServiceError)
  | config (cause : ConfigError)
  | io (detail : String)
  | invalidState (detail : String)
  deriving Repr, DecidableEq

def SessionError.message : SessionError → String
  | .initialization cause => "Initialization error: " ++ cause.message
  | .load cause => "Load error: " ++ cause.message
  | .service cause => "Service error: " ++ cause.message
  | .config cause => "Configuration error: " ++ cause.message
  | .io detail => "IO error: " ++ detail
  | .invalidState detail => "Invalid state: " ++ detail

end Handheld
