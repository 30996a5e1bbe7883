import Handheld.Atlas
import Handheld.Display
import Handheld.Sandbox

/-!
# Settings

What can be set about the console: the size of the display and of the atlas, what a cartridge
may use, and what the log shows. Settings are checked when they are built, so that every size
is one that the console has.

## Main statements

* `ofRaw_standard`: the standard values are the standard settings.
-/

namespace Handheld

/-- Checked settings. -/
structure Settings where
  grid : GridSize := .large
  atlas : AtlasSize := .large
  limits : Limits := {}
  logLevel : String := "info"
  deriving DecidableEq

/-- Settings as they are written, before they are checked. Zero stands for no limit. -/
structure RawSettings where
  gridSize : Nat := 32
  atlasSize : Nat := 256
  systemButtons : Bool := true
  frameBudgetMillis : Nat := 250
  loadBudgetMillis : Nat := 2000
  memoryBytes : Nat := 67108864
  stackBytes : Nat := 1048576
  logLevel : String := "info"
  deriving Repr, DecidableEq

namespace Settings

def limit? (n : Nat) : Option Nat := if n = 0 then none else some n

def limitsOf (r : RawSettings) : Limits :=
  { frameBudget := (limit? r.frameBudgetMillis).map Duration.ofMillis
    loadBudget := (limit? r.loadBudgetMillis).map Duration.ofMillis
    memory := limit? r.memoryBytes
    stack := limit? r.stackBytes
    systemButtons := r.systemButtons }

/-- Checks written settings. -/
def ofRaw (r : RawSettings) : Except ConfigError Settings :=
  match GridSize.ofCells? r.gridSize, AtlasSize.ofPixels? r.atlasSize with
  | none, _ => .error (.gridSize r.gridSize)
  | some _, none => .error (.atlasSize r.atlasSize)
  | some grid, some atlas =>
    .ok { grid := grid, atlas := atlas, limits := limitsOf r, logLevel := r.logLevel }

/-- The standard values are the standard settings. -/
theorem ofRaw_standard : ofRaw {} = .ok {} := rfl

end Settings

end Handheld
