import Handheld.Settings
import Handheld.Settings.Environment
import Handheld.Toml.Reader

/-!
# Layers of settings

Settings come in layers: a file lies over the standard settings and the environment over the
file. Where two layers set the same name the upper one counts; a table over a table joins the
two.

The settings are then read one by one in the order of their names, and the first that has the
wrong type or is out of range is refused under its name. Names that are none of the settings'
are left alone. Sizes that the console does not have are refused last.

## Contents

* `Place`, `Layer`: where settings were written, and what was written there.
* `Settings.ofLayers`: the settings that layers amount to.
* `Settings.load`: the settings of a file and the environment.
-/

namespace Handheld.Settings

/-- Where settings are written. -/
inductive Place
  | file (name : String)
  | environment
  | caller
  deriving Repr, DecidableEq

/-- What settings at a place are part of. -/
def Place.text : Place → String
  | .file name => " in " ++ name ++ " TOML file"
  | .environment => " in \x60" ++ Environment.namePrefix ++ "\x60 environment variable(s)"
  | .caller => ""

/-- A setting by its place; the environment's names are in upper case. -/
def Place.entry (p : Place) (name : String) : String :=
  let shown := match p with
    | .environment => name.map Char.toUpper
    | _ => "default." ++ name
  " for key " ++ Text.quote shown ++ p.text

/-- Settings written at one place. -/
structure Layer where
  place : Place
  entries : Entries Setting

namespace Layer

/-- Why a malformed file is refused. The place of the fault is told first. -/
def malformed (name : String) (p : Toml.Position) : ConfigError :=
  .unreadable []
    ("TOML parse error at line " ++ Nat.repr p.line ++ ", column " ++ Nat.repr p.column ++ "\n")
    (Place.file name).text

def ofFile (name text : String) : Except ConfigError Layer :=
  match Toml.read? text with
  | .ok entries => .ok ⟨.file name, entries⟩
  | .error p => .error (malformed name p)

/-- The settings of the environment. -/
def ofVariables (env : List (String × String)) : Layer :=
  ⟨.environment, Environment.settings env⟩

def wrongType (s : Setting) (expected : String) : String :=
  "invalid type: found " ++ s.description ++ ", expected " ++ expected

/-- One setting of a caller, under a dotted name. Without a name it must be a table. -/
def ofPair (name : String) (s : Setting) : Except ConfigError Layer :=
  match s.under name with
  | .table entries => .ok ⟨.caller, entries⟩
  | _ => .error (.unreadable [] (wrongType s "map") "")

/-- The entries of layers, each laid over those before it. -/
def flatten (layers : List Layer) : Entries Setting :=
  layers.foldl (fun es l => Setting.entriesLaidOn es l.entries) []

/-- The place of the uppermost layer that has a name. -/
def placeOf (layers : List Layer) (name : String) : Place :=
  match layers.reverse.find? fun l => (l.entries.get? name).isSome with
  | some l => l.place
  | none => .caller

end Layer

/-- A whole number up to a greatest value; a message names the register it is for. -/
def wholeOf (register : String) (greatest : Nat) (s : Setting) : Except String Nat :=
  let refused := "invalid value " ++ s.description ++ ", expected " ++ register
  match s with
  | .unsigned n => if n ≤ greatest then .ok n else .error refused
  | .signed n => if 0 ≤ n ∧ n ≤ greatest then .ok n.toNat else .error refused
  | s => .error (Layer.wrongType s register)

/-- A truth value. -/
def flagOf : Setting → Except String Bool
  | .bool b => .ok b
  | s => .error (Layer.wrongType s "a boolean")

def textOf : Setting → Except String String
  | .text s => .ok s
  | .char c => .ok (String.singleton c)
  | s => .error (Layer.wrongType s "a string")

def sizeOf : Setting → Except String Nat := wholeOf "u32" 4294967295

def millisOf : Setting → Except String Nat := wholeOf "u64" Number.greatestRegister

def bytesOf : Setting → Except String Nat := wholeOf "usize" Number.greatestRegister

/-- The setting of a name, read by its type, or the standard value. A refused one is told with
its name. -/
def entryOr {α : Type} (es : Entries Setting) (name : String) (read : Setting → Except String α)
    (standard : α) : Except (String × String) α :=
  match es.get? name with
  | none => .ok standard
  | some s => (read s).mapError fun reason => (name, reason)

/-- Written settings out of entries, read in the order of their names. -/
def rawOf (es : Entries Setting) : Except (String × String) RawSettings := do
  let d : RawSettings := {}
  let atlasSize ← entryOr es "atlas_size" sizeOf d.atlasSize
  let frameBudget ← entryOr es "frame_budget_ms" millisOf d.frameBudgetMillis
  let gridSize ← entryOr es "grid_size" sizeOf d.gridSize
  let systemButtons ← entryOr es "include_system_buttons" flagOf d.systemButtons
  let loadBudget ← entryOr es "load_budget_ms" millisOf d.loadBudgetMillis
  let logLevel ← entryOr es "log_level" textOf d.logLevel
  let stack ← entryOr es "max_stack_bytes" bytesOf d.stackBytes
  let memory ← entryOr es "memory_limit_bytes" bytesOf d.memoryBytes
  return ⟨gridSize, atlasSize, systemButtons, frameBudget, loadBudget, memory, stack, logLevel⟩

def ofLayers (layers : List Layer) : Except ConfigError Settings :=
  match rawOf (Layer.flatten layers) with
  | .ok raw => ofRaw raw
  | .error (name, reason) =>
    .error (.unreadable [name] reason ((Layer.placeOf layers name).entry name))

/-- The settings of a file, if it is there, and of the environment over it. -/
def load (name : String) (text : Option String) (env : List (String × String)) :
    Except ConfigError Settings := do
  let file ← match text with
    | some t => (Layer.ofFile name t).map fun l => [l]
    | none => .ok []
  ofLayers (file ++ [Layer.ofVariables env])

/-- The settings of a caller, pair by pair; of several that are refused the last is told. -/
def ofPairs (pairs : List (String × Setting)) : Except ConfigError Settings := do
  let layers ← pairs.foldl (fun found p =>
    match Layer.ofPair p.1 p.2 with
    | .ok l => found.map (· ++ [l])
    | .error e => .error e) (.ok [])
  ofLayers layers

end Handheld.Settings
