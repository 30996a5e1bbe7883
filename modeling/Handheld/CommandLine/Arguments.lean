import Handheld.CommandLine.ScriptedInput

/-!
# Arguments

The program takes one game, by its bundled name or as a file, and options before or behind it.
An option with a value takes it from the same argument, after an equals sign or directly behind
its letter, or from the next one, unless that looks like an option. Flags of one letter may
share a dash. Behind a bare `--` everything is a game.

Arguments are read from the left, and the first that is wrong decides. A value in an argument of
its own is checked when the next option or game comes, so that an unknown option right behind it
is told before the value is.

## Contents

* `Request`: what a run is asked to do.
* `Halt`: why there is no run: help, the version, or a fault of usage.
* `Request.ofArguments`: reads arguments.
-/

namespace Handheld.CommandLine

/-- What a run is asked to do. -/
structure Request where
  game : String := "pong"
  frames : Nat := 600
  config : Option String := none
  inputs : List ScriptedInput := []
  output : Option String := none
  fast : Bool := false
  list : Bool := false
  deriving Repr, DecidableEq

/-- An option without a value. -/
inductive Switch
  | fast
  | list
  | help
  | version
  deriving Repr, DecidableEq

/-- An option with a value. -/
inductive Choice
  | frames
  | config
  | input
  | output
  deriving Repr, DecidableEq

/-- Any option. -/
inductive Name
  | switch (s : Switch)
  | choice (c : Choice)
  deriving Repr, DecidableEq

def Name.ofLong? (name : String) : Option Name :=
  if name = "fast" then some (.switch .fast)
  else if name = "list" then some (.switch .list)
  else if name = "help" then some (.switch .help)
  else if name = "version" then some (.switch .version)
  else if name = "frames" then some (.choice .frames)
  else if name = "config" then some (.choice .config)
  else if name = "input" then some (.choice .input)
  else if name = "output" then some (.choice .output)
  else none

def Name.ofLetter? (c : Char) : Option Name :=
  if c = 'f' then some (.choice .frames)
  else if c = 'o' then some (.choice .output)
  else if c = 'h' then some (.switch .help)
  else if c = 'V' then some (.switch .version)
  else none

/-- An option as faults show it. -/
def Switch.text : Switch → String
  | .fast => "--fast"
  | .list => "--list"
  | .help => "--help"
  | .version => "--version"

/-- An option with its value as faults show it. -/
def Choice.text : Choice → String
  | .frames => "--frames <FRAMES>"
  | .config => "--config <CONFIG>"
  | .input => "--input <INPUTS>"
  | .output => "--output <OUTPUT>"

/-- A fault of usage. -/
inductive UsageFault
  | unexpected (argument : String)
  | unexpectedValue (value shown : String)
  | missingValue (c : Choice)
  | repeated (shown : String)
  | invalid (value : String) (c : Choice) (reason : String)
  deriving Repr, DecidableEq

def UsageFault.message : UsageFault → String
  | .unexpected argument => "unexpected argument '" ++ argument ++ "' found"
  | .unexpectedValue value shown =>
    "unexpected value '" ++ value ++ "' for '" ++ shown ++ "' found; no more were expected"
  | .missingValue c => "a value is required for '" ++ c.text ++ "' but none was supplied"
  | .repeated shown => "the argument '" ++ shown ++ "' cannot be used multiple times"
  | .invalid value c reason =>
    "invalid value '" ++ value ++ "' for '" ++ c.text ++ "': " ++ reason

/-- Why there is no run. -/
inductive Halt
  | help
  | version
  | usage (fault : UsageFault)
  deriving Repr, DecidableEq

/-- An argument that was taken and is not checked yet. -/
inductive Pending
  | game (name : String)
  | value (c : Choice) (text : Option String)
  deriving Repr, DecidableEq

/-- How far the arguments were read. -/
structure Progress where
  request : Request := {}
  pending : Option Pending := none
  /-- The frame count has been given. -/
  framesGiven : Bool := false
  /-- The game has been given. -/
  gameGiven : Bool := false
  /-- A bare `--` has been given. -/
  trailing : Bool := false

namespace Progress

def fault {α : Type} (f : UsageFault) : Except Halt α := .error (.usage f)

/-- A text that may not be empty. -/
def path (c : Choice) (text : String) : Except Halt (Option String) :=
  if text.isEmpty then fault (.missingValue c) else .ok (some text)

def withFrames (p : Progress) (text : String) : Except Halt Progress :=
  if p.framesGiven then fault (.repeated Choice.frames.text)
  else
    match Number.register? text with
    | .ok n => .ok { p with framesGiven := true, request := { p.request with frames := n } }
    | .error f => fault (.invalid text .frames f.message)

/-- Takes the settings file. -/
def withConfig (p : Progress) (text : String) : Except Halt Progress :=
  if p.request.config.isSome then fault (.repeated Choice.config.text)
  else (path .config text).map fun t => { p with request := { p.request with config := t } }

/-- Takes the file for the last frame. -/
def withOutput (p : Progress) (text : String) : Except Halt Progress :=
  if p.request.output.isSome then fault (.repeated Choice.output.text)
  else (path .output text).map fun t => { p with request := { p.request with output := t } }

def withInput (p : Progress) (text : String) : Except Halt Progress :=
  match ScriptedInput.read text with
  | .ok i => .ok { p with request := { p.request with inputs := p.request.inputs ++ [i] } }
  | .error f => fault (.invalid text .input (f.message text))

def withValue (p : Progress) (c : Choice) (text : String) : Except Halt Progress :=
  match c with
  | .frames => p.withFrames text
  | .config => p.withConfig text
  | .output => p.withOutput text
  | .input => p.withInput text

/-- Checks the argument that is pending. -/
def resolve (p : Progress) : Except Halt Progress :=
  let q := { p with pending := none }
  match p.pending with
  | none => .ok q
  | some (.game name) => .ok { q with request := { q.request with game := name } }
  | some (.value c none) => fault (.missingValue c)
  | some (.value c (some text)) => q.withValue c text

/-- Takes a flag. -/
def withSwitch (p : Progress) (s : Switch) : Except Halt Progress := do
  let p ← p.resolve
  match s with
  | .help => .error .help
  | .version => .error .version
  | .fast =>
    if p.request.fast then fault (.repeated s.text)
    else .ok { p with request := { p.request with fast := true } }
  | .list =>
    if p.request.list then fault (.repeated s.text)
    else .ok { p with request := { p.request with list := true } }

/-- Takes an option whose value may be part of the argument. -/
def withChoice (p : Progress) (c : Choice) (attached : Option String) : Except Halt Progress := do
  let p ← p.resolve
  match attached with
  | some text => p.withValue c text
  | none => .ok { p with pending := some (.value c none) }

/-- A long option without its dashes, and its value if there is an equals sign. -/
def splitLong (cs : List Char) : String × Option String :=
  let name := cs.takeWhile (· ≠ '=')
  (String.ofList name,
    if name.length < cs.length then some (String.ofList (cs.drop (name.length + 1))) else none)

def long (p : Progress) (cs : List Char) : Except Halt Progress :=
  let (name, attached) := splitLong cs
  match Name.ofLong? name, attached with
  | none, _ => fault (.unexpected ("--" ++ name))
  | some (.choice c), _ => p.withChoice c attached
  | some (.switch s), none => p.withSwitch s
  | some (.switch s), some value => fault (.unexpectedValue value s.text)

/-- The value behind a letter, with an equals sign or without. -/
def behindLetter : List Char → Option String
  | [] => none
  | '=' :: cs => some (String.ofList cs)
  | cs => some (String.ofList cs)

/-- Takes options of one letter that share a dash. -/
def letters (p : Progress) : List Char → Except Halt Progress
  | [] => .ok p
  | c :: cs =>
    match Name.ofLetter? c with
    | none => fault (.unexpected ("-" ++ String.singleton c))
    | some (.choice o) => p.withChoice o (behindLetter cs)
    | some (.switch s) => do letters (← p.withSwitch s) cs

def withGame (p : Progress) (argument : String) : Except Halt Progress :=
  if p.gameGiven then fault (.unexpected argument)
  else p.resolve.map fun p => { p with pending := some (.game argument), gameGiven := true }

/-- Takes an argument that is no option: a value that is waited for, or the game. -/
def plain (p : Progress) (argument : String) : Except Halt Progress :=
  match p.pending with
  | some (.value c none) => .ok { p with pending := some (.value c (some argument)) }
  | _ => p.withGame argument

def take (p : Progress) (argument : String) : Except Halt Progress :=
  if p.trailing then p.withGame argument
  else
    match argument.toList with
    | ['-', '-'] => .ok { p with trailing := true }
    | '-' :: '-' :: cs => p.long cs
    | '-' :: c :: cs => p.letters (c :: cs)
    | _ => p.plain argument

end Progress

def Request.ofArguments (arguments : List String) : Except Halt Request := do
  let p ← arguments.foldlM Progress.take {}
  return (← p.resolve).request

end Handheld.CommandLine
