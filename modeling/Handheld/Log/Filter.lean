import Handheld.Number.Numeral
import Handheld.Text.Split

/-!
# Log levels and filters

There are five levels, from the finest to the gravest. A threshold lets its own level and graver
ones through.

A filter is a list of directives. A directive sets a threshold for the targets that begin with
its own target, or for every target if it names none. For a line the directive with the longest
matching target decides, and among equal ones the last; a line that no directive matches is not
shown.

A directive is written `target=level`, or only a level, or only a target, which then shows
everything. Levels are named, in any case, or numbered from zero for nothing to five for
everything.
-/

namespace Handheld.Log

/-- How grave a log line is. -/
inductive Level
  | trace
  | debug
  | info
  | warn
  | error
  deriving Repr, DecidableEq

namespace Level

/-- Every level, from the finest to the gravest. -/
def all : List Level := [.trace, .debug, .info, .warn, .error]

/-- The place of a level among all. -/
def gravity : Level → Nat
  | .trace => 0
  | .debug => 1
  | .info => 2
  | .warn => 3
  | .error => 4

def name : Level → String
  | .trace => "TRACE"
  | .debug => "DEBUG"
  | .info => "INFO"
  | .warn => "WARN"
  | .error => "ERROR"

end Level

/-- The threshold of the targets that begin with a text; no threshold shows nothing. -/
structure Directive where
  target : String := ""
  threshold : Option Level
  deriving Repr, DecidableEq

/-- Directives in the order in which they were given. -/
structure Filter where
  directives : List Directive
  deriving Repr, DecidableEq

namespace Filter

def numbered? : Nat → Option (Option Level)
  | 0 => some none
  | 1 => some (some .error)
  | 2 => some (some .warn)
  | 3 => some (some .info)
  | 4 => some (some .debug)
  | 5 => some (some .trace)
  | _ => none

def threshold? (s : String) : Option (Option Level) :=
  match (Number.register? s).toOption.bind numbered? with
  | some t => some t
  | none =>
    let name := s.map Char.toUpper
    if name = "OFF" then some none
    else if name = "" then some (some .error)
    else (Level.all.find? fun l => l.name == name).map some

/-- Why a directive is refused. -/
inductive Fault
  | malformed
  | level
  deriving Repr, DecidableEq

/-- The text of a refused directive. -/
def Fault.message : Fault → String
  | .malformed => "invalid filter directive"
  | .level =>
    "error parsing level filter: expected one of \"off\", \"error\", \"warn\", \"info\", "
      ++ "\"debug\", \"trace\", or a number 0-5"

/-- Whether a directive may begin with a character. -/
def mayBegin (c : Char) : Bool :=
  c.isAlphanum || c = '-' || c = ':' || c = '_' || 128 ≤ c.toNat

def directive? (s : String) : Except Fault Directive :=
  let shown := Text.trimList s.toList
  match shown.head? with
  | none => .error .malformed
  | some c =>
    if !mayBegin c || shown.contains '[' then .error .malformed
    else
      let place := (shown.takeWhile fun x => x ≠ '=').length
      if place < shown.length then
        let target := String.ofList (s.toList.take place)
        let level := String.ofList (s.toList.drop (place + 1))
        if level.isEmpty then .ok ⟨target, some .trace⟩
        else
          match threshold? level with
          | some t => .ok ⟨target, t⟩
          | none => .error .level
      else
        match threshold? s with
        | some t => .ok ⟨"", t⟩
        | none => .ok ⟨s, some .trace⟩

def parts (s : String) : List String := s.splitOn ","

/-- The filter of a text, all of whose directives must be well formed. An empty text has none. -/
def strict? (s : String) : Option Filter :=
  if s.isEmpty then some ⟨[]⟩
  else
    ((parts s).mapM fun p => (directive? p).toOption).map Filter.mk

/-- The filter of a text without its malformed directives, and what is said about those. -/
def lenient (s : String) : Filter × List String :=
  let found := ((parts s).filter fun p => !p.isEmpty).map fun p => (p, directive? p)
  let directives := found.filterMap fun f => f.2.toOption
  let remarks := found.filterMap fun f =>
    match f.2 with
    | .ok _ => none
    | .error fault => some ("ignoring \x60" ++ f.1 ++ "\x60: " ++ fault.message)
  (⟨if directives.isEmpty then [⟨"", some .error⟩] else directives⟩, remarks)

/-- The better of two directives: the one with the longer target, or the later. -/
def better (best : Option Directive) (d : Directive) : Option Directive :=
  match best with
  | none => some d
  | some b => if b.target.length ≤ d.target.length then some d else some b

def deciding? (f : Filter) (target : String) : Option Directive :=
  (f.directives.filter fun d => target.startsWith d.target).foldl better none

/-- Whether a line of a level and a target is shown. -/
def enabled (f : Filter) (target : String) (level : Level) : Bool :=
  match f.deciding? target with
  | some ⟨_, some threshold⟩ => threshold.gravity ≤ level.gravity
  | _ => false

end Filter

end Handheld.Log
