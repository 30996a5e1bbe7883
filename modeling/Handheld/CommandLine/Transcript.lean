import Handheld.Log.Filter
import Handheld.Session.State

/-!
# Transcripts

The log of a run is a list of lines. Which notices become lines is up to a filter, and each line
shows how many ticks had begun when it was written. A line that a load writes shows the load as
a span around it, provided the filter shows the spans of the session at all.

The filter comes from the environment if there is a well-formed one, and else from the log level
of the settings, which then applies to the console and to what cartridges write.

## Contents

* `Transcript`: the filter, whether there are styles, and what is shown for the time.
* `Transcript.ofSettings`: the transcript of a run, and what is said about a faulty log level.
* `Transcript.lines`: the lines that effects make.
-/

namespace Handheld

/-- How effects become lines. -/
structure Transcript where
  filter : Log.Filter
  styles : Bool
  /-- What is shown for the time. -/
  time : String

namespace Transcript

def directives (level : String) : String :=
  "warn,quickcart=" ++ level ++ ",guest=" ++ level

/-- The filter of a run, and the remarks on what is malformed. -/
def filterOf (env : List (String × String)) (level : String) : Log.Filter × List String :=
  match (Entries.get? env "RUST_LOG").bind Log.Filter.strict? with
  | some filter => (filter, [])
  | none => Log.Filter.lenient (directives level)

/-- Whether lines have styles: unless the environment turns them off. -/
def hasStyles (env : List (String × String)) : Bool :=
  (Entries.get? env "NO_COLOR").all String.isEmpty

/-- The transcript of a run, and the remarks on a faulty log level. -/
def ofSettings (env : List (String × String)) (level time : String) :
    Transcript × List String :=
  let (filter, remarks) := filterOf env level
  (⟨filter, hasStyles env, time⟩, remarks)

/-- The span around the lines of a load. -/
def loadSpan (size : Nat) : Log.Span := ⟨"load_source", [⟨"bytes", Nat.repr size⟩]⟩

def spans (t : Transcript) (loading : Option Nat) : List Log.Span :=
  match loading with
  | some size => if t.filter.enabled Notice.session .info then [loadSpan size] else []
  | none => []

/-- The line of a notice, if the filter shows it. -/
def line? (t : Transcript) (ticks : Nat) (n : Notice) (loading : Option Nat) : Option String :=
  if t.filter.enabled n.event.target n.event.level then
    some (n.event.line t.styles t.time ticks (t.spans loading))
  else none

def ticksAfter (ticks : Nat) : Effect → Nat
  | .ticked => ticks + 1
  | _ => ticks

def linesOf (t : Transcript) (ticks : Nat) : Effect → List String
  | .told n loading => (t.line? ticks n loading).toList
  | _ => []

/-- The lines of effects, given the ticks that began before them. -/
def lines (t : Transcript) : Nat → List Effect → List String
  | _, [] => []
  | ticks, e :: es => t.linesOf ticks e ++ lines t (ticksAfter ticks e) es

end Transcript

end Handheld
