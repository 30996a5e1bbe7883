import Handheld.Guest.Program
import Handheld.Guest.Report
import Handheld.Notice

/-!
# The sandbox

The sandbox holds at most one loaded cartridge. Loading evaluates the cartridge's text, calls
its entry points `metadata` and `resources` once and builds the definition; whatever was loaded
before is released first, even if the load then fails.

A frame never fails. What goes wrong while it runs is counted and told, and the frame comes out
empty. A call that does not end by itself is ended by its time budget.

## Contents

* `Limits`: what a cartridge may use.
* `Sandbox`: the engine, the loaded cartridge and the count of faults.
* `Sandbox.acquire`, `load`, `invoke`, `release`: the operations, each with its notices.
* `Sandbox.Request`, `Sandbox.step`, `Sandbox.run`: the operations as values.

## Main statements

* `load_not_ready`: without an engine nothing is loaded.
* `isLoaded_load`: after a load there is a cartridge exactly if the load succeeded.
* `invoke_unloaded`: a frame without a cartridge is empty and no fault.
-/

namespace Handheld

/-- What a cartridge may use, and what the engine takes of it. A missing limit is none. -/
structure Limits where
  /-- The time for one frame, in nanoseconds. -/
  frameBudget : Option Nat := some 250000000
  /-- The time for a load, in nanoseconds. -/
  loadBudget : Option Nat := some 2000000000
  /-- The memory of the engine, in bytes. -/
  memory : Option Nat := some 67108864
  /-- The stack of the engine, in bytes. -/
  stack : Option Nat := some 1048576
  /-- Whether cartridges see the system buttons. -/
  systemButtons : Bool := true
  /-- The memory that an execution context takes before anything runs in it, in bytes. It depends on
  the engine; no setting changes it. -/
  contextSize : Nat := 65536
  deriving Repr, DecidableEq

/-- Whether there is memory for an execution context. -/
def Limits.admitsContext (l : Limits) : Bool :=
  match l.memory with
  | some n => l.contextSize ≤ n
  | none => true

/-- A loaded cartridge and its process. -/
structure Realm where
  cartridge : Guest.Cartridge
  process : Guest.Process

/-- The engine, the loaded cartridge and the count of faults. -/
structure Sandbox where
  limits : Limits := {}
  /-- Whether the engine is there. -/
  ready : Bool := false
  realm : Option Realm := none
  faults : Nat := 0
  /-- The names of the cartridges that were withdrawn. -/
  withdrawn : List String := []

namespace Sandbox

def isLoaded (s : Sandbox) : Bool := s.realm.isSome

/-- Acquires the engine, unless it is there already. -/
def acquire (s : Sandbox) : Sandbox × List Notice :=
  if s.ready then (s, [.engineThere])
  else ({ s with ready := true }, [.engineReady s.limits.memory s.limits.frameBudget])

/-- Withdraws a cartridge: if it is perishable it cannot be loaded from now on. -/
def withdraw (s : Sandbox) (name : String) : Sandbox :=
  { s with withdrawn := name :: s.withdrawn }

def releaseRealm (s : Sandbox) : Sandbox × List Notice :=
  match s.realm with
  | some _ => ({ s with realm := none }, [.contextReleased])
  | none => (s, [])

def release (s : Sandbox) : Sandbox × List Notice :=
  let (t, notices) := s.releaseRealm
  if s.ready then ({ t with ready := false }, notices ++ [.engineReleased s.isLoaded])
  else (t, notices)

/-- What a thrown value fails a load with. -/
def failureOf : Guest.Thrown → ScriptFailure
  | .error _ message => { detail := "Error: " ++ message }
  | .value _ => { detail := "Exception generated by quickjs:" }

/-- What a call that never ends fails a load with. -/
def interruption : ScriptFailure := { detail := "Error: interrupted", overBudget := true }

/-- The notices of what a call wrote to the console. -/
def noticesOf (r : Guest.Run) : List Notice := r.lines.map .console

/-- The value that a call of a load returned, or why there is none. -/
def returned (r : Guest.Run) : Except ScriptFailure Guest.Value :=
  match r.completion with
  | .returned v => .ok v
  | .thrown t => .error (failureOf t)
  | .endless => .error interruption

def evaluate (p : Guest.Program) : Except LoadError Unit × List Notice :=
  match p.opening with
  | .malformed => (.error (.evaluation { detail := "Error: function name expected" }), [])
  | .runs e =>
    let r := e.run {}
    match returned r with
    | .ok _ => (.ok (), noticesOf r)
    | .error failure => (.error (.evaluation failure), noticesOf r)

/-- The copy of what an entry point returned. -/
def consult (name : EntryPoint) (e : Guest.Entry) : Except LoadError Json × List Notice :=
  let r := e.run {}
  match returned r with
  | .error failure => (.error (.entryPointFailed name failure), noticesOf r)
  | .ok v =>
    match v.copyOut with
    | .ok json => (.ok json, noticesOf r)
    | .error fault =>
      (.error (.invalidDefinition (name.name ++ "(): " ++ fault.message)), noticesOf r)

/-- The entry points that a program lacks. -/
def missing (p : Guest.Program) : List EntryPoint :=
  (if p.metadata?.isNone then [.metadata] else [])
    ++ (if p.resources?.isNone then [.resources] else [])
    ++ (if p.process?.isNone then [.update] else [])

/-- The definition of the values that the entry points returned. -/
def define (metadata resources : Json) : Except LoadError Definition × List Notice :=
  match Definition.ofValues metadata resources with
  | .error cause => (.error (.invalidDefinition cause.message), [])
  | .ok d => (.ok d, (Definition.remarks metadata resources).map .definition)

/-- Consults the entry points of an evaluated program. -/
def inspect (p : Guest.Program) : Except LoadError (Definition × Guest.Process) × List Notice :=
  match p.metadata?, p.resources?, p.process? with
  | some metadata, some resources, some process =>
    match consult .metadata metadata with
    | (.error cause, told) => (.error cause, told)
    | (.ok m, told) =>
      match consult .resources resources with
      | (.error cause, more) => (.error cause, told ++ more)
      | (.ok r, more) =>
        match define m r with
        | (.error cause, last) => (.error cause, told ++ more ++ last)
        | (.ok d, last) => (.ok (d, process), told ++ more ++ last)
  | _, _, _ => (.error (.missingEntryPoints (missing p)), [])

/-- Evaluates and consults a cartridge in a fresh execution context. -/
def boot (s : Sandbox) (c : Guest.Cartridge) :
    Except LoadError (Definition × Guest.Process) × List Notice :=
  if c.perishable && s.withdrawn.contains c.name then
    (.error (.evaluation { detail := "Error: expired" }), [])
  else
    match evaluate c.program with
    | (.error cause, told) => (.error cause, told)
    | (.ok _, told) =>
      let (outcome, more) := inspect c.program
      (outcome, told ++ more)

/-- Loads a cartridge in place of whatever was loaded. -/
def load (s : Sandbox) (c : Guest.Cartridge) :
    Except LoadError Definition × Sandbox × List Notice :=
  let (s, released) := s.releaseRealm
  if !s.ready then (.error .notInitialized, s, released)
  else if !s.limits.admitsContext then
    (.error (.context "Allocation failed while creating object"), s, released)
  else
    match s.boot c with
    | (.error cause, told) => (.error cause, s, released ++ told ++ [.loadFailed cause])
    | (.ok (d, process), told) =>
      (.ok d, { s with realm := some ⟨c, process⟩ },
        released ++ told
          ++ [.gameLoaded d.metadata.title d.sprites.length d.palette.size])

/-- What a call of `update` handed back, copied out. What it threw comes as a report. -/
def copied : Guest.Completion → Except GuestError Json
  | .endless => .error .interrupted
  | .returned v => v.copyOut.mapError fun fault => .thrown fault.message
  | .thrown t =>
    match t.report? with
    | some v => v.copyOut.mapError fun fault => .thrown fault.message
    | none => .error (.thrown Guest.unreportable)

/-- The result of a frame, or its fault. -/
def classify (v : Json) : Except GuestError FrameResult :=
  match FrameResult.ofJson? v with
  | none => .error (.invalidResult (FrameResult.unusable v))
  | some r =>
    match r.report? with
    | some report => .error (.reported report)
    | none => .ok r

/-- The result of a call of `update`, or its fault. -/
def outcome (c : Guest.Completion) : Except GuestError FrameResult :=
  copied c >>= classify

def faultNotice : GuestError → Notice
  | .reported report => .frameReported report
  | cause => .frameFailed cause

/-- Whether a frame would call the cartridge. -/
def isPlayable (s : Sandbox) : Bool := s.ready && s.isLoaded

/-- Runs a frame. A fault is counted and told, and the result is then empty. -/
def invoke (s : Sandbox) (delta : Float) (input : InputSnapshot) :
    FrameResult × Sandbox × List Notice :=
  match s.ready, s.realm with
  | true, some realm =>
    let (run, process) := realm.process.call delta (input.fields s.limits.systemButtons)
    let t := { s with realm := some { realm with process := process } }
    match outcome run.completion with
    | .ok r => (r, t, noticesOf run)
    | .error fault =>
      (.empty, { t with faults := t.faults + 1 }, noticesOf run ++ [faultNotice fault])
  | _, _ => (.empty, s, [.nothingToInvoke])

/-- A request to the sandbox. -/
inductive Request
  | acquire
  | load (c : Guest.Cartridge)
  | invoke (delta : Float) (input : InputSnapshot)
  | release
  | withdraw (name : String)

/-- The answer to a request. -/
inductive Answer
  | done
  | loaded (outcome : Except LoadError Definition)
  | frame (result : FrameResult)

/-- Serves a request. -/
def step (s : Sandbox) : Request → Answer × Sandbox × List Notice
  | .acquire => let r := s.acquire; (.done, r)
  | .load c => let r := s.load c; (.loaded r.1, r.2)
  | .invoke delta input => let r := s.invoke delta input; (.frame r.1, r.2)
  | .release => let r := s.release; (.done, r)
  | .withdraw name => (.done, s.withdraw name, [])

/-- The answers to a list of requests, the sandbox after them, and everything told. -/
def run (s : Sandbox) : List Request → List Answer × Sandbox × List Notice
  | [] => ([], s, [])
  | r :: rs =>
    let (answer, t, told) := s.step r
    let (answers, u, more) := run t rs
    (answer :: answers, u, told ++ more)

/-- Without an engine nothing is loaded. -/
theorem load_not_ready {s : Sandbox} (h : s.ready = false) (c : Guest.Cartridge) :
    (s.load c).1 = .error .notInitialized := by
  unfold load releaseRealm
  cases hr : s.realm <;> simp [h]

/-- After a load there is a cartridge exactly if the load succeeded. -/
theorem isLoaded_load (s : Sandbox) (c : Guest.Cartridge) :
    (s.load c).2.1.isLoaded = (s.load c).1.isOk := by
  unfold load releaseRealm
  cases hr : s.realm <;>
    (dsimp only
     split
     · simp [isLoaded, hr, Except.isOk, Except.toBool]
     · split
       · simp [isLoaded, hr, Except.isOk, Except.toBool]
       · split <;> simp [isLoaded, hr, Except.isOk, Except.toBool])

/-- A frame without a cartridge is empty and no fault. -/
theorem invoke_unloaded {s : Sandbox} (h : s.isLoaded = false) (delta : Float)
    (input : InputSnapshot) : s.invoke delta input = (.empty, s, [.nothingToInvoke]) := by
  have hr : s.realm = none := by simpa [isLoaded] using h
  unfold invoke
  split
  · rename_i _ _ _ hs
    simp [hr] at hs
  · rfl

end Sandbox

end Handheld
