import Handheld.Guest.Value
import Handheld.Input
import Handheld.Log.Filter

/-!
# Scripted cartridges

A scripted cartridge says as data what its entry points do. An entry writes lines to the
console and then returns, throws, recurses without end or loops without end. What it returns is
an expression, which may refer to the number of the call, to the time step and to the input.

The entries of `update` are played in order; after the last one either the last repeats or the
list starts over.

## Contents

* `Scope`, `Expr`, `Expr.eval`: expressions and their values.
* `Entry`, `Entry.run`: what a call does.
* `Script`: the entry points of a cartridge.

## Main statements

* `entryAt_within`: a call plays its own entry.
-/

namespace Handheld.Guest

/-- What an expression may refer to. -/
structure Scope where
  /-- The number of the call, counted from one since the load. -/
  call : Nat := 0
  /-- The time step in seconds. -/
  delta : Float := 0
  /-- The fields of the input. -/
  input : List (String × Bool) := []
  /-- The number of the element in a repeated list. -/
  index : Nat := 0

/-- An expression of a scripted cartridge. -/
inductive Expr
  | value (v : Value)
  | list (items : List Expr)
  | object (members : List (String × Expr))
  /-- A value inside lists of one element. -/
  | nested (depth : Nat) (inner : Expr)
  /-- A list of values that may depend on their number. -/
  | repeated (count : Nat) (inner : Expr)
  /-- An object that says itself what it is to be written as. -/
  | writtenAs (inner : Expr)
  | index
  | call
  | delta
  /-- The time step in whole nanoseconds. -/
  | deltaNanos
  | input (name : String)
  | inputNames
  | inputText

instance : Inhabited Expr := ⟨.value .undefined⟩

namespace Scope

/-- Whether a field of the input is there and on. -/
def isOn (s : Scope) (name : String) : Bool :=
  s.input.any fun f => f.1 == name && f.2

/-- A field of the input as a value. -/
def field (s : Scope) (name : String) : Value :=
  match s.input.find? fun f => f.1 == name with
  | some f => .ofNat f.2.toNat
  | none => .undefined

def inputText (s : Scope) : String :=
  Json.compact (.object (s.input.map fun f => (f.1, .number (.whole f.2.toNat))))

end Scope

/-- A value inside lists of one element. -/
def nest : Nat → Value → Value
  | 0, v => v
  | depth + 1, v => .list [nest depth v]

mutual

def Expr.eval (s : Scope) : Expr → Value
  | .value v => v
  | .list items => .list (evalItems s items)
  | .object members => .ofMembers (evalMembers s members)
  | .nested depth inner => nest depth (inner.eval s)
  | .repeated count inner =>
    .list ((List.range count).map fun i => inner.eval { s with index := i })
  | .writtenAs inner => .writtenAs (inner.eval s)
  | .index => .ofNat s.index
  | .call => .ofNat s.call
  | .delta => .number s.delta
  | .deltaNanos => .number (Number.nearestUpFloat (s.delta * 1e9))
  | .input name => s.field name
  | .inputNames => .text (",".intercalate (s.input.map Prod.fst))
  | .inputText => .text s.inputText

/-- The values of the elements of a list. -/
def evalItems (s : Scope) : List Expr → List Value
  | [] => []
  | e :: es => e.eval s :: evalItems s es

/-- The values of the members of an object. -/
def evalMembers (s : Scope) : List (String × Expr) → List (String × Value)
  | [] => []
  | (key, e) :: ms => (key, e.eval s) :: evalMembers s ms

end

/-- What a call threw: an error with its constructor's name, or any other value. -/
inductive Thrown
  | error (name message : String)
  | value (v : Value)

/-- How a call ended. -/
inductive Completion
  | returned (v : Value)
  | thrown (t : Thrown)
  /-- The call never ends by itself; the budget ends it. -/
  | endless

instance : Inhabited Completion := ⟨.returned .undefined⟩

/-- A console line and its level. -/
structure ConsoleLine where
  level : Log.Level
  text : String
  deriving Repr, DecidableEq

/-- What a call wrote to the console and how it ended. -/
structure Run where
  lines : List ConsoleLine := []
  completion : Completion

/-- What an entry does after its console lines. -/
inductive Action
  | loop
  | recurse
  | throwError (name message : String)
  | throwValue (e : Expr)
  | give (e : Expr)

/-- What an entry point does when it is called. -/
structure Entry where
  console : List (Log.Level × List Expr) := []
  action : Action := .give (.value .undefined)

instance : Inhabited Entry := ⟨{}⟩

/-- What a recursion without end throws. -/
def stackOverflow : Thrown := .error "RangeError" "Maximum call stack size exceeded"

def symbolRefused : Thrown := .error "TypeError" "cannot convert symbol to string"

/-- What handing half a character to the console throws; the text before it is intact. -/
def textRefused (before : String) : Thrown :=
  .error "TypeError"
    ("Conversion from string failed: invalid utf-8 sequence of 1 bytes from index "
      ++ Nat.repr before.utf8ByteSize)

/-- The texts of console arguments, or why there are none. -/
def consoleTexts : List Value → Except Thrown (List String)
  | [] => .ok []
  | v :: vs =>
    match v.coerce? with
    | none => .error symbolRefused
    | some c =>
      if c.broken then
        .error (textRefused (String.ofList (c.text.toList.takeWhile fun x => x ≠ '\ufffd')))
      else (consoleTexts vs).map (c.text :: ·)

def Action.complete (s : Scope) : Action → Completion
  | .loop => .endless
  | .recurse => .thrown stackOverflow
  | .throwError name message => .thrown (.error name message)
  | .throwValue e => .thrown (.value (e.eval s))
  | .give e => .returned (e.eval s)

/-- Writes console lines and then ends like the action; a line that cannot be written throws. -/
def runFrom (s : Scope) (action : Action) : List (Log.Level × List Expr) → Run
  | [] => { completion := action.complete s }
  | (level, args) :: rest =>
    match consoleTexts (evalItems s args) with
    | .error t => { completion := .thrown t }
    | .ok texts =>
      let later := runFrom s action rest
      { later with lines := ⟨level, " ".intercalate texts⟩ :: later.lines }

def Entry.run (s : Scope) (e : Entry) : Run :=
  runFrom s e.action e.console

/-- The entries of successive calls, and whether they start over after the last. -/
structure Playlist where
  entries : List Entry := []
  loops : Bool := false

/-- The entry of the call with a number, counted from one. -/
def Playlist.entryAt (p : Playlist) (call : Nat) : Entry :=
  let place := call - 1
  let n := p.entries.length
  (p.entries[if p.loops then place % n else min place (n - 1)]?).getD {}

/-- How the text of a cartridge is evaluated. -/
inductive Opening
  /-- The text is read, and something runs at its end. -/
  | runs (e : Entry)
  /-- The text cannot be read. -/
  | malformed

/-- The entry points of a scripted cartridge; an entry point may be missing. -/
structure Script where
  metadata : Option Entry := none
  resources : Option Entry := none
  update : Option Playlist := none
  opening : Opening := .runs {}

/-- Within the list a call plays its own entry. -/
theorem entryAt_within (p : Playlist) {n : Nat} (h : n < p.entries.length) :
    p.entryAt (n + 1) = p.entries[n] := by
  unfold Playlist.entryAt
  have hm : min n (p.entries.length - 1) = n := by omega
  simp [hm, Nat.mod_eq_of_lt h, h]

end Handheld.Guest
