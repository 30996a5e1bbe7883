import Handheld.Guest.Program
import Handheld.Json.Reader
import Handheld.Text.Split

/-!
# Reading scripted cartridges

A scripted cartridge is written as JSON. Its members `metadata` and `resources` hold entries,
`update` holds the list `frames` of entries and whether to start over after the last, and `top`
holds the entry that runs when the text is evaluated. An object with the member `$` stands for
a value that JSON cannot write.

Reading never fails: what is missing does nothing, and a text that is no JSON is a cartridge
whose text cannot be evaluated.
-/

namespace Handheld.Guest

/-- The function that a special value stands for, and its text. -/
def functionText : String := "function () \x7b return 1; \x7d"

def specialKind? (ms : Json.Members) : Option String :=
  (Entries.get? ms "$").bind Json.text?

def countMember (ms : Json.Members) (key : String) : Nat :=
  match Entries.get? ms key with
  | some (.number (.whole n)) => n.toNat
  | _ => 0

def textMember (ms : Json.Members) (key : String) : String :=
  ((Entries.get? ms key).bind Json.text?).getD ""

/-- The special value of a kind. The expressions of its members are already read. -/
def specialExpr (kind : String) (ms : Json.Members) (read : List (String × Expr)) : Expr :=
  let inner := ((read.find? fun m => m.1 == "value").map Prod.snd).getD (.value .null)
  match kind with
  | "NaN" => .value (.number (0.0 / 0.0))
  | "Infinity" => .value (.number (1.0 / 0.0))
  | "-Infinity" => .value (.number (-1.0 / 0.0))
  | "-0" => .value (.number (-0.0))
  | "function" => .value (.function functionText)
  | "symbol" => .value (.symbol "s")
  | "bigint" => .value (.bigint 10)
  | "circular" => .value .circular
  | "lone_surrogate" => .value .halfCharacter
  | "throwing_getter" => .value (.trap "getter")
  | "to_json" => .writtenAs inner
  | "nest" => .nested (countMember ms "depth") inner
  | "repeat" => .repeated (countMember ms "count") inner
  | "index" => .index
  | "frame" => .call
  | "delta" => .delta
  | "delta_ns" => .deltaNanos
  | "input" => .input (textMember ms "name")
  | "input_keys" => .inputNames
  | "input_json" => .inputText
  | _ => .value .undefined

mutual

def Expr.ofJson : Json → Expr
  | .null => .value .null
  | .bool b => .value (.bool b)
  | .number n => .value (.number n.toFloat)
  | .text s => .value (.text s)
  | .list items => .list (exprItems items)
  | .object ms =>
    let read := exprMembers ms
    match specialKind? ms with
    | some kind => specialExpr kind ms read
    | none => .object read

def exprItems : List Json → List Expr
  | [] => []
  | v :: vs => Expr.ofJson v :: exprItems vs

def exprMembers : List (String × Json) → List (String × Expr)
  | [] => []
  | (key, v) :: ms => (key, Expr.ofJson v) :: exprMembers ms

end

def consoleLevel (method : String) : Log.Level :=
  match method with
  | "debug" => .debug
  | "warn" => .warn
  | "error" => .error
  | _ => .info

/-- A console call: the method and its arguments. -/
def consoleCall? : Json → Option (Log.Level × List Expr)
  | .list (.text method :: args) => some (consoleLevel method, exprItems args)
  | _ => none

def consoleCalls : Option Json → List (Log.Level × List Expr)
  | some (.list calls) => calls.filterMap consoleCall?
  | _ => []

/-- Whether a member is the word true. -/
def isMarked (ms : Json.Members) (key : String) : Bool :=
  match Entries.get? ms key with
  | some (.bool b) => b
  | _ => false

/-- What an entry does after its console calls. -/
def actionOf (ms : Json.Members) : Action :=
  if isMarked ms "loop" then .loop
  else if isMarked ms "recurse" then .recurse
  else
    match Entries.get? ms "throw" with
    | some v => .throwValue (.ofJson v)
    | none =>
      match Entries.get? ms "throw_error" with
      | some (.list [.text name, .text message]) => .throwError name message
      | _ =>
        match Entries.get? ms "return" with
        | some v => .give (.ofJson v)
        | none => .give (.value .undefined)

def entryOf (ms : Json.Members) : Entry :=
  { console := consoleCalls (Entries.get? ms "console"), action := actionOf ms }

def isFunction : Json → Bool
  | .object ms => specialKind? ms == some "function"
  | _ => false

/-- The entry that a value is; none if there is nothing to call. -/
def callable? : Json → Option Entry
  | .object ms =>
    match Entries.get? ms "value" with
    | some v => if isFunction v then some (Program.giving (.ofNat 1)) else none
    | none => some (entryOf ms)
  | _ => none

/-- The entries that the frames of `update` are. -/
def playlistOf (ms : Json.Members) : Playlist :=
  { entries :=
      match Entries.get? ms "frames" with
      | some (.list frames) => frames.map fun f => (callable? f).getD {}
      | _ => []
    loops := textMember ms "then" == "loop" }

/-- The frames of `update`; none if there is nothing to call. -/
def playlist? : Json → Option Playlist
  | .object ms =>
    match Entries.get? ms "value" with
    | some v => if isFunction v then some { entries := [Program.giving (.ofNat 1)] } else none
    | none => some (playlistOf ms)
  | _ => none

/-- Whether an entry point is declared where it can be found. -/
def isVisible (declared : Option Json) (name : String) : Bool :=
  let way := match declared with
    | some (.text s) => s
    | some (.object ms) => textMember ms name
    | _ => ""
  way ≠ "let" && way ≠ "const"

/-- What happens when the text is evaluated. -/
def openingOf : Option Json → Opening
  | some (.object ms) =>
    if isMarked ms "syntax_error" then .malformed else .runs (entryOf ms)
  | _ => .runs {}

def scriptOf (ms : Json.Members) : Script :=
  let declared := Entries.get? ms "declare"
  let point (name : String) : Option Json :=
    if isVisible declared name then Entries.get? ms name else none
  { metadata := (point "metadata").bind callable?
    resources := (point "resources").bind callable?
    update := (point "update").bind playlist?
    opening := openingOf (Entries.get? ms "top") }

def Program.ofJson : Json → Program
  | .object ms =>
    match (Entries.get? ms "bundled").bind Json.text? with
    | some name =>
      match Bundled.ofName? name with
      | some g => .bundled g
      | none => .script (scriptOf ms)
    | none => .script (scriptOf ms)
  | _ => .script { opening := .malformed }

/-- The program that a text is. A blank text is a program that defines nothing. -/
def Program.ofText (text : String) : Program :=
  if text.toList.all Text.isBlank then .script {}
  else
    match Json.read? text with
    | some v => .ofJson v
    | none => .script { opening := .malformed }

/-- The cartridge that a JSON value is, under a name. -/
def Cartridge.ofJson (name : String) (v : Json) : Cartridge :=
  { name := name
    size := v.compact.utf8ByteSize
    program := .ofJson v
    perishable := match v with
      | .object ms => isMarked ms "expires"
      | _ => false }

/-- The cartridge that a text is: one of the bundled games, or whatever the text says. -/
def Cartridge.ofText (name text : String) : Cartridge :=
  match Bundled.all.find? fun g => g.text == text with
  | some g => g.cartridge
  | none => { name := name, size := text.utf8ByteSize, program := .ofText text }

end Handheld.Guest
