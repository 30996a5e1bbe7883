import Handheld.Number.Numeral
import Handheld.Settings.Value
import Handheld.Text.Split
import Handheld.Toml.Text

/-!
# Settings in the environment

A variable whose name begins with the prefix, in any case, is a setting. The rest of its name,
in lower case, is the name of the setting, where a dot leads into a table.

Its text is read as a truth value, a table in braces, a list in brackets, a text in quotes, a
character in single quotes or a number. A text that is none of these as a whole is taken as it
is.

## Contents

* `variableName?`: the setting that a variable is.
* `setting`: what its text stands for.

## Main statements

* `variableName?_prefix`: the bare prefix names no setting.
-/

namespace Handheld.Environment

open Handheld.Text Handheld.Text.Reader

def namePrefix : String := "QUICKCART_"

def lowered (cs : List Char) : List Char := cs.map Char.toLower

/-- The setting that a variable is, by its name. -/
def variableName? (name : String) : Option String :=
  let cs := lowered (trimList name.toList)
  let start := lowered namePrefix.toList
  if start.isPrefixOf cs then
    let rest := trimList (cs.drop start.length)
    if rest.isEmpty then none else some (String.ofList rest)
  else none

/-- A blank around values. -/
def isSpace (c : Char) : Bool :=
  c = ' ' || c = '\t' || c = '\n' || c = '\r' || c.toNat = 12

/-- Blanks, if any. -/
def spaces : Reader Unit := do let _ ← run isSpace

/-- A character that ends what is not quoted. -/
def isSeparator (c : Char) : Bool :=
  c = ',' || c = '\x7b' || c = '\x7d' || c = '[' || c = ']'

/-- What a text without quotes stands for. -/
def bare (s : String) : Setting :=
  match Number.register? s with
  | .ok n => .unsigned n
  | .error _ =>
    match Number.signedRegister? s with
    | some n => .signed n
    | none =>
      match Number.decimal? s with
      | some x => .real x
      | none => .text s

/-- Items between a comma each, up to a closing character. A comma may stand before it. -/
def closedBy {α : Type} (closing : Char) (item : Reader α) : Nat → Reader (List α)
  | 0 => fail
  | n + 1 => do
    if (← get).head? = some closing then
      let _ ← char closing
      return []
    else
      let first ← item
      match ← optional (char ',') with
      | some _ => return first :: (← closedBy closing item n)
      | none =>
        let _ ← char closing
        return [first]

/-- Items in brackets of some kind. -/
def enclosed {α : Type} (opening closing : Char) (item : Reader α) : Reader (List α) := do
  let _ ← char opening
  closedBy closing item ((← get).length + 1)

def entryName : Reader String := do
  if (← get).head? = some '"' then Toml.quotedText
  else String.ofList <$> run1 fun c => c.isAlphanum || c = '_' || c = '-'

/-- An entry of a table, given the reader of values. -/
def entry (item : Reader Setting) : Reader (String × Setting) := do
  spaces
  let name ← entryName
  spaces
  let _ ← char '='
  spaces
  let s ← item
  spaces
  return (name, s)

/-- A table of entries; the last one of a name counts. -/
def tableOf (found : List (String × Setting)) : Setting :=
  .table (found.foldl (fun es e => Entries.insert es e.1 e.2) [])

/-- A value, up to a depth of tables and lists. -/
def value : Nat → Reader Setting
  | 0 => fail
  | depth + 1 => do
    spaces
    let s ← orElse (do literal "true"; return .bool true)
      (orElse (do literal "false"; return .bool false) (do
        match (← get).head? with
        | some '\x7b' => tableOf <$> enclosed '\x7b' '\x7d' (entry (value depth))
        | some '[' => Setting.list <$> enclosed '[' ']' (value depth)
        | some '"' => Setting.text <$> Toml.quotedText
        | some '\'' =>
          let _ ← char '\''
          let c ← one fun _ => true
          let _ ← char '\''
          return .char c
        | _ => (fun cs => bare (trim (String.ofList cs))) <$> run fun c => !isSeparator c))
    spaces
    return s

/-- A value and nothing behind it. -/
def whole : Reader Setting := do
  let s ← value ((← get).length + 1)
  atEnd
  return s

/-- What the text of a variable stands for. -/
def setting (s : String) : Setting :=
  match whole.read? s with
  | .ok setting => setting
  | .error _ => .text s

/-- The settings of variables; a later one lies over an earlier one. -/
def settings (env : List (String × String)) : Entries Setting :=
  env.foldl (fun es v =>
    match variableName? v.1 with
    | none => es
    | some name =>
      match (setting v.2).under name with
      | .table more => Setting.entriesLaidOn es more
      | _ => es) []

/-- The bare prefix names no setting. -/
theorem variableName?_prefix : variableName? namePrefix = none := by decide +kernel

end Handheld.Environment
