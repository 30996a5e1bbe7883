import Handheld.Toml.Document
import Handheld.Toml.Number
import Handheld.Toml.Text

/-!
# Reading settings files

A file is a list of statements, one a line: a key and its value, the header of a table, or
nothing. A comment may end any line. Lists may go over several lines; tables in braces may not.

A malformed file is refused as a whole. What is told is the line and the column of the place
where reading could not go on. A statement that is well formed but contradicts an earlier one is
refused at its first character.

## Contents

* `key`, `value`, `statement`: the parts of a file.
* `Position.ofFault`: the place of a fault.
* `read?`: the settings of a file.
-/

namespace Handheld.Toml

open Handheld.Text Handheld.Text.Reader

/-- How deep values and dotted keys may nest. -/
def deepest : Nat := 79

def keyPart : Reader String := do
  match (← get).head? with
  | some '"' => quotedText
  | some '\'' => literalText
  | _ => String.ofList <$> run1 fun c => c.isAlphanum || c = '-' || c = '_'

/-- A key, as the parts between its points. -/
def key : Reader (List String) :=
  checked (separated (do blanks; let part ← keyPart; blanks; return part) (char '.'))
    fun parts => if parts.length ≤ deepest then some parts else none

/-- The items of a list, given the reader of one. -/
def items (item : Reader Setting) : Reader (List Setting) := do
  if (← get).head? = some ']' then return []
  else
    let spaced : Reader Setting := do gap; let s ← item; gap; return s
    let found ← orElse (separated spaced (char ',')) (pure [])
    let _ ← optional (char ',')
    gap
    return found

/-- A key with its value in braces, given the reader of values. -/
def pair (item : Reader Setting) : Reader (List String × Setting) := do
  let path ← key
  committed do
    let _ ← char '='
    blanks
    let s ← item
    blanks
    return (path, s)

/-- The pairs of a table in braces, given the reader of values. -/
def pairs (item : Reader Setting) : Reader (List (List String × Setting)) := do
  let found ← orElse (separated (pair item) (char ',')) (pure [])
  blanks
  return found

def list (item : Reader Setting) : Reader Setting := do
  let _ ← char '['
  let found ← committed (items item)
  let _ ← committed (char ']')
  return .list found

def inlineTable (item : Reader Setting) : Reader Setting := do
  let _ ← char '{'
  let found ← committed (checked (pairs item) tableOf?)
  let _ ← committed (char '}')
  return found

/-- A value, given the reader of the values in it. -/
def valueWith (item : Reader Setting) : Reader Setting := do
  match (← get).head? with
  | none => fail
  | some c =>
    if c = '"' || c = '\'' then Setting.text <$> text
    else if c = '[' then list item
    else if c = '\x7b' then inlineTable item
    else if c.isDigit || c = '+' || c = '-' then number
    else if c = '_' then whole
    else if c = '.' || c = 'i' || c = 'n' then real
    else if c = 't' then committed (do literal "true"; return .bool true)
    else if c = 'f' then committed (do literal "false"; return .bool false)
    else fail

/-- A value that nests no deeper than a number of levels. -/
def valueUpTo : Nat → Reader Setting
  | 0 => valueWith fail
  | n + 1 => valueWith (valueUpTo n)

def value : Reader Setting := valueUpTo deepest

/-- A key with its value on a line of its own. -/
def keyLine : Reader (List String × Setting) := do
  let path ← key
  committed do
    let _ ← char '='
    blanks
    let s ← value
    lineRest
    return (path, s)

def header (opening closing : String) : Reader (List String) := do
  literal opening
  let path ← committed key
  committed (literal closing)
  committed lineRest
  return path

def statement (d : Document) : Reader Document := do
  match (← get) with
  | '#' :: _ => comment; lineEnd; return d
  | '\n' :: _ => newline; return d
  | '\r' :: _ => orElse newline fail; return d
  | ['['] => fail
  | '[' :: '[' :: _ => checked (header "[[" "]]") d.append?
  | '[' :: _ => checked (header "[" "]") d.open?
  | _ => checked keyLine fun p => d.add? p.1 p.2

/-- The statements of a text, up to a number of them. -/
def statementsUpTo : Nat → Document → Reader Document
  | 0, d => return d
  | n + 1, d => do
    blanks
    if (← get).isEmpty then return d
    else statementsUpTo n (← statement d)

def statements : Reader Document := do
  let cs ← get
  if cs.head? = some '\ufeff' then set cs.tail
  statementsUpTo (cs.length + 1) {}

/-- A place in a text, counted from one. -/
structure Position where
  line : Nat
  column : Nat
  deriving Repr, DecidableEq

namespace Position

/-- The part of a text after its last line end. -/
def lastLine (cs : List Char) : List Char :=
  (cs.reverse.takeWhile (· ≠ '\n')).reverse

/-- The place behind the characters of a text, given the character that follows. Columns count
characters; before a character outside ASCII they count bytes. The end of a text belongs to the
line of its last character, even if that is a line end. -/
def behind (before : List Char) : Option Char → Position
  | some c =>
    let line := lastLine before
    let width := if c.toNat < 128 then line.length else (String.ofList line).utf8ByteSize
    ⟨before.count '\n' + 1, width + 1⟩
  | none =>
    let shown := before.dropLast
    ⟨shown.count '\n' + 1, (lastLine shown).length + min before.length 1 + 1⟩

/-- The place of a fault in a text. -/
def ofFault (s : String) (f : Fault) : Position :=
  behind (s.toList.take (s.length - f.rest.length)) f.rest.head?

end Position

/-- The settings of a file, or the place where it is malformed. -/
def read? (s : String) : Except Position (Entries Setting) :=
  match statements.read? s with
  | .ok d => .ok (entrySettings d.root)
  | .error f => .error (.ofFault s f)

end Handheld.Toml
