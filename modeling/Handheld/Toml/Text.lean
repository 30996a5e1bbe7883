import Handheld.Text.Hex
import Handheld.Text.Reader

/-!
# Texts in settings files

A settings file is written in TOML. This file reads its smallest parts: blanks, line ends,
comments, and the four ways to write a text.

A text stands in double quotes, where a backslash escapes, or in single quotes, where nothing
does. Three quotes instead of one let it go over several lines; a line end right after the
opening quotes is not part of it, and a backslash at the end of a line drops the blanks and line
ends that follow.

## Contents

* `blanks`, `newline`, `lineEnd`, `comment`, `gap`: what stands between values.
* `text`: a text in any of the four ways.
* `quotedText`, `literalText`: the two ways that a key may take.
-/

namespace Handheld.Toml

open Handheld.Text Handheld.Text.Reader

def isBlank (c : Char) : Bool := c = ' ' || c = '\t'

/-- A character that may stand in a comment or between single quotes, quotes included. -/
def isPlain (c : Char) : Bool := c = '\t' || (32 ≤ c.toNat && c.toNat ≠ 127)

def blanks : Reader Unit := do let _ ← run isBlank

/-- The end of a line. -/
def newline : Reader Unit :=
  orElse (do let _ ← char '\n') (do let _ ← char '\r'; let _ ← char '\n')

/-- The end of a line or of the file. -/
def lineEnd : Reader Unit := orElse newline atEnd

def comment : Reader Unit := do
  let _ ← char '#'
  let _ ← run isPlain

/-- What may stand behind a statement. -/
def lineRest : Reader Unit := do
  blanks
  let _ ← optional comment
  lineEnd

/-- Blanks, comments and line ends, up to a number of lines. -/
def gapUpTo : Nat → Reader Unit
  | 0 => blanks
  | n + 1 => do
    blanks
    match (← get).head? with
    | some '#' => comment; newline; gapUpTo n
    | some '\n' => newline; gapUpTo n
    | some '\r' => newline; gapUpTo n
    | _ => pure ()

/-- Blanks, comments and line ends, if any. -/
def gap : Reader Unit := do gapUpTo (← get).length

/-- A character that stands for itself between double quotes. -/
def isUnescaped (c : Char) : Bool := isPlain c && c ≠ '"' && c ≠ '\\'

/-- A character that stands for itself between single quotes. -/
def isLiteral (c : Char) : Bool := isPlain c && c ≠ '\''

/-- The character of a number, if there is one. -/
def scalar? (n : Nat) : Option Char :=
  if n.isValidChar then some (Char.ofNat n) else none

def numbered (digits : Nat) : Reader Char :=
  checked (exactly digits fun c => (hexValue? c).isSome) fun cs => (hexNumber? cs).bind scalar?

def escaped : Reader Char := do
  let _ ← char '\\'
  match ← one fun _ => true with
  | 'b' => return Char.ofNat 8
  | 'f' => return Char.ofNat 12
  | 'n' => return '\n'
  | 'r' => return '\r'
  | 't' => return '\t'
  | '"' => return '"'
  | '\\' => return '\\'
  | 'u' => committed (numbered 4)
  | 'U' => committed (numbered 8)
  | _ => committed fail

/-- A piece of a text between double quotes. -/
def quotedPiece : Reader (List Char) :=
  orElse (run1 isUnescaped) ((fun c => [c]) <$> escaped)

def quotedText : Reader String := do
  let _ ← char '"'
  let pieces ← repeated quotedPiece
  let _ ← committed (char '"')
  return String.ofList pieces.flatten

def literalText : Reader String := do
  let _ ← char '\''
  let cs ← run isLiteral
  let _ ← committed (char '\'')
  return String.ofList cs

/-- A line end that a backslash takes out of a text, with the blanks after it. -/
def joint : Reader (List Char) := do
  let _ ← char '\\'
  blanks
  newline
  let _ ← repeated (orElse newline (do let _ ← run1 isBlank))
  return []

def brokenLine : Reader (List Char) := do newline; return ['\n']

/-- A piece of a text between three double quotes. -/
def longPiece : Reader (List Char) :=
  orElse (run1 isUnescaped)
    (orElse joint (orElse ((fun c => [c]) <$> escaped) brokenLine))

/-- A piece of a text between three single quotes. -/
def longLiteralPiece : Reader (List Char) := orElse (run1 isLiteral) brokenLine

/-- One or two quotes that are part of a text, because something certain follows them. -/
def innerQuotes {α : Type} (quote : Char) (next : Reader α) : Reader (List Char) :=
  orElse (do let _ ← exactly 2 (· == quote); let _ ← ahead next; return [quote, quote])
    (do let _ ← char quote; let _ ← ahead next; return [quote])

/-- A text between three quotes, given its pieces. -/
def longText (quote : Char) (piece : Reader (List Char)) : Reader String := do
  let three := exactly 3 (· == quote)
  let _ ← three
  let _ ← optional newline
  let body : Reader (List Char) := do
    let first ← repeated piece
    let more ← repeated (do
      let quotes ← innerQuotes quote piece
      return quotes ++ (← repeated piece).flatten)
    let last ← optional (innerQuotes quote three)
    return first.flatten ++ more.flatten ++ last.getD []
  let cs ← committed body
  let _ ← committed three
  return String.ofList cs

/-- A text in any of the four ways. -/
def text : Reader String :=
  orElse (longText '"' longPiece)
    (orElse quotedText (orElse (longText '\'' longLiteralPiece) literalText))

end Handheld.Toml
