import Handheld.Json.Decimal
import Handheld.Text.Hex

/-!
# Reading JSON text

The reader works on the characters of one text. Each step hands on what follows; the number of
characters bounds the depth and the count of steps, so the bound never shows.

A member named twice keeps its first place and takes its last value.
-/

namespace Handheld.Json

def skipBlanks (cs : List Char) : List Char :=
  cs.dropWhile fun c => c = ' ' ∨ c = '\n' ∨ c = '\t' ∨ c = '\r'

def hexFour? : List Char → Option (Nat × List Char)
  | a :: b :: c :: d :: rest => do
    let n := ((← Text.hexValue? a) * 16 + (← Text.hexValue? b)) * 256
      + ((← Text.hexValue? c) * 16 + (← Text.hexValue? d))
    return (n, rest)
  | _ => none

/-- The character after `\u`, which may take a second such escape. -/
def unicode? (cs : List Char) : Option (Char × List Char) := do
  let (high, rest) ← hexFour? cs
  if 0xD800 ≤ high ∧ high < 0xDC00 then
    match rest with
    | '\\' :: 'u' :: more =>
      let (low, rest) ← hexFour? more
      guard (0xDC00 ≤ low ∧ low < 0xE000)
      return (Char.ofNat (0x10000 + (high - 0xD800) * 1024 + (low - 0xDC00)), rest)
    | _ => none
  else if 0xDC00 ≤ high ∧ high < 0xE000 then none
  else return (Char.ofNat high, rest)

def letterEscape? (c : Char) : Option Char :=
  if c = 'n' then some '\n'
  else if c = 't' then some '\t'
  else if c = 'r' then some '\r'
  else if c = 'b' then some (Char.ofNat 8)
  else if c = 'f' then some (Char.ofNat 12)
  else if c = '"' ∨ c = '\\' ∨ c = '/' then some c
  else none

/-- The text up to the closing quote, collected in reverse. -/
def textTail? : Nat → List Char → List Char → Option (String × List Char)
  | 0, _, _ => none
  | fuel + 1, found, cs =>
    match cs with
    | '"' :: rest => some (String.ofList found.reverse, rest)
    | '\\' :: 'u' :: rest =>
      match unicode? rest with
      | some (c, rest) => textTail? fuel (c :: found) rest
      | none => none
    | '\\' :: e :: rest =>
      match letterEscape? e with
      | some c => textTail? fuel (c :: found) rest
      | none => none
    | c :: rest => if c.toNat < 32 then none else textTail? fuel (c :: found) rest
    | [] => none

/-- Drops a word from the head of a text. -/
def word? (w : String) (cs : List Char) : Option (List Char) :=
  if w.toList.isPrefixOf cs then some (cs.drop w.length) else none

mutual

/-- The value at the head of a text, and what follows it. -/
def value? : Nat → List Char → Option (Json × List Char)
  | 0, _ => none
  | fuel + 1, cs =>
    match skipBlanks cs with
    | '"' :: rest => (textTail? (rest.length + 1) [] rest).map fun p => (.text p.1, p.2)
    | '[' :: rest =>
      match skipBlanks rest with
      | ']' :: rest => some (.list [], rest)
      | rest => (items? fuel rest).map fun p => (.list p.1, p.2)
    | '{' :: rest =>
      match skipBlanks rest with
      | '}' :: rest => some (.object [], rest)
      | rest => (members? fuel [] rest).map fun p => (.object p.1, p.2)
    | 'n' :: rest => (word? "ull" rest).map fun r => (.null, r)
    | 't' :: rest => (word? "rue" rest).map fun r => (.bool true, r)
    | 'f' :: rest => (word? "alse" rest).map fun r => (.bool false, r)
    | rest => (number? rest).map fun p => (.number p.1, p.2)

def items? : Nat → List Char → Option (List Json × List Char)
  | 0, _ => none
  | fuel + 1, cs =>
    match value? fuel cs with
    | none => none
    | some (v, rest) =>
      match skipBlanks rest with
      | ',' :: rest => (items? fuel rest).map fun p => (v :: p.1, p.2)
      | ']' :: rest => some ([v], rest)
      | _ => none

/-- The members up to the closing brace, added to those already read. -/
def members? : Nat → Members → List Char → Option (Members × List Char)
  | 0, _, _ => none
  | fuel + 1, found, cs =>
    match skipBlanks cs with
    | '"' :: rest =>
      match textTail? (rest.length + 1) [] rest with
      | none => none
      | some (key, rest) =>
        match skipBlanks rest with
        | ':' :: rest =>
          match value? fuel rest with
          | none => none
          | some (v, rest) =>
            let found := Entries.insert found key v
            match skipBlanks rest with
            | ',' :: rest => members? fuel found rest
            | '}' :: rest => some (found, rest)
            | _ => none
        | _ => none
    | _ => none

end

/-- The value that a text is, with nothing but blanks around it. -/
def read? (s : String) : Option Json :=
  let cs := s.toList
  match value? (cs.length + 1) cs with
  | some (v, rest) => if (skipBlanks rest).isEmpty then some v else none
  | none => none

end Handheld.Json
