/-!
# Readers

A reader takes characters from the front of a text and gives what they stand for. It can fail,
and then tells where: the fault holds what was left of the text at that place.

A fault is final or not. After one that is not, another way to read the same place may be
tried; a final one ends the whole reading. A reader turns its faults final once it knows that
no other way can succeed, so that the place of the fault is the one that tells the writer most.
-/

namespace Handheld.Text

/-- Where a reading failed, and whether another way may be tried. -/
structure Fault where
  /-- The text from the place of the fault on. -/
  rest : List Char
  final : Bool
  deriving Repr, DecidableEq

abbrev Reader := StateT (List Char) (Except Fault)

namespace Reader

variable {α β : Type}

def fail : Reader α := fun cs => .error ⟨cs, false⟩

/-- Turns faults final. -/
def committed (r : Reader α) : Reader α := fun cs =>
  match r cs with
  | .error f => .error { f with final := true }
  | .ok result => .ok result

/-- Reads the same place in a second way, unless the first succeeds or fails for good. -/
def orElse (first second : Reader α) : Reader α := fun cs =>
  match first cs with
  | .error f => if f.final then .error f else second cs
  | .ok result => .ok result

/-- Reads what may be left out. -/
def optional (r : Reader α) : Reader (Option α) :=
  orElse (some <$> r) (pure none)

def one (p : Char → Bool) : Reader Char
  | [] => .error ⟨[], false⟩
  | c :: cs => if p c then .ok (c, cs) else .error ⟨c :: cs, false⟩

def char (c : Char) : Reader Char := one (· == c)

/-- All characters of a class from here on. -/
def run (p : Char → Bool) : Reader (List Char) := fun cs =>
  .ok (cs.takeWhile p, cs.dropWhile p)

/-- All characters of a class from here on, at least one. -/
def run1 (p : Char → Bool) : Reader (List Char) := do
  let first ← one p
  return first :: (← run p)

/-- Certain characters in a row, or nothing of them. -/
def literal (text : String) : Reader Unit := fun cs =>
  if text.toList.isPrefixOf cs then .ok ((), cs.drop text.length) else .error ⟨cs, false⟩

/-- A number of characters of a class, or nothing of them. -/
def exactly (n : Nat) (p : Char → Bool) : Reader (List Char) := fun cs =>
  if (cs.take n).length = n ∧ (cs.take n).all p then .ok (cs.take n, cs.drop n)
  else .error ⟨cs, false⟩

def atEnd : Reader Unit
  | [] => .ok ((), [])
  | cs => .error ⟨cs, false⟩

def ahead (r : Reader α) : Reader α := fun cs =>
  (r cs).map fun result => (result.1, cs)

/-- Refuses some of what it reads, at the place where that began. -/
def checked (r : Reader α) (f : α → Option β) : Reader β := fun cs =>
  match r cs with
  | .error fault => .error fault
  | .ok (a, rest) =>
    match f a with
    | some b => .ok (b, rest)
    | none => .error ⟨cs, false⟩

/-- Refuses for good some of what it reads, at the place where that began. -/
def settled (r : Reader α) (f : α → Option β) : Reader β := fun cs =>
  match r cs with
  | .error fault => .error fault
  | .ok (a, rest) =>
    match f a with
    | some b => .ok (b, rest)
    | none => .error ⟨cs, true⟩

/-- Reads the same thing a number of times at most, as long as it is there. -/
def repeatedUpTo (r : Reader α) : Nat → Reader (List α)
  | 0 => pure []
  | n + 1 => fun cs =>
    match r cs with
    | .error f => if f.final then .error f else .ok ([], cs)
    | .ok (a, rest) => (repeatedUpTo r n rest).map fun result => (a :: result.1, result.2)

/-- Reads the same thing as long as it is there. Every time takes a character, so that the
length of the text bounds the count. -/
def repeated (r : Reader α) : Reader (List α) := fun cs =>
  repeatedUpTo r (cs.length + 1) cs

/-- Things with separators between them. A separator that nothing follows is not taken. -/
def separated (r : Reader α) (separator : Reader β) : Reader (List α) := do
  let first ← r
  let rest ← repeated (separator *> r)
  return first :: rest

/-- What a reader makes of a whole text. -/
def read? (r : Reader α) (s : String) : Except Fault α :=
  (r s.toList).map Prod.fst

end Reader

end Handheld.Text
