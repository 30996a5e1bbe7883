/-!
# Parts of a text

A text cut at every occurrence of a separator. There is always one part more than there are
separators, and an empty text has one empty part.

Blank characters are taken off the ends of a text: the ASCII blanks, and the spaces and separators
of the other scripts.

## Main statements

* `join_split`: the parts with the separators between them are the text.
* `not_mem_of_mem_split`: no part holds the separator.
* `length_split`: there is one part more than there are separators.
* `split_of_not_mem`, `split_append`: a text without a separator is a part of its own, and a
  separator ends the part before it.
-/

namespace Handheld.Text

/-! ### Blank characters -/

def isBlank (c : Char) : Bool :=
  let n := c.toNat
  (9 ≤ n && n ≤ 13) || n == 32 || n == 0x85 || n == 0xa0 || n == 0x1680
    || (0x2000 ≤ n && n ≤ 0x200a) || n == 0x2028 || n == 0x2029 || n == 0x202f || n == 0x205f
    || n == 0x3000

/-- The characters without the blanks at either end. -/
def trimList (cs : List Char) : List Char :=
  ((cs.dropWhile isBlank).reverse.dropWhile isBlank).reverse

/-- The text without the blanks at either end. -/
def trim (s : String) : String :=
  String.ofList (trimList s.toList)

/-- The text without the blanks at its end. -/
def trimEnd (s : String) : String :=
  String.ofList (s.toList.reverse.dropWhile isBlank).reverse

/-! ### Separators -/

/-- The parts of a text between separators. -/
def split (separator : Char) : List Char → List (List Char)
  | [] => [[]]
  | c :: cs =>
    if c = separator then [] :: split separator cs
    else
      match split separator cs with
      | part :: parts => (c :: part) :: parts
      | [] => [[c]]

/-- Parts with a separator between them. -/
def join (separator : Char) : List (List Char) → List Char
  | [] => []
  | [part] => part
  | part :: parts => part ++ separator :: join separator parts

def splitText (separator : Char) (s : String) : List String :=
  (split separator s.toList).map String.ofList

/-- There is always a part. -/
theorem split_ne_nil (separator : Char) (cs : List Char) : split separator cs ≠ [] := by
  cases cs with
  | nil => simp [split]
  | cons c cs =>
    unfold split
    split
    · simp
    · split <;> simp

/-- The parts with the separators between them are the text. -/
theorem join_split (separator : Char) (cs : List Char) :
    join separator (split separator cs) = cs := by
  induction cs with
  | nil => rfl
  | cons c cs ih =>
    have hne := split_ne_nil separator cs
    unfold split
    split
    · rename_i hc
      cases hs : split separator cs with
      | nil => exact absurd hs hne
      | cons part parts => simp [join, ← hs, ih, hc]
    · cases hs : split separator cs with
      | nil => exact absurd hs hne
      | cons part parts =>
        rw [hs] at ih
        cases parts with
        | nil => simpa [join] using ih
        | cons next rest => simpa [join] using ih

/-- No part holds the separator. -/
theorem not_mem_of_mem_split {separator : Char} {cs part : List Char}
    (h : part ∈ split separator cs) : separator ∉ part := by
  induction cs generalizing part with
  | nil => simp_all [split]
  | cons c cs ih =>
    unfold split at h
    split at h
    · rcases List.mem_cons.1 h with rfl | h
      · simp
      · exact ih h
    · rename_i hc
      split at h
      · rename_i first parts hs
        rcases List.mem_cons.1 h with rfl | h
        · have := ih (hs ▸ List.mem_cons_self)
          simp [this, Ne.symm hc]
        · exact ih (hs ▸ List.mem_cons_of_mem _ h)
      · simp_all [Ne.symm hc]

/-- There is one part more than there are separators. -/
theorem length_split (separator : Char) (cs : List Char) :
    (split separator cs).length = cs.count separator + 1 := by
  induction cs with
  | nil => rfl
  | cons c cs ih =>
    have hne := split_ne_nil separator cs
    unfold split
    split
    · rename_i hc
      simp [hc, ih]
    · rename_i hc
      cases hs : split separator cs with
      | nil => exact absurd hs hne
      | cons part parts =>
        rw [hs] at ih
        simpa [List.count_cons, hc] using ih

/-- A text without a separator is a part of its own. -/
theorem split_of_not_mem {separator : Char} {part : List Char} (h : separator ∉ part) :
    split separator part = [part] := by
  induction part with
  | nil => rfl
  | cons c cs ih =>
    rw [List.mem_cons, not_or] at h
    rw [split, if_neg (Ne.symm h.1), ih h.2]

/-- A separator ends the part before it. -/
theorem split_append {separator : Char} {part : List Char} (h : separator ∉ part)
    (rest : List Char) :
    split separator (part ++ separator :: rest) = part :: split separator rest := by
  induction part with
  | nil => exact if_pos rfl
  | cons c cs ih =>
    rw [List.mem_cons, not_or] at h
    rw [List.cons_append, split, if_neg (Ne.symm h.1), ih h.2]

example : split ':' "1:up:".toList = ["1".toList, "up".toList, []] := by decide +kernel

end Handheld.Text
