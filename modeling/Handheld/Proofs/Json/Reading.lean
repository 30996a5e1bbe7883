import Handheld.Json.Decimal
import Handheld.Proofs.Number.Shortest

/-!
# Texts that are read as JSON numbers

A JSON number is a sign, digits, and perhaps a fraction and an exponent. This file says what is
read of such a text, form by form: digits alone are a whole number, and digits with a point or an
exponent are a significand that is scaled.

* `spanDigits_append`: digits are read up to what does not go on with one;
* `Leading`, `Ending`: what a number may begin and end with;
* `afterSign?`, `number?_sign`: the number after its sign;
* `number?_digits`, `number?_places`: what is read of the forms.
-/

namespace Handheld.Json

open Handheld.Number (digitText spanDigits)

/-! ### Digits in texts -/

/-- The character of a digit. -/
def digit (d : ℕ) : Char := Char.ofNat (48 + d)

theorem isDigit_digit {d : ℕ} (h : d < 10) : (digit d).isDigit = true := by
  have hall : ∀ d < 10, (digit d).isDigit = true := by decide
  exact hall d h

theorem decimalDigit?_digit {d : ℕ} (h : d < 10) :
    Handheld.Number.decimalDigit? (digit d) = some d := by
  have hall : ∀ d < 10, Handheld.Number.decimalDigit? (digit d) = some d := by decide
  exact hall d h

theorem toList_digitText (digits : List ℕ) : (digitText digits).toList = digits.map digit :=
  String.toList_ofList

/-- What does not go on with a digit. -/
def EndsDigits (cs : List Char) : Prop := ∀ c rest, cs = c :: rest → c.isDigit = false

/-- Digits are read up to what does not go on with one. -/
theorem spanDigits_append {digits : List ℕ} (hdigits : ∀ d ∈ digits, d < 10) (rest : List Char)
    (hrest : EndsDigits rest) : spanDigits (digits.map digit ++ rest) = (digits, rest) := by
  unfold spanDigits
  induction digits with
  | nil =>
    cases rest with
    | nil => rfl
    | cons c cs => simp [hrest c cs rfl]
  | cons d ds ih =>
    have hd : d < 10 := hdigits d List.mem_cons_self
    have ih' := ih fun e he => hdigits e (List.mem_cons_of_mem d he)
    rw [Prod.mk.injEq] at ih' ⊢
    rw [List.map_cons, List.cons_append, List.takeWhile_cons_of_pos (isDigit_digit hd),
      List.dropWhile_cons_of_pos (isDigit_digit hd),
      List.filterMap_cons_some (decimalDigit?_digit hd), ih'.1, ih'.2]
    exact ⟨rfl, rfl⟩

/-! ### Readable forms -/

/-- The minus of a negative number. -/
def minus (negative : Bool) : List Char := if negative then ['-'] else []

/-- Digits that a JSON number may begin with: at least one, and no needless zero in front. -/
structure Leading (digits : List ℕ) : Prop where
  nonempty : digits ≠ []
  small : ∀ d ∈ digits, d < 10
  lean : digits.length = 1 ∨ digits.head? ≠ some 0

/-- The number after its sign. -/
def afterSign? (negative : Bool) (cs : List Char) : Option (Number × List Char) := do
  let (digits, rest) := spanDigits cs
  guard (!digits.isEmpty)
  guard (digits.length = 1 ∨ digits.head? ≠ some 0)
  let collected := digits.foldl Significand.pushWhole ⟨0, 0, false⟩
  let (fraction, rest, pointed) : List Nat × List Char × Bool := match rest with
    | '.' :: r => ((spanDigits r).1, (spanDigits r).2, true)
    | r => ([], r, false)
  guard (!pointed || !fraction.isEmpty)
  let (exponent, rest) ← exponent? rest
  if !pointed && exponent.isNone then
    return (← wholeNumber? negative collected, rest)
  let collected := fraction.foldl Significand.pushFraction { collected with full := false }
  return (.real (← scaled? negative collected.value (collected.shift + exponent.getD 0)), rest)

theorem number?_minus (cs : List Char) : number? ('-' :: cs) = afterSign? true cs := rfl

theorem number?_eq (cs : List Char) :
    (∀ rest, cs ≠ '-' :: rest) → number? cs = afterSign? false cs := by
  intro h
  unfold number?
  split
  · exact absurd rfl (h _)
  · rfl

/-- A sign before digits is read as it is. -/
theorem number?_sign (negative : Bool) {digits : List ℕ} (hdigits : Leading digits)
    (rest : List Char) : number? (minus negative ++ (digits.map digit ++ rest))
      = afterSign? negative (digits.map digit ++ rest) := by
  cases negative with
  | true => exact number?_minus _
  | false =>
    refine number?_eq _ fun r heq => ?_
    obtain ⟨d, ds, rfl⟩ := List.exists_cons_of_ne_nil hdigits.nonempty
    have hall : ∀ d < 10, digit d ≠ '-' := by decide
    exact absurd (List.cons.inj heq).1 (hall d (hdigits.small d List.mem_cons_self))

theorem Leading.guards {digits : List ℕ} (h : Leading digits) :
    (!digits.isEmpty) = true ∧ (digits.length = 1 ∨ digits.head? ≠ some 0) :=
  ⟨by simp [h.nonempty], h.lean⟩

/-- Digits alone are a whole number. -/
theorem number?_digits (negative : Bool) {digits : List ℕ} (hdigits : Leading digits) :
    number? (minus negative ++ digits.map digit)
      = (wholeNumber? negative (digits.foldl Significand.pushWhole ⟨0, 0, false⟩)).map (·, []) := by
  have hspan := spanDigits_append hdigits.small [] nofun
  obtain ⟨hsome, hlean⟩ := hdigits.guards
  have hsign := number?_sign negative hdigits []
  rw [List.append_nil] at hspan hsign
  rw [hsign]
  unfold afterSign?
  rw [hspan]
  simp only [hsome, hlean, exponent?, guard_true]
  cases wholeNumber? negative (digits.foldl Significand.pushWhole ⟨0, 0, false⟩) <;> rfl

/-- A point and the digits after it, or nothing. -/
def pointText (fraction : List ℕ) : List Char :=
  if fraction = [] then [] else '.' :: fraction.map digit

/-- The significand of digits before and after a point. -/
def significandOf (digits fraction : List ℕ) : Significand :=
  fraction.foldl Significand.pushFraction
    { digits.foldl Significand.pushWhole ⟨0, 0, false⟩ with full := false }

/-- An exponent, or nothing, at the end of a number. -/
structure Ending (cs : List Char) (exponent : Option ℤ) : Prop where
  read : exponent? cs = some (exponent, [])
  digits : EndsDigits cs
  point : ∀ rest, cs ≠ '.' :: rest

theorem ending_nil : Ending [] none := ⟨rfl, nofun, nofun⟩

/-- Digits with a point or an exponent are a scaled significand. -/
theorem number?_places (negative : Bool) {digits fraction : List ℕ} {cs : List Char}
    {exponent : Option ℤ} (hdigits : Leading digits) (hfraction : ∀ d ∈ fraction, d < 10)
    (hending : Ending cs exponent) (hplaces : fraction ≠ [] ∨ exponent ≠ none) :
    number? (minus negative ++ (digits.map digit ++ (pointText fraction ++ cs)))
      = (scaled? negative (significandOf digits fraction).value
          ((significandOf digits fraction).shift + exponent.getD 0)).map (.real ·, []) := by
  obtain ⟨hsome, hlean⟩ := hdigits.guards
  rw [number?_sign negative hdigits]
  unfold afterSign? significandOf
  rcases eq_or_ne fraction [] with rfl | hne
  · -- without a point there is an exponent
    obtain ⟨e, rfl⟩ := Option.ne_none_iff_exists'.mp (hplaces.resolve_left fun h => h rfl)
    have hspan := spanDigits_append hdigits.small cs hending.digits
    have hpoint : (match cs with
        | '.' :: r => ((spanDigits r).1, (spanDigits r).2, true)
        | r => ([], r, false)) = ([], cs, false) := by
      have hnot := hending.point
      clear hending hspan
      revert hnot
      cases cs with
      | nil => intro _; rfl
      | cons c rest =>
        intro hnot
        split
        · rename_i r heq
          exact absurd heq (hnot r)
        · rfl
    rw [show pointText [] ++ cs = cs from rfl, hspan]
    simp only [hsome, hlean, guard_true, hpoint, hending.read]
    rw [Option.map_eq_bind]
    rfl
  · have hspan := spanDigits_append hdigits.small
      ('.' :: (fraction.map digit ++ cs)) (fun c r heq => by cases heq; rfl)
    have hspan' := spanDigits_append hfraction cs hending.digits
    have htext : pointText fraction ++ cs = '.' :: (fraction.map digit ++ cs) := by
      rw [pointText, if_neg hne]
      rfl
    have hfilled : (!true || !fraction.isEmpty) = true := by simp [hne]
    rw [htext, hspan]
    simp only [hsome, hlean, guard_true, hspan', hfilled, hending.read]
    rw [Option.map_eq_bind]
    rfl

end Handheld.Json
