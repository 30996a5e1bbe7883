import Handheld.CommandLine.ScriptedInput
import Handheld.Proofs.Number.Numeral
import Mathlib.Algebra.Ring.Nat
import Mathlib.Data.List.Basic

/-!
# Which texts are scripted inputs

A scripted input is written as a frame, a button and a direction with colons between them. The
frame is any numeral that fits a register; the button is one of the eight names and the direction
one of two words, in exactly these letters. Nothing else is taken, and what is taken has one
meaning only.

* `Written`: the texts of a scripted input;
* `split_three_iff`: the three parts of a text;
* `ofParts_eq_ok_iff`: the meaning of three parts;
* `read_eq_ok_iff`, `read_shape_iff`: which texts are taken, and which have the wrong number of
  parts;
* `written_read`: the reader against the grammar, and a scripted input read back.
-/

namespace Handheld.ScriptedInput

/-- A text of a scripted input: a numeral of its frame, the name of its button and the word of its
direction, with colons between them. -/
def Written (i : ScriptedInput) (s : String) : Prop :=
  ∃ frame : String, Number.Numeral frame.toList i.frame ∧ i.frame ≤ 2 ^ 64 - 1 ∧
    s = frame ++ ":" ++ i.button.name ++ ":" ++ (if i.down then "down" else "up")

/-! ### Parts -/

/-- A text has three parts exactly if it is three texts without colons and a colon after each of
the first two. -/
theorem split_three_iff (cs a b c : List Char) :
    Text.split ':' cs = [a, b, c] ↔
      cs = a ++ ':' :: (b ++ ':' :: c) ∧ ':' ∉ a ∧ ':' ∉ b ∧ ':' ∉ c := by
  constructor
  · intro hsplit
    have hjoin := Text.join_split ':' cs
    have hpart : ∀ part ∈ [a, b, c], ':' ∉ part := fun part hpart => by
      rw [← hsplit] at hpart
      exact Text.not_mem_of_mem_split hpart
    rw [hsplit] at hjoin
    exact ⟨hjoin.symm, hpart a (by simp), hpart b (by simp), hpart c (by simp)⟩
  · rintro ⟨rfl, ha, hb, hc⟩
    rw [Text.split_append ha, Text.split_append hb, Text.split_of_not_mem hc]

theorem ofName?_eq_some_iff (s : String) (x : Button) :
    Button.ofName? s = some x ↔ s = x.name := by
  constructor
  · exact fun h => (Button.name_of_ofName? h).symm
  · rintro rfl
    exact Button.ofName?_name x

theorem direction?_eq_some_iff (s : String) (down : Bool) :
    direction? s = some down ↔ s = if down then "down" else "up" := by
  unfold direction?
  cases down <;> split <;> simp_all

/-- Three parts are a scripted input if each of them is what stands in its place. -/
theorem ofParts_eq_ok_iff (frame button direction : List Char) (i : ScriptedInput) :
    ofParts frame button direction = .ok i ↔
      (Number.Numeral frame i.frame ∧ i.frame ≤ Number.greatestRegister) ∧
        String.ofList button = i.button.name ∧
        String.ofList direction = if i.down then "down" else "up" := by
  rw [← Number.unsigned?_eq_ok_iff, ← ofName?_eq_some_iff, ← direction?_eq_some_iff]
  unfold ofParts
  cases Number.unsigned? Number.greatestRegister frame with
  | error fault => simp
  | ok n =>
    cases hbutton : Button.ofName? (String.ofList button) with
    | none => simp [hbutton]
    | some x =>
      cases hdirection : direction? (String.ofList direction) with
      | none => simp [hbutton, hdirection]
      | some down =>
        obtain ⟨frameOf, buttonOf, downOf⟩ := i
        simp [hbutton, hdirection]

/-! ### Texts -/

/-- There are no colons in what stands between the colons. -/
theorem colon_not_mem_numeral {cs : List Char} {n : Nat} (h : Number.Numeral cs n) : ':' ∉ cs := by
  obtain ⟨digits, -, hdigits, hcs, -⟩ := h
  have hcolon : ':' ∉ digits := fun hmem => absurd (hdigits ':' hmem) (by decide)
  rcases hcs with rfl | rfl
  · exact hcolon
  · rw [List.mem_cons, not_or]
    exact ⟨by decide, hcolon⟩

theorem colon_not_mem_name (x : Button) : ':' ∉ x.name.toList := by
  cases x <;> decide

theorem colon_not_mem_direction (down : Bool) :
    ':' ∉ (if down then "down" else "up").toList := by
  cases down <;> decide

/-- Exactly the texts of scripted inputs are taken. -/
theorem read_eq_ok_iff (s : String) (i : ScriptedInput) : read s = .ok i ↔ Written i s := by
  unfold read
  constructor
  · intro hread
    split at hread
    case h_1 frame button direction hsplit =>
      obtain ⟨hframe, hbutton, hdirection⟩ := (ofParts_eq_ok_iff _ _ _ i).mp hread
      refine ⟨String.ofList frame, by rw [String.toList_ofList]; exact hframe.1, hframe.2, ?_⟩
      rw [← hbutton, ← hdirection, ← String.toList_inj, ((split_three_iff _ _ _ _).mp hsplit).1]
      simp
    case h_2 => cases hread
  · rintro ⟨frame, hframe, hfits, rfl⟩
    have hsplit := (split_three_iff _ _ _ _).mpr ⟨rfl, colon_not_mem_numeral hframe,
      colon_not_mem_name i.button, colon_not_mem_direction i.down⟩
    have htext : (frame ++ ":" ++ i.button.name ++ ":" ++ if i.down then "down" else "up").toList
        = frame.toList ++ ':' :: (i.button.name.toList ++
            ':' :: (if i.down then "down" else "up").toList) := by simp
    rw [htext, hsplit]
    refine (ofParts_eq_ok_iff _ _ _ i).mpr ⟨⟨hframe, hfits⟩, ?_, ?_⟩ <;> rw [String.ofList_toList]

/-- Three parts may be wrong, but their number is not. -/
theorem ofParts_ne_shape (frame button direction : List Char) :
    ofParts frame button direction ≠ .error .shape := by
  unfold ofParts
  split
  · simp
  · dsimp only
    split
    · simp
    · split <;> simp

/-- A text has the wrong number of parts if it does not have two colons. -/
theorem read_shape_iff (s : String) : read s = .error .shape ↔ s.toList.count ':' ≠ 2 := by
  have hlength := Text.length_split ':' s.toList
  unfold read
  split
  case h_1 frame button direction hsplit =>
    rw [hsplit] at hlength
    simp only [List.length_cons, List.length_nil] at hlength
    exact iff_of_false (ofParts_ne_shape frame button direction) (by omega)
  case h_2 hother =>
    refine iff_of_true rfl fun hcount => ?_
    rw [hcount] at hlength
    obtain ⟨frame, button, direction, hsplit⟩ := List.length_eq_three.mp hlength
    exact hother frame button direction hsplit

/-- A scripted input is one of its own texts as long as a register holds its frame. -/
theorem written_text_iff (i : ScriptedInput) : Written i i.text ↔ i.frame ≤ 2 ^ 64 - 1 :=
  ⟨fun ⟨_, _, hfits, _⟩ => hfits, fun hfits => ⟨_, Number.numeral_repr i.frame, hfits, rfl⟩⟩

/-- Exactly the texts of scripted inputs are taken: three parts with two colons between them. So a
scripted input is read back from how it is written, if a register holds its frame. -/
theorem written_read (s : String) (i : ScriptedInput) :
    (read s = .ok i ↔ Written i s) ∧
      (read s = .error .shape ↔ s.toList.count ':' ≠ 2) ∧
      (read i.text = .ok i ↔ i.frame ≤ 2 ^ 64 - 1) := by
  refine ⟨read_eq_ok_iff s i, read_shape_iff s, ?_⟩
  rw [read_eq_ok_iff, written_text_iff]

end Handheld.ScriptedInput
