import Handheld.Guest.Value
import Handheld.Proofs.Frame.Grouped
import Handheld.Proofs.Json.Copied

/-!
# Values that can be copied out

Writing and reading back take a value apart in the same way, so the copy of a list or an object
is made of the copies of what is in it. Numbers always have a copy: the finite ones because they
can be read back, the others because they are written as null.

* `Copies`: a value and its copy, with how much deeper the reader may go;
* `copies_list`, `copies_object`, `exists_copies_number`: how copies are made;
* `copyOut_eq`: what leaves the sandbox;
* `floor?_of_copies`, `nonpos_of_copies`: what is left of a number.
-/

namespace Handheld.Guest

open Handheld.Number (toRat? floor? floor?_eq)

/-- The value is written and read back as `j`, nested at most `room` deep. -/
def Copies (room : ℕ) (v : Value) (j : Json) : Prop :=
  ∃ w, v.written = .ok (some w) ∧ w.reread room = .ok j

/-- The copy of a value is what leaves the sandbox. -/
theorem copyOut_eq {v : Value} {j : Json} (h : Copies depthLimit v j) : v.copyOut = .ok j := by
  obtain ⟨w, hw, hj⟩ := h
  unfold Value.copyOut
  rw [hw]
  exact hj

/-! ### Writing and reading back, one step -/

theorem written_number (x : Float) :
    (Value.number x).written
      = .ok (some (if Handheld.Number.isFinite x then .number x else .null)) := rfl

theorem written_list (vs : List Value) :
    (Value.list vs).written = (writtenItems vs).map fun ws => some (.list ws) := rfl

theorem written_object (ms : List (String × Value)) :
    (Value.object ms).written = (writtenMembers ms).map fun ws => some (.object ws) := rfl

theorem writtenItems_cons (v : Value) (vs : List Value) :
    writtenItems (v :: vs) = v.written >>= fun first =>
      writtenItems vs >>= fun rest => .ok (first.getD .null :: rest) := rfl

theorem writtenMembers_cons (m : String × Value) (ms : List (String × Value)) :
    writtenMembers (m :: ms) = m.2.written >>= fun first =>
      writtenMembers ms >>= fun rest => .ok (match first with
        | some v => (m.1, v) :: rest
        | none => rest) := rfl

theorem reread_number (room : ℕ) (x : Float) :
    (Value.number x).reread room =
      match Json.Number.copied x with
      | some n => .ok (.number n)
      | none => .error .numberRange := rfl

theorem reread_list (room : ℕ) (ws : List Value) :
    (Value.list ws).reread (room + 1) = (rereadItems room ws).map .list := rfl

theorem reread_object (room : ℕ) (ws : List (String × Value)) :
    (Value.object ws).reread (room + 1) = (rereadMembers room ws).map .object := rfl

theorem rereadItems_cons (room : ℕ) (w : Value) (ws : List Value) :
    rereadItems room (w :: ws) = w.reread room >>= fun first =>
      rereadItems room ws >>= fun rest => .ok (first :: rest) := rfl

theorem rereadMembers_cons (room : ℕ) (m : String × Value) (ws : List (String × Value)) :
    rereadMembers room (m :: ws) = m.2.reread room >>= fun first =>
      rereadMembers room ws >>= fun rest => .ok ((m.1, first) :: rest) := rfl

/-! ### Lists and objects -/

/-- The elements of a list are copied one by one. -/
theorem exists_writtenItems {room : ℕ} {vs : List Value} {js : List Json}
    (h : List.Forall₂ (Copies room) vs js) :
    ∃ ws, writtenItems vs = .ok ws ∧ rereadItems room ws = .ok js := by
  induction h with
  | nil => exact ⟨[], rfl, rfl⟩
  | @cons v j vs js hfirst _ ih =>
    obtain ⟨w, hw, hj⟩ := hfirst
    obtain ⟨ws, hws, hjs⟩ := ih
    refine ⟨w :: ws, ?_, ?_⟩
    · rw [writtenItems_cons, hw, hws]
      rfl
    · rw [rereadItems_cons, hj, hjs]
      rfl

theorem copies_list {room : ℕ} {vs : List Value} {js : List Json}
    (h : List.Forall₂ (Copies room) vs js) : Copies (room + 1) (.list vs) (.list js) := by
  obtain ⟨ws, hws, hjs⟩ := exists_writtenItems h
  refine ⟨.list ws, ?_, ?_⟩
  · rw [written_list, hws]
    rfl
  · rw [reread_list, hjs]
    rfl

/-- The members of an object are copied one by one, under their names. -/
theorem exists_writtenMembers {room : ℕ} {ms : List (String × Value)} {es : Json.Members}
    (h : List.Forall₂ (fun m e => m.1 = e.1 ∧ Copies room m.2 e.2) ms es) :
    ∃ ws, writtenMembers ms = .ok ws ∧ rereadMembers room ws = .ok es := by
  induction h with
  | nil => exact ⟨[], rfl, rfl⟩
  | @cons m e ms es hfirst _ ih =>
    obtain ⟨hkey, w, hw, hj⟩ := hfirst
    obtain ⟨ws, hws, hjs⟩ := ih
    refine ⟨(m.1, w) :: ws, ?_, ?_⟩
    · rw [writtenMembers_cons, hw, hws]
      rfl
    · rw [rereadMembers_cons, hj, hjs, hkey]
      rfl

theorem copies_object {room : ℕ} {ms : List (String × Value)} {es : Json.Members}
    (h : List.Forall₂ (fun m e => m.1 = e.1 ∧ Copies room m.2 e.2) ms es) :
    Copies (room + 1) (.object ms) (.object es) := by
  obtain ⟨ws, hws, hjs⟩ := exists_writtenMembers h
  refine ⟨.object ws, ?_, ?_⟩
  · rw [written_object, hws]
    rfl
  · rw [reread_object, hjs]
    rfl

theorem copies_bool (room : ℕ) (b : Bool) : Copies room (.bool b) (.bool b) :=
  ⟨.bool b, rfl, rfl⟩

/-- A list has a copy if its elements do. -/
theorem exists_copies_items {room : ℕ} {vs : List Value} (h : ∀ v ∈ vs, ∃ j, Copies room v j) :
    ∃ js, List.Forall₂ (Copies room) vs js := by
  induction vs with
  | nil => exact ⟨[], .nil⟩
  | cons v vs ih =>
    obtain ⟨j, hj⟩ := h v List.mem_cons_self
    obtain ⟨js, hjs⟩ := ih fun u hu => h u (List.mem_cons_of_mem v hu)
    exact ⟨j :: js, .cons hj hjs⟩

/-! ### Numbers -/

theorem copies_number {room : ℕ} {x : Float} {q : ℚ} (hx : toRat? x = some q) {n : Json.Number}
    (hn : Json.Number.copied x = some n) : Copies room (.number x) (.number n) := by
  refine ⟨.number x, ?_, ?_⟩
  · rw [written_number, Json.isFinite_eq, hx]
    rfl
  · rw [reread_number, hn]

/-- Every number has a copy. -/
theorem exists_copies_number (room : ℕ) (x : Float) : ∃ j, Copies room (.number x) j := by
  cases hx : toRat? x with
  | none =>
    refine ⟨.null, .null, ?_, rfl⟩
    rw [written_number, Json.isFinite_eq, hx]
    rfl
  | some q =>
    obtain ⟨n, hn⟩ := Option.isSome_iff_exists.mp (Json.isSome_copied hx)
    exact ⟨.number n, copies_number hx hn⟩

/-- The copy of a finite number is what is written, read back. -/
theorem copied_of_copies {room : ℕ} {x : Float} {q : ℚ} (hx : toRat? x = some q) {j : Json}
    (h : Copies room (.number x) j) : ∃ n, Json.Number.copied x = some n ∧ j = .number n := by
  obtain ⟨w, hw, hj⟩ := h
  rw [written_number, Json.isFinite_eq, hx] at hw
  obtain rfl : .number x = w := Option.some.inj (Except.ok.inj hw)
  rw [reread_number] at hj
  cases hn : Json.Number.copied x with
  | none => simp [hn] at hj
  | some n =>
    rw [hn] at hj
    exact ⟨n, rfl, (Except.ok.inj hj).symm⟩

/-- A whole number that doubles have without gaps arrives as itself. -/
theorem floor?_of_copies {room : ℕ} {x : Float} {v : ℤ} (hx : toRat? x = some (v : ℚ))
    (hsmall : v.natAbs < 2 ^ 53) {j : Json} (h : Copies room (.number x) j) :
    j.floor? = some v := by
  obtain ⟨n, hn, rfl⟩ := copied_of_copies hx h
  rw [Json.copied_whole hx hsmall] at hn
  obtain rfl := Option.some.inj hn
  show floor? (Handheld.Number.ofWhole v) = some v
  rw [floor?_eq, Handheld.Number.toRat?_ofWhole_of_lt hsmall, Option.map_some, Int.floor_intCast]

/-- A negative number does not arrive above zero. -/
theorem nonpos_of_copies {room : ℕ} {x : Float} {q : ℚ} (hx : toRat? x = some q) (hq : q < 0)
    {j : Json} (h : Copies room (.number x) j) {k : ℤ} (hk : j.floor? = some k) : k ≤ 0 := by
  obtain ⟨n, hn, rfl⟩ := copied_of_copies hx h
  have hfloor : (toRat? n.toFloat).map Int.floor = some k := by
    rw [← floor?_eq]
    exact hk
  obtain ⟨r, hr, rfl⟩ := Option.map_eq_some_iff.mp hfloor
  have hnonpos := Json.nonpos_of_copied hx hq hn hr
  exact Int.floor_le_iff.mpr (by push_cast; linarith)

end Handheld.Guest
