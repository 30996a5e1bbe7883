import Handheld.Display
import Handheld.Image
import Mathlib.Data.List.Induction

/-!
# What a display lists

A display lists its occupied slots in order and its occupied cells row by row. To search these
lists from the end is to search the slots or the cells themselves, and a search for what can only
be in one cell looks that cell up.

* `findSome?_occupied`: the search of the occupied places of a store;
* `findSome?_sprites`, `findSome?_tiles`: the search of the slots, and of the cells.
-/

namespace Handheld.Display

/-! ### Searches -/

section

variable {α β γ ι : Type}

theorem findSome?_congr {l : List ι} {f g : ι → Option β} (h : ∀ i ∈ l, f i = g i) :
    l.findSome? f = l.findSome? g := by
  induction l with
  | nil => rfl
  | cons i l ih =>
    rw [List.findSome?_cons, List.findSome?_cons, h i List.mem_cons_self,
      ih fun j hj => h j (List.mem_cons_of_mem i hj)]

/-- A search that can only end at one place looks there. -/
theorem findSome?_eq_of_forall_ne {l : List ι} {f : ι → Option β} {i : ι} (hi : i ∈ l)
    (hother : ∀ j, j ≠ i → f j = none) : l.findSome? f = f i := by
  cases hf : f i with
  | none =>
    refine List.findSome?_eq_none_iff.mpr fun j _ => ?_
    by_cases hj : j = i
    · rw [hj, hf]
    · exact hother j hj
  | some b =>
    induction l with
    | nil => exact absurd hi List.not_mem_nil
    | cons j l ih =>
      by_cases hj : j = i
      · rw [List.findSome?_cons, hj, hf]
      · rw [List.findSome?_cons, hother j hj]
        exact ih ((List.mem_cons.mp hi).resolve_left (Ne.symm hj))

/-- To search the occupied places of a store from the end is to search the store from the end. -/
theorem findSome?_occupied (store : List (Option α)) (entry : Nat → α → γ) (f : γ → Option β) :
    (store.zipIdx.filterMap fun e => e.1.map (entry e.2)).reverse.findSome? f =
      (List.range store.length).reverse.findSome? fun i =>
        store[i]?.join.bind fun a => f (entry i a) := by
  induction store using List.reverseRecOn with
  | nil => rfl
  | append_singleton store last ih =>
    have hrest : ((List.range store.length).reverse.findSome? fun i =>
          (store ++ [last])[i]?.join.bind fun a => f (entry i a)) =
        (List.range store.length).reverse.findSome? fun i =>
          store[i]?.join.bind fun a => f (entry i a) := by
      refine findSome?_congr fun i hi => ?_
      rw [List.mem_reverse, List.mem_range] at hi
      rw [List.getElem?_append_left hi]
    rw [List.zipIdx_append, List.filterMap_append, List.reverse_append, List.findSome?_append, ih,
      List.length_append, List.length_singleton, List.range_succ, List.reverse_append,
      List.reverse_singleton, List.singleton_append, List.findSome?_cons, hrest,
      List.getElem?_concat_length]
    cases last with
    | none => rfl
    | some a =>
      simp only [Nat.zero_add, List.zipIdx_singleton, List.filterMap_cons, List.filterMap_nil,
        Option.map_some, List.reverse_singleton, List.findSome?_cons, List.findSome?_nil,
        Option.join_some, Option.bind_some]
      cases f (entry store.length a) <;> rfl

end

/-! ### Sprites and tiles -/

theorem findSome?_sprites {β : Type} (d : Display) (f : Nat × Placement → Option β) :
    d.sprites.reverse.findSome? f =
      (List.range slotCount).reverse.findSome? fun slot =>
        (d.slot? slot).bind fun p => f (slot, p) := by
  have hsearch := findSome?_occupied d.slots.toList (fun i p => (i, p)) f
  rw [Vector.length_toList] at hsearch
  refine hsearch.trans ?_
  refine findSome?_congr fun slot _ => ?_
  rw [slot?, Vector.getElem?_toList]

/-- The place of a cell in the store. -/
theorem tile?_eq (d : Display) {x y : Nat} (hx : x < d.grid.cells) (hy : y < d.grid.cells) :
    d.tile? x y = d.cells[y * d.grid.cells + x]?.join := by
  have hindex : d.cellIndex? x y = some (y * d.grid.cells + x) := if_pos (by omega)
  rw [tile?, hindex]
  rfl

theorem findSome?_tiles {β : Type} (d : Display) {x y : Nat} (hx : x < d.grid.cells)
    (hy : y < d.grid.cells) {f : (Nat × Nat) × Nat → Option β}
    (hother : ∀ cell tile, cell ≠ (x, y) → f (cell, tile) = none) :
    d.tiles.reverse.findSome? f = (d.tile? x y).bind fun tile => f ((x, y), tile) := by
  have hsearch := findSome?_occupied d.cells.toList
    (fun i tile => ((i % d.grid.cells, i / d.grid.cells), tile)) f
  refine hsearch.trans ?_
  have hmod : (y * d.grid.cells + x) % d.grid.cells = x := by
    rw [Nat.add_comm, Nat.add_mul_mod_self_right, Nat.mod_eq_of_lt hx]
  have hdiv : (y * d.grid.cells + x) / d.grid.cells = y := by
    rw [Nat.add_comm, Nat.add_mul_div_right _ _ (by omega), Nat.div_eq_of_lt hx, Nat.zero_add]
  have hmem : y * d.grid.cells + x ∈ (List.range d.cells.toList.length).reverse := by
    rw [List.mem_reverse, List.mem_range, Array.length_toList, d.cells_size]
    exact Image.index_lt hx hy
  rw [findSome?_eq_of_forall_ne hmem]
  · rw [d.tile?_eq hx hy, hmod, hdiv, Array.getElem?_toList]
  · intro i hi
    cases hcell : d.cells.toList[i]?.join with
    | none => rfl
    | some tile =>
      refine hother _ tile fun hsame => hi ?_
      have hcolumn := congrArg Prod.fst hsame
      have hline := congrArg Prod.snd hsame
      simp only at hcolumn hline
      rw [← hcolumn, ← hline, Nat.div_add_mod']

end Handheld.Display
