import Handheld.Proofs.Number.Fraction
import Handheld.Proofs.Sprite.Encoding

/-!
# Sprites from malformed values

Any value is read as a sprite, and every index of it is below sixteen. What is malformed blanks
itself and nothing else. A layer that is not eight values is a layer of zeros in its own place, so
the layers after it keep their weight; a byte is cut to its floor between 0 and 255; what follows
the fourth layer does not count. A row depends on its own text alone, and in it a wrong digit is
a zero among its neighbours.

* `byteValue`, `rowByte`, `byteOf_eq`: the byte of a value, and the bytes of a layer;
* `HasLayers`, `testBit_pixel`: the values that are read as layers, and the bits of their indices;
* `Mended`, `Mended.rowByte_eq`: what is malformed replaced by what it is read as;
* `digitAt`, `pixel_ofRows`: the indices of a row;
* `pixel_ofJson_lt`: every index is below sixteen;
* `indices_malformed`: what the indices of any value are, and what they do not depend on.
-/

namespace Handheld.Sprite

/-! ### Bytes -/

/-- The byte of a value: the floor of its number, moved between 0 and 255, and zero for anything
that is no number. -/
def byteValue (v : Json) : Int :=
  match v.float?.bind Number.toRat? with
  | some q => Number.clamp 0 255 ⌊q⌋
  | none => 0

/-- The byte of a value, written out. -/
def byteJson (v : Json) : Json := .number (.whole (byteValue v))

theorem byteValue_mem (v : Json) : 0 ≤ byteValue v ∧ byteValue v ≤ 255 := by
  unfold byteValue
  split
  · exact Number.clamp_mem (by decide) _
  · decide

/-- A register that saturates does not matter for a byte. -/
theorem clamp_saturate64 (n : Int) :
    Number.clamp 0 255 (Number.saturate64 n) = Number.clamp 0 255 n := by
  unfold Number.saturate64 Number.clamp Number.least64 Number.greatest64
  omega

theorem byteOf_eq (v : Json) : (byteOf v).toNat = (byteValue v).toNat := by
  have hmem := byteValue_mem v
  have hvalue : Number.clamp 0 255 (v.whole?.getD 0) = byteValue v := by
    unfold byteValue Json.whole?
    cases v.float? with
    | none => rfl
    | some x =>
      rw [Option.bind_some, Option.bind_some, Number.floor64?, Number.toRat?]
      cases Number.Parts.ofFloat x with
      | infinite | nan => rfl
      | finite d =>
        rw [Option.getD_some, clamp_saturate64, d.floor_eq]
  rw [byteOf, hvalue]
  exact Nat.mod_eq_of_lt (by omega)

/-- A byte that is written out is its own byte. -/
theorem byteValue_whole {byte : Nat} (hbyte : byte < 256) :
    byteValue (.number (.whole byte)) = byte := by
  have hmem := byteValue_mem (.number (.whole byte))
  have hread := byteOf_eq (.number (.whole byte))
  rw [byteOf_whole hbyte] at hread
  omega

/-- Cutting a byte twice is cutting it once. -/
theorem byteValue_byteJson (v : Json) : byteValue (byteJson v) = byteValue v := by
  have hmem := byteValue_mem v
  obtain ⟨byte, hbyte⟩ := Int.eq_ofNat_of_zero_le hmem.1
  rw [byteJson, hbyte]
  exact byteValue_whole (by omega)

/-! ### Layers -/

/-- The byte of a row in an element of a list of layers: that of its value for the row if the
element is a list of exactly eight, and zero for any other element and for a missing one. -/
def rowByte (element : Option Json) (y : Nat) : Int :=
  match element with
  | some (.list values) => if values.length = 8 then (values[y]?).elim 0 byteValue else 0
  | _ => 0

/-- A layer of eight zeros. -/
def zeros : Json := .list (List.replicate 8 (.number (.whole 0)))

/-- A list of exactly eight values. -/
def IsLayer (v : Json) : Prop := ∃ values, v = .list values ∧ values.length = 8

/-- The values that are read as layers: a list that does not begin with a text, and an object with
a list under `layers`. -/
def HasLayers (v : Json) (items : List Json) : Prop :=
  (v = .list items ∧ ∀ s, items.head? ≠ some (.text s)) ∨
    ∃ members, v = .object members ∧ Entries.get? members "layers" = some (.list items)

theorem HasLayers.ofJson_eq {v : Json} {items : List Json} (h : HasLayers v items) :
    ofJson v = ofLayers items := by
  rcases h with ⟨rfl, hhead⟩ | ⟨members, rfl, hlayers⟩
  · cases items with
    | nil => rfl
    | cons item items =>
      cases item with
      | text s => exact absurd rfl (hhead s)
      | _ => rfl
  · rw [ofJson, hlayers]

theorem toNat_layerOf (v : Json) (y : Fin 8) :
    ((layerOf v)[y.val]?.getD 0).toNat = (rowByte (some v) y).toNat := by
  have hempty : (emptyLayer[y.val]?.getD 0).toNat = 0 := by
    rw [emptyLayer, Vector.getElem?_replicate, if_pos y.isLt]
    rfl
  cases v with
  | list values =>
    unfold layerOf rowByte
    dsimp only
    by_cases hlength : values.length = 8
    · have hy : y.val < values.length := by omega
      rw [if_pos hlength, if_pos hlength, Vector.getElem?_eq_getElem y.isLt, Vector.getElem_ofFn,
        Option.getD_some, List.getElem?_eq_getElem hy]
      exact byteOf_eq _
    · rw [if_neg hlength, if_neg hlength, hempty]
      rfl
  | _ => exact hempty

/-- The bits of an index are those of the four layers, each in the place of its layer. -/
theorem testBit_pixel {v : Json} {items : List Json} (h : HasLayers v items) (y x : Fin 8)
    (layer : Nat) :
    ((ofJson v).pixel x y).testBit layer =
      (decide (layer < 4) && (rowByte items[layer]? y).toNat.testBit (7 - x)) := by
  have hpixel : (ofJson v).pixel x y = combine ((items.take 4).map layerOf) x y := by
    rw [h.ofJson_eq]
    simp [pixel, ofLayers, maxLayers]
  rw [hpixel, testBit_combine, List.getElem?_map, List.getElem?_take]
  by_cases hlayer : layer < 4
  · rw [if_pos hlayer, decide_eq_true hlayer, Bool.true_and]
    cases items[layer]? with
    | none => exact (Nat.zero_testBit _).symm
    | some element => rw [Option.map_some, Option.elim_some, toNat_layerOf]
  · rw [if_neg hlayer, decide_eq_false hlayer, Bool.false_and]
    rfl

/-! ### Mending -/

/-- A list of layers with something malformed in it replaced by what it is read as: an element that
is no layer by eight zeros, what follows the fourth element by anything, a value of an element by
its byte. -/
inductive Mended (items : List Json) : List Json → Prop
  | layer {i : Nat} {element : Json} (there : items[i]? = some element)
      (malformed : ¬ IsLayer element) : Mended items (items.set i zeros)
  | beyond {items' : List Json} (first : items'.take 4 = items.take 4) : Mended items items'
  | byte {i y : Nat} {values : List Json} {v : Json} (there : items[i]? = some (.list values))
      (value : values[y]? = some v) : Mended items (items.set i (.list (values.set y (byteJson v))))

theorem rowByte_of_not_isLayer {element : Json} (h : ¬ IsLayer element) (y : Nat) :
    rowByte (some element) y = 0 := by
  unfold rowByte
  split
  · rename_i values hvalues
    exact if_neg fun hlength => h ⟨values, Option.some.inj hvalues, hlength⟩
  · rfl

theorem rowByte_zeros (y : Nat) : rowByte (some zeros) y = 0 := by
  unfold zeros rowByte
  dsimp only
  rw [if_pos (by rfl), List.getElem?_replicate]
  split
  · exact byteValue_whole (show 0 < 256 by decide)
  · rfl

theorem rowByte_set_byteJson {values : List Json} {place : Nat} {v : Json}
    (h : values[place]? = some v) (y : Nat) :
    rowByte (some (.list (values.set place (byteJson v)))) y = rowByte (some (.list values)) y := by
  obtain ⟨hplace, -⟩ := List.getElem?_eq_some_iff.mp h
  unfold rowByte
  dsimp only
  rw [List.length_set]
  split
  · by_cases hy : place = y
    · rw [← hy, List.getElem?_set_self hplace, h]
      exact byteValue_byteJson v
    · rw [List.getElem?_set_ne hy]
  · rfl

/-- The bytes of the first four layers stay as they are. -/
theorem Mended.rowByte_eq {items items' : List Json} (h : Mended items items') {layer : Nat}
    (hlayer : layer < 4) (y : Nat) : rowByte items'[layer]? y = rowByte items[layer]? y := by
  cases h with
  | layer there malformed =>
    rename_i i element
    obtain ⟨hi, -⟩ := List.getElem?_eq_some_iff.mp there
    by_cases hplace : i = layer
    · rw [← hplace, List.getElem?_set_self hi, there, rowByte_zeros,
        rowByte_of_not_isLayer malformed]
    · rw [List.getElem?_set_ne hplace]
  | beyond first =>
    have hfirst := congrArg (fun four : List Json => four[layer]?) first
    simp only [List.getElem?_take, if_pos hlayer] at hfirst
    rw [hfirst]
  | byte there value =>
    rename_i i place values v
    obtain ⟨hi, -⟩ := List.getElem?_eq_some_iff.mp there
    by_cases hplace : i = layer
    · rw [← hplace, List.getElem?_set_self hi, there, rowByte_set_byteJson value]
    · rw [List.getElem?_set_ne hplace]

/-- A list that does not begin with a text does not do so when it is mended. -/
theorem Mended.hasLayers {items items' : List Json} (h : Mended items items')
    (hlayers : HasLayers (.list items) items) : HasLayers (.list items') items' := by
  have hhead : ∀ s, items[0]? ≠ some (.text s) := by
    rcases hlayers with ⟨-, hhead⟩ | ⟨members, hlist, -⟩
    · simpa only [List.head?_eq_getElem?] using hhead
    · cases hlist
  refine Or.inl ⟨rfl, fun s hs => ?_⟩
  rw [List.head?_eq_getElem?] at hs
  cases h with
  | layer there malformed =>
    rw [List.getElem?_set] at hs
    split at hs
    · split at hs <;> cases hs
    · exact hhead s hs
  | beyond first =>
    have hfirst := congrArg (fun four : List Json => four[0]?) first
    simp only [List.getElem?_take, if_pos (show 0 < 4 by decide)] at hfirst
    exact hhead s (hfirst.symm.trans hs)
  | byte there value =>
    rw [List.getElem?_set] at hs
    split at hs
    · split at hs <;> cases hs
    · exact hhead s hs

/-- The indices stay as they are, whichever of the two ways the layers are handed over in. -/
theorem Mended.indices_eq {items items' : List Json} (h : Mended items items') {v v' : Json}
    (hv : HasLayers v items) (hv' : HasLayers v' items') :
    (ofJson v').indices = (ofJson v).indices := by
  refine Vector.ext fun y hy => Vector.ext fun x hx => Nat.eq_of_testBit_eq fun layer => ?_
  rw [indices, indices, Vector.getElem_ofFn, Vector.getElem_ofFn, Vector.getElem_ofFn,
    Vector.getElem_ofFn]
  have hbit := testBit_pixel hv ⟨y, hy⟩ ⟨x, hx⟩ layer
  have hbit' := testBit_pixel hv' ⟨y, hy⟩ ⟨x, hx⟩ layer
  refine hbit'.trans (Eq.trans ?_ hbit.symm)
  by_cases hlayer : layer < 4
  · rw [h.rowByte_eq hlayer]
  · rw [decide_eq_false hlayer, Bool.false_and, Bool.false_and]

/-! ### Rows of digits -/

/-- The index of a column in an element of a list of rows: that of its digit for the column if the
element is a text of exactly eight characters and the digit is one, and zero otherwise. -/
def digitAt (element : Option Json) (x : Nat) : Nat :=
  match element with
  | some (.text s) => if s.length = 8 then ((s.toList[x]?).bind Text.hexValue?).getD 0 else 0
  | _ => 0

theorem getElem?_rowOf (element : Option Json) (x : Fin 8) :
    (rowOf element)[x.val]?.getD 0 = digitAt element x := by
  have hempty : emptyRow[x.val]?.getD 0 = 0 := by simp [emptyRow]
  cases element with
  | none => exact hempty
  | some v =>
    cases v with
    | text s =>
      unfold rowOf digitAt
      dsimp only
      rw [String.length_toList]
      by_cases hlength : s.length = 8
      · simp [hlength]
      · simpa [hlength] using hempty
    | _ => exact hempty

/-- An index of a row is told from the element of the row alone. -/
theorem pixel_ofRows (rows : List Json) (x y : Fin 8) :
    (ofRows rows).pixel x y = digitAt rows[y.val]? x := by
  rw [← getElem?_rowOf]
  simp [pixel, ofRows]

theorem digitAt_lt (element : Option Json) (x : Nat) : digitAt element x < 16 := by
  unfold digitAt
  split
  · rename_i s
    split
    · cases hdigit : (s.toList[x]?).bind Text.hexValue? with
      | none => decide
      | some digit =>
        obtain ⟨c, -, hc⟩ := Option.bind_eq_some_iff.mp hdigit
        exact Text.hexValue?_lt hc
    · decide
  · decide

/-! ### Bounds -/

/-- Any value is read as rows or as layers; without either it is as blank as no rows at all. -/
theorem ofJson_cases (v : Json) :
    (∃ rows, ofJson v = ofRows rows) ∨ ∃ items, ofJson v = ofLayers items := by
  have hblank : blank = ofRows [] := by decide
  unfold ofJson
  split
  · exact Or.inl ⟨_, rfl⟩
  · exact Or.inr ⟨_, rfl⟩
  · split
    · exact Or.inr ⟨_, rfl⟩
    · exact Or.inl ⟨_, hblank⟩
  · exact Or.inl ⟨_, hblank⟩

theorem combine_layers_lt (items : List Json) (x y : Nat) :
    combine ((items.take maxLayers).map layerOf) x y < 16 := by
  refine Nat.lt_of_lt_of_le (combine_lt _ x y) ?_
  rw [List.length_map, List.length_take]
  exact Nat.pow_le_pow_right (by decide) (Nat.min_le_left _ _)

/-- Every index of a sprite that was read is below sixteen. -/
theorem pixel_ofJson_lt (v : Json) (x y : Nat) : (ofJson v).pixel x y < 16 := by
  by_cases hinside : x < 8 ∧ y < 8
  · rcases ofJson_cases v with ⟨rows, h⟩ | ⟨items, h⟩
    · rw [h, pixel_ofRows rows ⟨x, hinside.1⟩ ⟨y, hinside.2⟩]
      exact digitAt_lt _ _
    · rw [h, ofLayers, pixel, if_pos hinside]
      exact combine_layers_lt items x y
  · rw [pixel_outside _ hinside]
    decide

/-- Every value is read as a sprite with indices up to fifteen. The bits of layers stand each in
the place of its layer, whatever the others are; mending a list of layers does not change the
sprite; and the rows of a list that begins with a text are read each by itself. -/
theorem indices_malformed :
    (∀ v : Json, ∀ y x : Fin 8, ((ofJson v).indices.get y).get x ≤ 15) ∧
      (∀ v items, HasLayers v items → ∀ y x : Fin 8, ∀ layer : Nat,
        (((ofJson v).indices.get y).get x).testBit layer =
          (decide (layer < 4) && (rowByte items[layer]? y).toNat.testBit (7 - x))) ∧
      (∀ items items', Mended items items' →
        (HasLayers (.list items) items → HasLayers (.list items') items') ∧
          ∀ v v', HasLayers v items → HasLayers v' items' →
            (ofJson v').indices = (ofJson v).indices) ∧
      ∀ (s : String) (rest : List Json) (y x : Fin 8),
        ((ofJson (.list (.text s :: rest))).indices.get y).get x
          = digitAt (Json.text s :: rest)[y.val]? x := by
  have hindex : ∀ (sprite : Sprite) (y x : Fin 8),
      (sprite.indices.get y).get x = sprite.pixel x y := fun sprite y x => by
    rw [indices, Vector.get_ofFn, Vector.get_ofFn]
  refine ⟨fun v y x => ?_, fun v items h y x layer => ?_, fun items items' h => ?_,
    fun s rest y x => ?_⟩
  · rw [hindex]
    exact Nat.le_of_lt_succ (pixel_ofJson_lt v x y)
  · rw [hindex]
    exact testBit_pixel h y x layer
  · exact ⟨h.hasLayers, fun v v' hv hv' => h.indices_eq hv hv'⟩
  · rw [hindex]
    exact pixel_ofRows (.text s :: rest) x y

end Handheld.Sprite
