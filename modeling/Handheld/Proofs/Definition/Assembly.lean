import Handheld.Definition

/-!
# What a definition is made of

Two objects always make a definition, and nothing else does. Each part of the definition is read
from members of its own, so what is malformed in one part is not seen in any other. The address of
a tile is its place in the list of tiles after the number of sprites, whatever the entries are: an
entry that is no sprite keeps its place.

* `Listed`, `listed_entriesOf`: the entries of a member, listed or named;
* `initialOf_object`: an initial state, with its background under either name;
* `title_eq`, `palette_bounds`: the title and the palette;
* `Assembled`, `assembled_ofMembers`: the parts of a definition;
* `Reads`: the members that a part of a definition is read from;
* `assembled_ofValues`: when there is a definition, what it is made of, and from which members.
-/

namespace Handheld.Definition

/-! ### Entries and addresses -/

/-- The entries of a member in the order in which they stand, be they listed or named. -/
inductive Listed : Option Json → List Json → Prop
  | items (items : List Json) : Listed (some (.list items)) items
  | named (ms : Json.Members) : Listed (some (.object ms)) (ms.map Prod.snd)
  | missing : Listed none []
  | null : Listed (some .null) []
  | bool (b : Bool) : Listed (some (.bool b)) []
  | number (n : Json.Number) : Listed (some (.number n)) []
  | text (s : String) : Listed (some (.text s)) []

theorem listed_entriesOf (v : Option Json) : Listed v (entriesOf v) := by
  cases v with
  | none => exact .missing
  | some v =>
    cases v with
    | null => exact .null
    | bool b => exact .bool b
    | number n => exact .number n
    | text s => exact .text s
    | list items => exact .items items
    | object ms => exact .named ms

/-! ### The initial state -/

/-- The members of a grouped result after a background was put in. -/
theorem groupedOf_insert (ms : Json.Members) (v : Json) :
    FrameResult.groupedOf (Entries.insert (Entries.erase ms "backgroundColor") "background" v)
      = { FrameResult.groupedOf ms with background := Json.present? (some v) } := by
  have hother : ∀ key, "background" ≠ key → "backgroundColor" ≠ key →
      Entries.get? (Entries.insert (Entries.erase ms "backgroundColor") "background" v) key
        = Entries.get? ms key := by
    intro key hbackground hcolor
    rw [Entries.get?_insert_other _ v hbackground, Entries.get?_erase_other ms hcolor]
  simp only [FrameResult.groupedOf]
  rw [Entries.get?_insert_same, hother "sprites" (by decide) (by decide),
    hother "tiles" (by decide) (by decide), hother "score" (by decide) (by decide),
    hother "gameOver" (by decide) (by decide), hother "error" (by decide) (by decide)]

theorem initialOf_of_value {v : Json} {ms : Json.Members} (h : initialValue v = .object ms) :
    initialOf (some v) = some (.grouped (FrameResult.groupedOf ms)) := by
  show (FrameResult.ofJson? (initialValue v)).filter _ = _
  rw [h]
  rfl

/-- An object always is an initial state. Only a background that is not named at all is looked for
under its other name. -/
theorem initialOf_object (ms : Json.Members) :
    initialOf (some (.object ms)) = some (.grouped { FrameResult.groupedOf ms with
      background := Json.present?
        ((Entries.get? ms "background").or (Entries.get? ms "backgroundColor")) }) := by
  have hgrouped : (FrameResult.groupedOf ms).background
      = Json.present? (Entries.get? ms "background") := rfl
  cases hbackground : Entries.get? ms "background" with
  | some v =>
    have hvalue : initialValue (.object ms) = .object ms := by simp [initialValue, hbackground]
    rw [initialOf_of_value hvalue, Option.some_or, ← hbackground, ← hgrouped]
  | none =>
    rw [Option.none_or]
    cases hcolor : Entries.get? ms "backgroundColor" with
    | none =>
      have hvalue : initialValue (.object ms) = .object ms := by
        simp [initialValue, hbackground, hcolor]
      rw [initialOf_of_value hvalue, ← hbackground, ← hgrouped]
    | some color =>
      have hvalue : initialValue (.object ms) =
          .object (Entries.insert (Entries.erase ms "backgroundColor") "background" color) := by
        simp [initialValue, hbackground, hcolor]
      rw [initialOf_of_value hvalue, groupedOf_insert]

/-- An initial state shows something. -/
theorem isEmpty_of_initialOf {v : Option Json} {result : FrameResult}
    (h : initialOf v = some result) : result.isEmpty = false := by
  cases v with
  | none => cases h
  | some v => simpa using (Option.filter_eq_some_iff.mp h).2

/-! ### The title and the palette -/

/-- The title is the text under its name, unless there is none or it is empty. -/
theorem title_eq (ms : Json.Members) :
    (∀ s, Entries.get? ms "title" = some (.text s) → s ≠ "" →
      (Metadata.ofMembers ms).title = s) ∧
    ((∀ s, Entries.get? ms "title" = some (.text s) → s = "") →
      (Metadata.ofMembers ms).title = "Untitled Game") := by
  simp only [Metadata.ofMembers, Metadata.textMember?]
  refine ⟨fun s hs hne => ?_, fun hempty => ?_⟩
  · have hfilter : (some s).filter (fun s => !s.isEmpty) = some s := by
      rw [Option.filter_eq_some_iff]
      exact ⟨rfl, by simpa using hne⟩
    rw [hs, Option.bind_some, Json.text?, hfilter, Option.getD_some]
  · have hnone :
        ((Entries.get? ms "title").bind Json.text?).filter (fun s => !s.isEmpty) = none := by
      rw [Option.filter_eq_none_iff]
      intro s hs
      obtain ⟨v, hv, htext⟩ := Option.bind_eq_some_iff.mp hs
      cases v with
      | text s' =>
        cases htext
        simp [hempty s hv]
      | _ => cases htext
    rw [hnone, Option.getD_none, Metadata.untitled]

theorem palette_bounds (v : Option Json) :
    (paletteOf v).size ≤ 16 ∧ ∀ c ∈ (paletteOf v).colors, c ≤ 0xFFFFFF := by
  have hbuilt : ∀ colors, (Palette.ofColors colors).size ≤ 16 ∧
      ∀ c ∈ (Palette.ofColors colors).colors, c ≤ 0xFFFFFF := by
    intro colors
    refine ⟨?_, fun c hc => Palette.le_of_mem_ofColors hc⟩
    rw [Palette.length_ofColors]
    exact Nat.min_le_left 16 colors.length
  unfold paletteOf
  split
  · exact hbuilt _
  · exact hbuilt _

/-! ### The parts -/

/-- The parts of the definition of two objects. -/
structure Assembled (m r : Json.Members) (d : Definition) : Prop where
  /-- The title is the text under its name; no title is empty. -/
  title : ∀ s, Entries.get? m "title" = some (.text s) → s ≠ "" → d.metadata.title = s
  untitled : (∀ s, Entries.get? m "title" = some (.text s) → s = "") →
    d.metadata.title = "Untitled Game"
  title_ne : d.metadata.title ≠ ""
  /-- The sprites and after them the tiles, each entry at the address of its place. -/
  sprites : ∃ sprites tiles, Listed (Entries.get? r "sprites") sprites ∧
    Listed (Entries.get? r "tiles") tiles ∧
    d.sprites = sprites.map Sprite.ofJson ++ tiles.map Sprite.ofJson ∧
    ∀ k, d.sprites[sprites.length + k]? = tiles[k]?.map Sprite.ofJson
  palette_size : d.palette.size ≤ 16
  palette_colors : ∀ c ∈ d.palette.colors, c ≤ 0xFFFFFF
  initial_shows : ∀ result, d.initial = some result → result.isEmpty = false
  /-- Only a background that is not named at all is looked for under its other name. -/
  initial_object : ∀ ms, Entries.get? r "initialState" = some (.object ms) →
    d.initial = some (.grouped { FrameResult.groupedOf ms with
      background := Json.present?
        ((Entries.get? ms "background").or (Entries.get? ms "backgroundColor")) })
  initial_list : ∀ items, Entries.get? r "initialState" = some (.list items) →
    d.initial = some (.commands items)
  initial_none : (∀ ms, Entries.get? r "initialState" ≠ some (.object ms)) →
    (∀ items, Entries.get? r "initialState" ≠ some (.list items)) → d.initial = none

theorem assembled_ofMembers (m r : Json.Members) : Assembled m r (ofMembers m r) where
  title := (title_eq m).1
  untitled := (title_eq m).2
  title_ne := title_ne_empty m
  sprites := by
    refine ⟨entriesOf (Entries.get? r "sprites"), entriesOf (Entries.get? r "tiles"),
      listed_entriesOf _, listed_entriesOf _, rfl, fun k => ?_⟩
    show (spritesOf (Entries.get? r "sprites") ++ spritesOf (Entries.get? r "tiles"))[_]? = _
    unfold spritesOf
    rw [List.getElem?_append_right (by simp), List.length_map, Nat.add_sub_cancel_left,
      List.getElem?_map]
  palette_size := (palette_bounds _).1
  palette_colors := (palette_bounds _).2
  initial_shows _ h := isEmpty_of_initialOf h
  initial_object ms hms := by
    show initialOf (Entries.get? r "initialState") = _
    rw [hms, initialOf_object]
  initial_list items hitems := by
    show initialOf (Entries.get? r "initialState") = _
    rw [hitems]
    rfl
  initial_none hobject hlist := by
    show initialOf (Entries.get? r "initialState") = _
    cases h : Entries.get? r "initialState" with
    | none => rfl
    | some v =>
      cases v with
      | object ms => exact absurd h (hobject ms)
      | list items => exact absurd h (hlist items)
      | null | bool | number | text => rfl

/-! ### Members of one's own -/

/-- Two objects have the same members under some names. -/
def Agree (keys : List String) (ms ms' : Json.Members) : Prop :=
  ∀ key ∈ keys, Entries.get? ms key = Entries.get? ms' key

/-- A part of a definition is read from the members of some names, of the metadata and of the
resources, and from nothing else. -/
def Reads {α : Type} (part : Definition → α) (metadata resources : List String) : Prop :=
  ∀ m m' r r' d d', ofValues (.object m) (.object r) = .ok d →
    ofValues (.object m') (.object r') = .ok d' →
    Agree metadata m m' → Agree resources r r' → part d = part d'

theorem reads_of_ofMembers {α : Type} {part : Definition → α} {metadata resources : List String}
    (h : ∀ m m' r r', Agree metadata m m' → Agree resources r r' →
      part (ofMembers m r) = part (ofMembers m' r')) : Reads part metadata resources := by
  intro m m' r r' d d' hd hd' hm hr
  cases hd
  cases hd'
  exact h m m' r r' hm hr

theorem reads_metadata : Reads Definition.metadata ["title", "description", "controls"] [] := by
  refine reads_of_ofMembers fun m m' r r' hm _ => ?_
  show Metadata.ofMembers m = Metadata.ofMembers m'
  unfold Metadata.ofMembers Metadata.textMember?
  rw [hm "title" (by decide), hm "description" (by decide), hm "controls" (by decide)]

theorem reads_sprites : Reads Definition.sprites [] ["sprites", "tiles"] := by
  refine reads_of_ofMembers fun m m' r r' _ hr => ?_
  show spritesOf _ ++ spritesOf _ = spritesOf _ ++ spritesOf _
  rw [hr "sprites" (by decide), hr "tiles" (by decide)]

theorem reads_palette : Reads Definition.palette [] ["palette"] :=
  reads_of_ofMembers fun _ _ _ _ _ hr => congrArg paletteOf (hr "palette" (by decide))

theorem reads_initial : Reads Definition.initial [] ["initialState"] :=
  reads_of_ofMembers fun _ _ _ _ _ hr => congrArg initialOf (hr "initialState" (by decide))

/-! ### Definitions of values -/

theorem ofValues_eq_error_iff (metadata resources : Json) :
    (∃ e, ofValues metadata resources = .error e) ↔
      (∀ m, metadata ≠ .object m) ∨ ∀ r, resources ≠ .object r := by
  cases metadata <;> cases resources <;> simp [ofValues]

/-- There is a definition unless one of the two values is no object, it is made of the parts of the
two objects, and each part is read from members of its own. -/
theorem assembled_ofValues :
    (∀ metadata resources : Json, (∃ e, ofValues metadata resources = .error e) ↔
      (∀ m, metadata ≠ .object m) ∨ ∀ r, resources ≠ .object r) ∧
    (∀ m r : Json.Members, ∃ d, ofValues (.object m) (.object r) = .ok d ∧ Assembled m r d) ∧
    Reads Definition.metadata ["title", "description", "controls"] [] ∧
    Reads Definition.sprites [] ["sprites", "tiles"] ∧
    Reads Definition.palette [] ["palette"] ∧
    Reads Definition.initial [] ["initialState"] :=
  ⟨ofValues_eq_error_iff, fun m r => ⟨ofMembers m r, rfl, assembled_ofMembers m r⟩,
    reads_metadata, reads_sprites, reads_palette, reads_initial⟩

end Handheld.Definition
