import Handheld.Proofs.Frame.Grouped
import Handheld.Proofs.Number.Whole

/-!
# The two shapes of a frame

A grouped result describes what is shown, a flat list names the changes one by one. The two have
readers of their own. They agree: a grouped result that does not end the game does to a display
what the flat list does that empties every slot, places each sprite in the slot of its place,
writes the tiles and sets the registers.

What is malformed is skipped by both readers alike, and numbers are floored alike. The slots of a
long list are the one place where the two part: the flat list writes the number of a slot out, and
reads it back as a double, which is not always that number. But what is not, lies far behind the
last slot, where neither of the two writes anything.

* `flatEntry`, `flattened`: the flat list of a grouped result;
* `flatCommand?_spriteEntry`, `flatCommand?_tileEntry`: what its entries are read as;
* `foldl_clearEntry`: emptying each slot empties all of them;
* `apply_flattened`: the list does what the grouped result does;
* `slot?_apply_commands`: a flat list leaves the slots alone that it does not name.
-/

namespace Handheld

namespace FrameResult

/-! ### The flat list of a grouped result -/

/-- An entry of a flat list, with those of its members that there are. -/
def flatEntry (kind : String) (members : Entries (Option Json)) : Json :=
  .object (("type", .text kind) :: members.filterMap fun m => m.2.map fun v => (m.1, v))

def slotNumber (slot : Nat) : Json := .number (.whole slot)

def clearEntry (slot : Nat) : Json :=
  flatEntry "clearSprite" [("slotId", some (slotNumber slot))]

/-- The entry that places an element of `sprites` in a slot. -/
def spriteEntry (slot : Nat) (entry : Json) : Json :=
  flatEntry "sprite"
    [("slotId", some (slotNumber slot)), ("spriteId", entry.field? "spriteId"),
      ("x", entry.field? "x"), ("y", entry.field? "y")]

/-- The entry that writes an element of `tiles`. -/
def tileEntry (entry : Json) : Json :=
  flatEntry "tile"
    [("x", entry.field? "x"), ("y", entry.field? "y"), ("tileId", entry.field? "tileId")]

def backgroundEntry (index : Json) : Json := flatEntry "background" [("colorIndex", some index)]

def scoreEntry (score : Json) : Json := flatEntry "score" [("value", some score)]

/-- The flat list that shows what a grouped result shows. -/
def flattened (g : Grouped) : List Json :=
  (List.range 64).map clearEntry
    ++ (elements g.sprites).zipIdx.map (fun e => spriteEntry e.2 e.1)
    ++ (elements g.tiles).map tileEntry
    ++ g.background.toList.map backgroundEntry
    ++ g.score.toList.map scoreEntry

theorem get?_of_not_mem {members : Entries (Option Json)} {key : String}
    (hkey : key ∉ members.map Prod.fst) : Entries.get? members key = none := by
  induction members with
  | nil => rfl
  | cons m members ih =>
    rw [List.map_cons, List.mem_cons, not_or] at hkey
    rw [Entries.get?_cons, if_neg (Ne.symm hkey.1)]
    exact ih hkey.2

/-- Members of different names are found under their names. -/
theorem get?_filterMap_present {members : Entries (Option Json)}
    (hdistinct : (members.map Prod.fst).Nodup) (key : String) :
    Entries.get? (members.filterMap fun m => m.2.map fun v => (m.1, v)) key
      = (Entries.get? members key).join := by
  induction members with
  | nil => rfl
  | cons m members ih =>
    obtain ⟨name, v⟩ := m
    rw [List.map_cons, List.nodup_cons] at hdistinct
    have hrest := ih hdistinct.2
    cases v with
    | some v =>
      show (if name = key then some v else Entries.get? (members.filterMap _) key)
        = (if name = key then some (some v) else Entries.get? members key).join
      rw [hrest]
      split <;> rfl
    | none =>
      show Entries.get? (members.filterMap _) key
        = (if name = key then some none else Entries.get? members key).join
      rw [hrest]
      split
      · rename_i hname
        rw [get?_of_not_mem (hname ▸ hdistinct.1)]
        rfl
      · rfl

theorem field?_flatEntry {members : Entries (Option Json)} {kind key : String}
    (hdistinct : (members.map Prod.fst).Nodup) (hkey : "type" ≠ key) :
    (flatEntry kind members).field? key = (Entries.get? members key).join := by
  show (if "type" = key then _ else Entries.get? (members.filterMap _) key) = _
  rw [if_neg hkey]
  exact get?_filterMap_present hdistinct key

/-! ### What the entries are read as -/

theorem whole?_slotNumber {slot : Nat} (hslot : slot < 2 ^ 53) :
    (slotNumber slot).whole? = some (slot : Int) := Number.whole?_number hslot

theorem le_of_whole?_slotNumber {slot : Nat} (hslot : 64 ≤ slot) {n : Int}
    (hn : (slotNumber slot).whole? = some n) : 64 ≤ n := by
  rcases Nat.lt_or_ge slot (2 ^ 53) with hexact | hrounded
  · rw [whole?_slotNumber hexact] at hn
    cases hn
    omega
  · rw [whole?_eq] at hn
    obtain ⟨m, hm, rfl⟩ := Option.map_eq_some_iff.mp hn
    have hfloor : 2 ^ 53 ≤ m := Number.le_of_floor?_ofWhole hrounded hm
    unfold Number.saturate64 Number.clamp Number.least64 Number.greatest64
    omega

theorem flatCommand?_tileEntry (entry : Json) :
    flatCommand? (tileEntry entry) = tileCommand? entry := by
  have hfield : ∀ key, "type" ≠ key → (tileEntry entry).field? key = _ := fun key hkey =>
    field?_flatEntry (by decide : ["x", "y", "tileId"].Nodup) hkey
  show tileCommand? (tileEntry entry) = tileCommand? entry
  unfold tileCommand? wholeField?
  rw [hfield "x" (by decide), hfield "y" (by decide), hfield "tileId" (by decide)]
  rfl

/-- The entry of a sprite is read as the sprite is, after the number of its slot. -/
theorem flatCommand?_spriteEntry (slot : Nat) (entry : Json) :
    flatCommand? (spriteEntry slot entry) = (slotNumber slot).whole?.bind fun n =>
      (wholeField? entry "spriteId").bind fun sprite =>
        (coordinateField? entry "x").bind fun x =>
          (coordinateField? entry "y").bind fun y => some (.placeSprite n sprite x y) := by
  have hfield : ∀ key, "type" ≠ key → (spriteEntry slot entry).field? key = _ := fun key hkey =>
    field?_flatEntry (by decide : ["slotId", "spriteId", "x", "y"].Nodup) hkey
  show ((wholeField? (spriteEntry slot entry) "slotId").bind fun n =>
      (wholeField? (spriteEntry slot entry) "spriteId").bind fun sprite =>
        (coordinateField? (spriteEntry slot entry) "x").bind fun x =>
          (coordinateField? (spriteEntry slot entry) "y").bind fun y =>
            some (Command.placeSprite n sprite x y)) = _
  unfold wholeField? coordinateField?
  rw [hfield "slotId" (by decide), hfield "spriteId" (by decide), hfield "x" (by decide),
    hfield "y" (by decide)]
  rfl

/-! ### What the entries do -/

/-- What a command does, if there is one. -/
def effect (c : Option Command) (d : Display) : Display :=
  match c with
  | some c => c.run d
  | none => d

theorem foldl_run_cons {α : Type} (f : α → Option Command) (a : α) (items : List α) (d : Display) :
    ((a :: items).filterMap f).foldl Command.run d
      = (items.filterMap f).foldl Command.run (effect (f a) d) := by
  rw [List.filterMap_cons]
  cases f a <;> rfl

/-- Readers whose commands have the same effects have them over whole lists. -/
theorem foldl_run_congr {α : Type} {f g : α → Option Command}
    (hsame : ∀ a d, effect (f a) d = effect (g a) d) (items : List α) (d : Display) :
    (items.filterMap f).foldl Command.run d = (items.filterMap g).foldl Command.run d := by
  induction items generalizing d with
  | nil => rfl
  | cons a items ih => rw [foldl_run_cons, foldl_run_cons, hsame, ih]

theorem putSlot_of_le {slot : Int} (hslot : 64 ≤ slot) (d : Display) (v : Option Placement) :
    d.putSlot slot v = d := by
  unfold Display.putSlot
  rw [if_pos (by omega)]
  have hslots : d.slots.setIfInBounds slot.toNat v = d.slots :=
    Vector.setIfInBounds_eq_of_size_le (by omega)
  rw [hslots]

/-- A sprite behind the last slot is placed nowhere. -/
theorem effect_of_outside {c : Option Command} (d : Display)
    (houtside : ∀ e ∈ c, ∃ slot sprite x y, e = .placeSprite slot sprite x y ∧ 64 ≤ slot) :
    effect c d = d := by
  cases c with
  | none => rfl
  | some e =>
    obtain ⟨slot, sprite, x, y, rfl, hslot⟩ := houtside e rfl
    exact putSlot_of_le hslot d _

/-- An element of `sprites` does the same in both shapes. -/
theorem effect_spriteEntry (slot : Nat) (entry : Json) (d : Display) :
    effect (flatCommand? (spriteEntry slot entry)) d = effect (spriteCommand? slot entry) d := by
  rw [flatCommand?_spriteEntry]
  rcases Nat.lt_or_ge slot (2 ^ 53) with hexact | hrounded
  · rw [whole?_slotNumber hexact]
    rfl
  · -- the number may be read as another one, but both are behind the last slot
    rw [effect_of_outside d, effect_of_outside d]
    · intro c hc
      obtain ⟨sprite, x, y, rfl, -⟩ := spriteCommand?_eq_some hc
      exact ⟨slot, _, x, y, rfl, by omega⟩
    · intro c hc
      obtain ⟨n, hn, hc⟩ := Option.bind_eq_some_iff.mp hc
      obtain ⟨sprite, -, hc⟩ := Option.bind_eq_some_iff.mp hc
      obtain ⟨x, -, hc⟩ := Option.bind_eq_some_iff.mp hc
      obtain ⟨y, -, hc⟩ := Option.bind_eq_some_iff.mp hc
      exact ⟨n, sprite, x, y, (Option.some.inj hc).symm, le_of_whole?_slotNumber (by omega) hn⟩

theorem flatCommand?_clearEntry {slot : Nat} (hslot : slot < 64) :
    flatCommand? (clearEntry slot) = some (.clearSprite slot) := by
  show (slotNumber slot).whole?.map Command.clearSprite = _
  rw [whole?_slotNumber (Nat.lt_trans hslot (by decide))]
  rfl

/-- The display without what is in the slots below `n`. -/
def clearBelow (d : Display) (n : Nat) : Display :=
  { d with slots := Vector.ofFn fun i => if i.val < n then none else d.slots[i] }

theorem clearBelow_succ (d : Display) (n : Nat) :
    (clearBelow d n).clearSprite n = clearBelow d (n + 1) := by
  have hslots : (clearBelow d n).slots.setIfInBounds n none = (clearBelow d (n + 1)).slots := by
    ext i hi : 1
    rw [clearBelow, clearBelow, Vector.getElem_setIfInBounds, Vector.getElem_ofFn,
      Vector.getElem_ofFn]
    grind
  unfold Display.clearSprite Display.putSlot
  rw [if_pos (Int.natCast_nonneg n), Int.toNat_natCast, hslots]
  unfold clearBelow
  rfl

theorem foldl_clearEntries (d : Display) {n : Nat} (hn : n ≤ 64) :
    (((List.range n).map clearEntry).filterMap flatCommand?).foldl Command.run d
      = clearBelow d n := by
  induction n with
  | zero =>
    unfold clearBelow
    simp
  | succ n ih =>
    rw [List.range_succ, List.map_append, List.filterMap_append, List.foldl_append,
      ih (Nat.le_of_succ_le hn)]
    rw [List.map_singleton, foldl_run_cons, flatCommand?_clearEntry hn]
    exact clearBelow_succ d n

theorem clearBelow_all (d : Display) : clearBelow d 64 = d.clearSprites := by
  have hslots : (clearBelow d 64).slots = Vector.replicate 64 none := by
    ext i hi : 1
    rw [clearBelow, Vector.getElem_ofFn, Vector.getElem_replicate]
    exact if_pos hi
  unfold Display.clearSprites
  rw [← hslots]
  rfl

/-- Emptying each slot by its number empties all of them. -/
theorem foldl_clearEntry (d : Display) :
    (((List.range 64).map clearEntry).filterMap flatCommand?).foldl Command.run d
      = d.clearSprites :=
  (foldl_clearEntries d (Nat.le_refl 64)).trans (clearBelow_all d)

/-! ### The two shapes -/

theorem commands_flattened (g : Grouped) :
    (commands (flattened g)).frame.commands
      = ((List.range 64).map clearEntry).filterMap flatCommand?
        ++ ((elements g.sprites).zipIdx.filterMap fun e => flatCommand? (spriteEntry e.2 e.1))
        ++ (elements g.tiles).filterMap tileCommand?
        ++ ((g.background.bind Json.whole?).map Command.setBackground).toList
        ++ ((g.score.bind Json.whole?).map Command.setScore).toList := by
  have hregister : ∀ (member : Option Json) (entry : Json → Json) (c : Int → Command),
      (∀ v, flatCommand? (entry v) = v.whole?.map c) →
      (member.toList.map entry).filterMap flatCommand? = ((member.bind Json.whole?).map c).toList := by
    intro member entry c hentry
    cases member with
    | none => rfl
    | some v =>
      show [entry v].filterMap flatCommand? = (v.whole?.map c).toList
      rw [List.filterMap_cons, hentry]
      cases v.whole? <;> rfl
  show (flattened g).filterMap flatCommand? = _
  unfold flattened
  rw [List.filterMap_append, List.filterMap_append, List.filterMap_append, List.filterMap_append,
    List.filterMap_map, List.filterMap_map, List.filterMap_map,
    hregister g.background backgroundEntry .setBackground fun _ => rfl,
    hregister g.score scoreEntry .setScore fun _ => rfl,
    show flatCommand? ∘ tileEntry = tileCommand? from funext flatCommand?_tileEntry]
  rfl

/-- A grouped result that does not end the game does what its flat list does. -/
theorem apply_flattened {g : Grouped} (hover : g.gameOver ≠ some (.bool true)) (d : Display) :
    (commands (flattened g)).frame.apply d = (grouped g).frame.apply d := by
  have hplain : groupedCommands g
      = ((elements g.sprites).zipIdx.filterMap fun e => spriteCommand? e.2 e.1)
        ++ (elements g.tiles).filterMap tileCommand?
        ++ ((g.background.bind Json.whole?).map Command.setBackground).toList
        ++ ((g.score.bind Json.whole?).map Command.setScore).toList := by
    unfold groupedCommands
    rw [itemsOf_eq, itemsOf_eq]
    split
    · rename_i hend
      exact absurd hend hover
    · rw [List.append_nil]
  have hsprites : ∀ e : Json × Nat, ∀ d, effect (flatCommand? (spriteEntry e.2 e.1)) d
      = effect (spriteCommand? e.2 e.1) d := fun e => effect_spriteEntry e.2 e.1
  show (commands (flattened g)).frame.commands.foldl Command.run d
    = (groupedCommands g).foldl Command.run d.clearSprites
  simp only [commands_flattened, hplain, List.foldl_append]
  rw [foldl_clearEntry, foldl_run_congr hsprites]

/-- The slot that an entry of a flat list names. -/
def slotNamed? (entry : Json) : Option Int :=
  match entry.field? "type" with
  | some (.text "sprite") | some (.text "clearSprite") =>
    (entry.field? "slotId").bind Json.floor?
  | _ => none

theorem kindOf_of_field?_type {entry : Json} {kind : String}
    (h : entry.field? "type" = some (.text kind)) : kindOf entry = kind := by
  rw [kindOf, h]
  rfl

/-- An entry of a kind that has a name gives it as a text. -/
theorem field?_type_of_kindOf {entry : Json} {kind : String} (h : kindOf entry = kind)
    (hkind : kind ≠ "") : entry.field? "type" = some (.text kind) := by
  unfold kindOf at h
  cases htype : (entry.field? "type").bind Json.text? with
  | none =>
    rw [htype] at h
    exact absurd h.symm hkind
  | some text =>
    rw [htype] at h
    obtain ⟨v, hv, hvtext⟩ := Option.bind_eq_some_iff.mp htype
    cases v <;> cases hvtext
    rw [hv, ← h]
    rfl

/-- An entry writes at most the slot that it names. -/
theorem slot?_run_flatCommand {entry : Json} {c : Command} (hc : flatCommand? entry = some c)
    {i : Nat} (hi : i < 64) (hnamed : slotNamed? entry ≠ some (i : Int)) (d : Display) :
    (c.run d).slot? i = d.slot? i := by
  -- a number that saturates is none of a slot
  have hother : ∀ n : Int, wholeField? entry "slotId" = some n →
      slotNamed? entry = (entry.field? "slotId").bind Json.floor? →
      ∀ v, (d.putSlot n v).slot? i = d.slot? i := by
    intro n hn hkind v
    rw [Display.slot?_putSlot, if_neg]
    rintro ⟨rfl, -⟩
    rw [hkind] at hnamed
    unfold wholeField? at hn
    obtain ⟨number, hnumber, hwhole⟩ := Option.bind_eq_some_iff.mp hn
    rw [whole?_eq] at hwhole
    obtain ⟨m, hm, hsaturated⟩ := Option.map_eq_some_iff.mp hwhole
    rw [hnumber, Option.bind_some, hm,
      (saturate64_eq_iff (Int.natCast_nonneg i) (by omega)).mp hsaturated] at hnamed
    exact hnamed rfl
  unfold flatCommand? at hc
  split at hc
  case h_1 hkind =>
    simp only [bind, Option.bind_eq_some_iff] at hc
    obtain ⟨n, hn, _, _, _, _, _, _, hplace⟩ := hc
    cases hplace
    refine hother n hn ?_ _
    rw [slotNamed?, field?_type_of_kindOf hkind (by decide)]
    rfl
  case h_2 hkind =>
    obtain ⟨n, hn, rfl⟩ := Option.map_eq_some_iff.mp hc
    refine hother n hn ?_ none
    rw [slotNamed?, field?_type_of_kindOf hkind (by decide)]
    rfl
  case h_3 =>
    obtain ⟨e, -, hrun⟩ := tileCommand?_eq_some hc
    rw [hrun, Display.slot?_putCell]
  case h_4 =>
    simp only [bind, Option.bind_eq_some_iff] at hc
    obtain ⟨_, _, _, _, hclear⟩ := hc
    cases hclear
    exact Display.slot?_putCell d _ _ none i
  case h_5 =>
    obtain ⟨_, _, rfl⟩ := Option.map_eq_some_iff.mp hc
    rfl
  case h_6 =>
    obtain ⟨_, _, rfl⟩ := Option.map_eq_some_iff.mp hc
    rfl
  case h_7 => cases hc

/-- A flat list leaves the slots alone that it does not name. -/
theorem slot?_apply_commands {list : List Json} {i : Nat} (hi : i < 64)
    (hnamed : ∀ entry ∈ list, slotNamed? entry ≠ some (i : Int)) (d : Display) :
    ((commands list).frame.apply d).slot? i = d.slot? i := by
  refine foldl_run_of_forall (fun e => e.slot? i) ?_ d
  intro c hc e
  obtain ⟨entry, hentry, hread⟩ := List.mem_filterMap.mp hc
  exact slot?_run_flatCommand hread hi (hnamed entry hentry) e

theorem gameOver_apply_commands (list : List Json) (d : Display) :
    ((commands list).frame.apply d).gameOver = d.gameOver := by
  refine foldl_run_of_forall Display.gameOver ?_ d
  intro c hc e
  exact Frame.gameOver_run e c ((frame_commands_not_over list).2 c hc)

/-- The two shapes agree. Every grouped result that does not end the game does to every display
what the flat list does that empties all slots and names what the result groups; and no flat list
ends the game, or changes a slot that it does not name. -/
theorem shapes_agree :
    (∀ (g : Grouped) (d : Display), g.gameOver ≠ some (.bool true) →
      (grouped g).frame.apply d = (commands (flattened g)).frame.apply d ∧
        (grouped g).frame.raises d = (commands (flattened g)).frame.raises d) ∧
    ∀ (list : List Json) (d : Display),
      (commands list).frame.raises d = false ∧
        ((commands list).frame.apply d).gameOver = d.gameOver ∧
        ∀ i : Nat, i < 64 → (∀ entry ∈ list, slotNamed? entry ≠ some (i : Int)) →
          ((commands list).frame.apply d).slot? i = d.slot? i := by
  constructor
  · intro g d hover
    rw [Frame.raises_eq, Frame.raises_eq, apply_flattened hover]
    exact ⟨rfl, rfl⟩
  · intro list d
    refine ⟨?_, gameOver_apply_commands list d, fun i hi hnamed => slot?_apply_commands hi hnamed d⟩
    rw [Frame.raises_eq, gameOver_apply_commands]
    cases d.gameOver <;> rfl

/-- A sprite and something that is none, next to a flat list that names slot 3 alone. -/
theorem shapes_agree_sprite :
    let sprite : Json := .object
      [("spriteId", slotNumber 2), ("x", slotNumber 8), ("y", slotNumber 8)]
    let g : Grouped :=
      { sprites := some (.list [sprite, .null]), score := some (slotNumber 5),
        gameOver := some (.bool false) }
    let d := Display.new .small
    g.gameOver ≠ some (.bool true) ∧
      (grouped g).frame.apply d = (commands (flattened g)).frame.apply d ∧
      slotNamed? (spriteEntry 3 sprite) = some 3 ∧
      ((commands [spriteEntry 3 sprite]).frame.apply d).slot? 7 = d.slot? 7 := by
  intro sprite g d
  have hover : g.gameOver ≠ some (.bool true) := nofun
  have hnamed : slotNamed? (spriteEntry 3 sprite) = some 3 := by decide +kernel
  refine ⟨hover, (shapes_agree.1 g d hover).1, hnamed, ?_⟩
  refine (shapes_agree.2 [spriteEntry 3 sprite] d).2.2 7 (by decide) fun entry hentry => ?_
  rw [List.mem_singleton.mp hentry, hnamed]
  decide

end FrameResult

end Handheld
