import Handheld.Frame.Command
import Handheld.Palette
import Handheld.Sprite
import Handheld.Text.Split

/-!
# Game definitions

A cartridge describes itself by two values: its metadata and its resources. From them a
definition is built, leniently: only a value that is no object is refused. Whatever else is
malformed is replaced where it stands, so that the number of a sprite, which is its address in
the atlas, does not depend on its neighbours.

Tiles are numbered after the sprites. Either list may also be an object, whose members are
taken in order.

## Main statements

* `title_ne_empty`: a title is never empty.
-/

namespace Handheld

/-- A hint about the controls, for the player. -/
inductive ControlHint
  | binding (key action : String)
  | text (s : String)
  deriving Repr, DecidableEq

namespace ControlHint

/-- The hint that a value is: an object with the texts `key` and `action`, or a text. -/
def ofJson? : Json → Option ControlHint
  | .text s => some (.text s)
  | .object ms =>
    match Entries.get? ms "key", Entries.get? ms "action" with
    | some (.text key), some (.text action) => some (.binding key action)
    | _, _ => none
  | _ => none

end ControlHint

/-- What a game says about itself. -/
structure Metadata where
  title : String
  description : String
  controls : List ControlHint
  deriving Repr, DecidableEq

namespace Metadata

/-- The title of a game that has none. -/
def untitled : String := "Untitled Game"

/-- A member that is a text with at least one character. -/
def textMember? (ms : Json.Members) (key : String) : Option String :=
  ((Entries.get? ms key).bind Json.text?).filter fun s => !s.isEmpty

/-- The hints of a member; anything but a list has none. -/
def controlsOf : Option Json → List ControlHint
  | some (.list items) => items.filterMap ControlHint.ofJson?
  | _ => []

/-- The metadata of an object. -/
def ofMembers (ms : Json.Members) : Metadata :=
  { title := (textMember? ms "title").getD untitled
    description := (textMember? ms "description").getD ""
    controls := controlsOf (Entries.get? ms "controls") }

end Metadata

/-- What a game is made of. -/
structure Definition where
  metadata : Metadata
  /-- The sprites and after them the tiles; the place is the address in the atlas. -/
  sprites : List Sprite
  palette : Palette
  /-- Shown after every reset. -/
  initial : Option FrameResult

/-- Why two values define no game. -/
inductive DefinitionError
  | metadataNotObject
  | resourcesNotObject
  deriving Repr, DecidableEq

def DefinitionError.message : DefinitionError → String
  | .metadataNotObject => "metadata() must return an object"
  | .resourcesNotObject => "resources() must return an object"

namespace Definition

/-- The values listed by a member, as a list or as an object. -/
def entriesOf : Option Json → List Json
  | some (.list items) => items
  | some (.object ms) => ms.map Prod.snd
  | _ => []

def spritesOf (v : Option Json) : List Sprite :=
  (entriesOf v).map Sprite.ofJson

/-- The digits of a color's text, without the marks in front. -/
def colorDigits (s : String) : List Char :=
  let cs := Text.trimList s.toList
  let rec strip : Nat → List Char → List Char → List Char
    | 0, _, cs => cs
    | fuel + 1, mark, cs =>
      if mark.isPrefixOf cs then strip fuel mark (cs.drop mark.length) else cs
  let fuel := cs.length
  strip fuel ['0', 'X'] (strip fuel ['0', 'x'] (strip fuel ['#'] cs))

/-- The number that the digits of a color stand for. A plus sign may lead. -/
def colorNumber? (cs : List Char) : Option Nat :=
  let digits := match cs with
    | '+' :: rest => rest
    | _ => cs
  if digits.isEmpty then none
  else (Text.hexNumber? digits).filter fun n => n < 4294967296

/-- The number of a palette entry: a number as it is, a text by its digits of base sixteen, and
no number for anything else. -/
def paletteNumber : Json → Float
  | .number n => n.toFloat
  | .text s =>
    match colorNumber? (colorDigits s) with
    | some n => Number.ofWhole n
    | none => 0.0 / 0.0
  | _ => 0.0 / 0.0

/-- The palette of a member; the standard palette for anything but a list. -/
def paletteOf : Option Json → Palette
  | some (.list items) => .ofNumbers (items.map paletteNumber)
  | _ => .standard

/-- The initial state with `backgroundColor` standing in for a missing `background`. -/
def initialValue : Json → Json
  | .object ms =>
    if (Entries.get? ms "background").isSome then .object ms
    else
      match Entries.get? ms "backgroundColor" with
      | some color =>
        .object (Entries.insert (Entries.erase ms "backgroundColor") "background" color)
      | none => .object ms
  | v => v

/-- The initial state of a member, if it shows anything. -/
def initialOf (v : Option Json) : Option FrameResult :=
  match v with
  | some value => (FrameResult.ofJson? (initialValue value)).filter fun r => !r.isEmpty
  | none => none

/-- The definition of a pair of objects. -/
def ofMembers (metadata resources : Json.Members) : Definition :=
  { metadata := .ofMembers metadata
    sprites :=
      spritesOf (Entries.get? resources "sprites")
        ++ spritesOf (Entries.get? resources "tiles")
    palette := paletteOf (Entries.get? resources "palette")
    initial := initialOf (Entries.get? resources "initialState") }

/-- The definition of what a cartridge returned. -/
def ofValues (metadata resources : Json) : Except DefinitionError Definition :=
  match metadata, resources with
  | .object m, .object r => .ok (ofMembers m r)
  | .object _, _ => .error .resourcesNotObject
  | _, _ => .error .metadataNotObject

/-- What the log tells about a definition. -/
inductive Remark
  | sprite (r : Sprite.Remark)
  | notSprites (field : String)
  | appendedTiles (count : Nat)
  | notPalette
  | longPalette (count : Nat)
  | unusableInitial (reason : String)
  | notControls

/-- The remarks about a member that lists sprites. -/
def spriteRemarks (field : String) (v : Option Json) : List Remark :=
  match v with
  | some (.list _) | some (.object _) =>
    ((entriesOf v).flatMap Sprite.remarks).map .sprite
  | some .null | none => []
  | some _ => [.notSprites field]

def paletteRemarks : Option Json → List Remark
  | some (.list items) =>
    if Palette.capacity < items.length then [.longPalette items.length] else []
  | some _ => [.notPalette]
  | none => []

def initialRemarks : Option Json → List Remark
  | some value =>
    let v := initialValue value
    if (FrameResult.ofJson? v).isNone then [.unusableInitial (FrameResult.unusable v)] else []
  | none => []

def controlsRemarks : Option Json → List Remark
  | some (.list _) | none => []
  | some _ => [.notControls]

/-- The remarks about a definition, in the order in which its parts are read. -/
def remarks (metadata resources : Json) : List Remark :=
  match metadata, resources with
  | .object m, .object r =>
    let tiles := (spritesOf (Entries.get? r "tiles")).length
    spriteRemarks "sprites" (Entries.get? r "sprites")
      ++ spriteRemarks "tiles" (Entries.get? r "tiles")
      ++ (if 0 < tiles then [.appendedTiles tiles] else [])
      ++ paletteRemarks (Entries.get? r "palette")
      ++ initialRemarks (Entries.get? r "initialState")
      ++ controlsRemarks (Entries.get? m "controls")
  | _, _ => []

/-- A title is never empty. -/
theorem title_ne_empty (ms : Json.Members) : (Metadata.ofMembers ms).title ≠ "" := by
  unfold Metadata.ofMembers Metadata.textMember?
  cases h : ((Entries.get? ms "title").bind Json.text?).filter fun s => !s.isEmpty with
  | none => simp [Metadata.untitled]
  | some s =>
    have := (Option.filter_eq_some_iff.mp h).2
    intro he
    simp at he
    simp [he] at this

end Definition

end Handheld
