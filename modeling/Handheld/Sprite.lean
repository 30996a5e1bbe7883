import Handheld.Json.Basic
import Handheld.Text.Hex

/-!
# Sprites

A sprite is eight by eight palette indices. A cartridge writes it in one of two forms: as one
to four bit-layers, eight bytes each with the leftmost pixel in the highest bit, whose bits
combine into an index with the first layer lowest; or as eight rows of eight digits of base
sixteen, each digit an index.

Reading a sprite never fails. What is malformed becomes transparent where it stands and leaves
its neighbours alone: a layer keeps its place, so the layers after it keep their weight.

## Contents

* `Layer`, `IndexGrid`, `Sprite`: the two forms.
* `Sprite.pixel`: the index at a point, whichever the form.
* `Sprite.ofJson`: the sprite that a value describes.
* `Sprite.remarks`: what a reader of the log is told about a malformed sprite.

## Main statements

* `combine_lt`: the index of `n` layers is below `2 ^ n`.
* `pixel_outside`: outside the sprite everything is transparent.
-/

namespace Handheld

/-- The side of a sprite and of a tile cell, in pixels. -/
def cellSide : Nat := 8

/-- One bit per pixel: eight rows of a byte, the leftmost pixel in the highest bit. -/
abbrev Layer := Vector UInt8 8

/-- A palette index per pixel, row by row. -/
abbrev IndexGrid := Vector (Vector Nat 8) 8

/-- A sprite in one of its two forms. -/
inductive Sprite
  | layers (layers : List Layer)
  | digits (rows : IndexGrid)
  deriving Repr, DecidableEq

namespace Sprite

def maxLayers : Nat := 4

def emptyLayer : Layer := Vector.replicate 8 0

def emptyRow : Vector Nat 8 := Vector.replicate 8 0

/-- The sprite without a visible pixel. -/
def blank : Sprite := .digits (Vector.replicate 8 emptyRow)

/-- The bit of a layer at a point. -/
def bitAt (layer : Layer) (x y : Nat) : Nat :=
  ((layer[y]?.getD 0).toNat.testBit (7 - x)).toNat

/-- The index that layers combine into at a point, the first layer lowest. -/
def combine : List Layer → Nat → Nat → Nat
  | [], _, _ => 0
  | layer :: rest, x, y => bitAt layer x y + 2 * combine rest x y

/-- The palette index at a point; transparent outside the sprite. -/
def pixel (s : Sprite) (x y : Nat) : Nat :=
  if x < 8 ∧ y < 8 then
    match s with
    | .layers ls => combine ls x y
    | .digits rows => ((rows[y]?.getD emptyRow)[x]?).getD 0
  else 0

/-- Every index of a sprite. -/
def indices (s : Sprite) : IndexGrid :=
  Vector.ofFn fun y => Vector.ofFn fun x => s.pixel x y

/-- The rows of a sprite as digits of base sixteen. -/
def rowTexts (s : Sprite) : List String :=
  s.indices.toList.map fun row => String.ofList (row.toList.map Text.hexDigit)

/-- The byte of a value: its floor between 0 and 255, and 0 for anything but a number. -/
def byteOf (v : Json) : UInt8 :=
  UInt8.ofNat (Number.clamp 0 255 (v.whole?.getD 0)).toNat

/-- The layer of a value: eight bytes, or empty for anything but a list of eight. -/
def layerOf (v : Json) : Layer :=
  match v with
  | .list items =>
    if items.length = 8 then Vector.ofFn fun y => byteOf (items[y.val]?.getD .null) else emptyLayer
  | _ => emptyLayer

/-- The sprite of a list of layers; layers beyond the fourth are left out. -/
def ofLayers (items : List Json) : Sprite :=
  .layers ((items.take maxLayers).map layerOf)

/-- The indices of a row: eight digits, a wrong one read as 0, or nothing visible for anything
but a text of eight characters. -/
def rowOf (v : Option Json) : Vector Nat 8 :=
  match v with
  | some (.text s) =>
    let cs := s.toList
    if cs.length = 8 then
      Vector.ofFn fun x => ((cs[x.val]?).bind Text.hexValue?).getD 0
    else emptyRow
  | _ => emptyRow

def ofRows (rows : List Json) : Sprite :=
  .digits (Vector.ofFn fun y => rowOf rows[y.val]?)

/-- The sprite that a value describes. -/
def ofJson (v : Json) : Sprite :=
  match v with
  | .list (.text s :: rest) => ofRows (.text s :: rest)
  | .list items => ofLayers items
  | .object ms =>
    match Entries.get? ms "layers" with
    | some (.list items) => ofLayers items
    | _ => blank
  | _ => blank

/-- What the log tells about a malformed sprite. -/
inductive Remark
  | noLayers
  | unrecognized (kind : String)
  | extraLayers (count : Nat)
  | malformedLayer
  | malformedRow
  deriving Repr, DecidableEq

def kindOf : Json → String
  | .null => "null"
  | .bool _ => "bool"
  | .number _ => "number"
  | .text _ => "string"
  | .list _ => "array"
  | .object _ => "object"

def layerRemarks (v : Json) : List Remark :=
  match v with
  | .list items => if items.length = 8 then [] else [.malformedLayer]
  | _ => [.malformedLayer]

def layersRemarks (items : List Json) : List Remark :=
  (if maxLayers < items.length then [.extraLayers items.length] else [])
    ++ (items.take maxLayers).flatMap layerRemarks

def rowRemarks (v : Json) : List Remark :=
  match v with
  | .text s => if s.length = 8 then [] else [.malformedRow]
  | _ => [.malformedRow]

/-- The remarks about a sprite, in reading order. -/
def remarks (v : Json) : List Remark :=
  match v with
  | .list (.text s :: rest) => ((Json.text s :: rest).take 8).flatMap rowRemarks
  | .list items => layersRemarks items
  | .object ms =>
    match Entries.get? ms "layers" with
    | some (.list items) => layersRemarks items
    | _ => [.noLayers]
  | other => [.unrecognized (kindOf other)]

/-- A bit is 0 or 1. -/
theorem bitAt_lt (layer : Layer) (x y : Nat) : bitAt layer x y < 2 := by
  unfold bitAt
  exact Bool.toNat_lt _

/-- The index of some layers is below the power of two of their number. -/
theorem combine_lt (ls : List Layer) (x y : Nat) : combine ls x y < Nat.pow 2 ls.length := by
  induction ls with
  | nil => simp [combine]
  | cons l ls ih =>
    have hbit := bitAt_lt l x y
    have hpower : Nat.pow 2 (ls.length + 1) = Nat.pow 2 ls.length * 2 := rfl
    simp only [combine, List.length_cons]
    omega

/-- Outside the sprite everything is transparent. -/
theorem pixel_outside (s : Sprite) {x y : Nat} (h : ¬(x < 8 ∧ y < 8)) : s.pixel x y = 0 := by
  simp [pixel, h]

end Sprite

end Handheld
