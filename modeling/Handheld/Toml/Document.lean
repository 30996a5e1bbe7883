import Handheld.Settings.Value

/-!
# Tables of settings files

The statements of a file build a tree of tables. A table is named by a header, implied by a
longer header, or made by a dotted key, and each of these may be entered in its own way only:
no key and no table is written twice, a header never adds to what a dotted key made, and a
dotted key never adds to what a header made.

## Contents

* `Node`: what a name stands for.
* `Document`: the tree and the table that statements go to.
* `Document.add?`, `Document.open?`, `Document.append?`: the effect of each statement.

## Main statements

* `addValue?_taken`: a name that is taken is refused.
-/

namespace Handheld.Toml

/-- How a table came to be. -/
inductive TableOrigin
  | header
  | implied
  | dotted
  deriving Repr, DecidableEq

/-- What a name stands for. -/
inductive Node
  | value (s : Setting)
  | table (origin : TableOrigin) (entries : List (String × Node))
  /-- Tables under one header that is written several times. -/
  | tables (list : List (List (String × Node)))

/-- Does something to the table at the end of a path. Tables that are missing are made; the last
of several tables stands for all. -/
def within (dotted : Bool) (act : TableOrigin → Entries Node → Option (Entries Node)) :
    List String → TableOrigin → Entries Node → Option (Entries Node)
  | [], origin, es => act origin es
  | name :: path, _, es =>
    match es.get? name with
    | none =>
      let origin := if dotted then TableOrigin.dotted else .implied
      (within dotted act path origin []).map fun inner => es.insert name (.table origin inner)
    | some (.value _) => none
    | some (.table origin inner) =>
      if dotted && origin = .header then none
      else
        (within dotted act path origin inner).map fun inner =>
          es.insert name (.table origin inner)
    | some (.tables list) =>
      match list.getLast? with
      | none => none
      | some last =>
        (within dotted act path .header last).map fun inner =>
          es.insert name (.tables (list.dropLast ++ [inner]))

/-- Sets a value that has no entry yet. A dotted key ends in a table of dotted keys, and a plain
one does not. -/
def addValue? (name : String) (plain : Bool) (s : Setting) (origin : TableOrigin)
    (es : Entries Node) : Option (Entries Node) :=
  if (origin = .dotted) = plain then none
  else if (es.get? name).isSome then none
  else some (es.insert name (.value s))

def addUnder? (path : List String) (s : Setting) (origin : TableOrigin) (es : Entries Node) :
    Option (Entries Node) :=
  match path.getLast? with
  | none => none
  | some name =>
    within true (addValue? name (path.length = 1) s) path.dropLast origin es

/-- Starts a table under a header; one that longer headers implied is taken over. -/
def startTable? (name : String) (es : Entries Node) : Option (Entries Node) :=
  match es.get? name with
  | none => some (es.insert name (.table .header []))
  | some (.table .implied inner) => some (es.insert name (.table .header inner))
  | some _ => none

/-- Starts one more table under a header that is written several times. -/
def startItem? (name : String) (es : Entries Node) : Option (Entries Node) :=
  match es.get? name with
  | none => some (es.insert name (.tables [[]]))
  | some (.tables list) => some (es.insert name (.tables (list ++ [[]])))
  | some _ => none

/-- The tables of a file and the one that statements go to. -/
structure Document where
  root : Entries Node := []
  current : List String := []

namespace Document

/-- Sets a value in the current table. -/
def add? (d : Document) (path : List String) (s : Setting) : Option Document :=
  (within false (addUnder? path s) d.current .header d.root).map fun root =>
    { d with root := root }

/-- Follows a header to its parent table and starts a table there. -/
def enter? (start : String → Entries Node → Option (Entries Node)) (d : Document)
    (path : List String) : Option Document :=
  match path.getLast? with
  | none => none
  | some name =>
    (within false (fun _ => start name) path.dropLast .header d.root).map fun root =>
      ⟨root, path⟩

/-- Starts a table. -/
def open? (d : Document) (path : List String) : Option Document := enter? startTable? d path

/-- Starts one more of several tables. -/
def append? (d : Document) (path : List String) : Option Document := enter? startItem? d path

end Document

mutual
def Node.setting : Node → Setting
  | .value s => s
  | .table _ es => .table (entrySettings es)
  | .tables list => .list (tableSettings list)
def entrySettings : List (String × Node) → Entries Setting
  | [] => []
  | (name, node) :: es => (name, node.setting) :: entrySettings es
def tableSettings : List (List (String × Node)) → List Setting
  | [] => []
  | t :: ts => .table (entrySettings t) :: tableSettings ts
end

/-- The table that pairs of a dotted key and a value make. -/
def tableOf? (pairs : List (List String × Setting)) : Option Setting :=
  (pairs.foldlM (fun es p => addUnder? p.1 p.2 .header es) []).map fun es =>
    .table (entrySettings es)

/-- A name that is taken is refused. -/
theorem addValue?_taken (name : String) (plain : Bool) (s : Setting) (origin : TableOrigin)
    {es : Entries Node} (h : (es.get? name).isSome) :
    addValue? name plain s origin es = none := by
  simp [addValue?, h]

end Handheld.Toml
