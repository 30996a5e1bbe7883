/-!
# Named entries

A list of named values in the order in which the names first came. The members of a JSON object
and the entries of a settings table are kept this way.

## Main statements

* `get?_insert_same`, `get?_insert_other`: inserting an entry changes that entry alone.
* `get?_erase_other`: erasing an entry leaves the others alone.
-/

namespace Handheld

/-- Named values, in order. -/
abbrev Entries (α : Type) := List (String × α)

namespace Entries

variable {α : Type}

/-- The value of a name. -/
def get? : Entries α → String → Option α
  | [], _ => none
  | e :: es, name => if e.1 = name then some e.2 else get? es name

/-- Sets an entry: in its place if the name is there, at the end otherwise. -/
def insert : Entries α → String → α → Entries α
  | [], name, value => [(name, value)]
  | e :: es, name, value =>
    if e.1 = name then (name, value) :: es else e :: insert es name value

/-- Removes the entries of a name. -/
def erase (es : Entries α) (name : String) : Entries α :=
  es.filter fun e => e.1 ≠ name

@[simp] theorem get?_cons (e : String × α) (es : Entries α) (name : String) :
    get? (e :: es) name = if e.1 = name then some e.2 else get? es name := rfl

/-- An inserted entry is found under its name. -/
theorem get?_insert_same (es : Entries α) (name : String) (value : α) :
    (es.insert name value).get? name = some value := by
  induction es with
  | nil => simp [insert]
  | cons e es ih =>
    by_cases h : e.1 = name
    · simp [insert, h]
    · simp [insert, h, ih]

/-- Inserting an entry leaves the others alone. -/
theorem get?_insert_other (es : Entries α) {name other : String} (value : α)
    (h : name ≠ other) : (es.insert name value).get? other = es.get? other := by
  induction es with
  | nil => simp [insert, h]
  | cons e es ih =>
    by_cases he : e.1 = name
    · simp [insert, he, h]
    · simp [insert, he, ih]

/-- Erasing an entry leaves the others alone. -/
theorem get?_erase_other (es : Entries α) {name other : String} (h : name ≠ other) :
    (es.erase name).get? other = es.get? other := by
  induction es with
  | nil => rfl
  | cons e es ih =>
    by_cases he : e.1 = name
    · have : e.1 ≠ other := fun ho => h (he.symm.trans ho)
      simpa [erase, he, h] using ih
    · simp only [erase, ne_eq, decide_not] at ih
      simp [erase, he, ih]

end Entries

end Handheld
