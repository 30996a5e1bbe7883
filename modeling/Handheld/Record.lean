import Handheld.Definition

/-!
# The leaderboard, and records as JSON

Scores are reported to a leaderboard outside the console, which also hands out the ranked list. This
file holds what goes back and forth, and the ways in which an outside service can fail.

Reports, metadata and the rows of the leaderboard travel as JSON. A record is written as an
object of its fields. It is read from an object, where other members do not matter, or from the
list of its fields in order. Reading is strict: a field of the wrong type refuses the record.

## Contents

* `LeaderboardEntry`, `Submission`, `ServiceError`: what a leaderboard answers.
* `Record.fields?`: the fields of a value, by name or by place.
* `ofRecord?` and `toJson` for each record.

## Main statements

* `ControlHint.ofJson?_toJson`, `Submission.ofRecord?_toJson`, `LeaderboardEntry.ofRecord?_toJson`:
  what is written is read back.
-/

namespace Handheld

/-- A ranked row of the leaderboard. -/
structure LeaderboardEntry where
  rank : Nat
  player : String
  score : Int
  deriving Repr, DecidableEq

/-- The answer to a submitted score. -/
structure Submission where
  isHighScore : Bool := false
  rank : Option Nat := none
  deriving Repr, DecidableEq

/-- Why an outside service gave no answer. -/
inductive ServiceError
  | unavailable (detail : String)
  | rejected (detail : String)
  deriving Repr, DecidableEq

def ServiceError.message : ServiceError → String
  | .unavailable detail => "Service unavailable: " ++ detail
  | .rejected detail => "Request rejected: " ++ detail

namespace Record

/-- The fields of a record, by name: the members of an object, or the items of a list under the
names in order. A list with too many items is no record. -/
def fields? (names : List String) : Json → Option Json.Members
  | .object ms => some ms
  | .list items => if items.length ≤ names.length then some (names.zip items) else none
  | _ => none

def field? (ms : Json.Members) (name : String) : Option Json := Entries.get? ms name

def text? (ms : Json.Members) (name : String) : Option String :=
  (field? ms name).bind Json.text?

/-- A field that is a whole number within bounds. -/
def whole? (low high : Int) : Json → Option Int
  | .number (.whole n) => if low ≤ n ∧ n ≤ high then some n else none
  | _ => none

/-- A field that is true or false. -/
def flag? (ms : Json.Members) (name : String) : Option Bool :=
  match field? ms name with
  | some (.bool b) => some b
  | _ => none

/-- A text field that is empty if it is not there. -/
def textOrEmpty? (ms : Json.Members) (name : String) : Option String :=
  match field? ms name with
  | some v => v.text?
  | none => some ""

def greatestRank : Int := 4294967295

end Record

def ControlHint.toJson : ControlHint → Json
  | .binding key action => .object [("key", .text key), ("action", .text action)]
  | .text s => .text s

def Metadata.toJson (m : Metadata) : Json :=
  .object
    [("title", .text m.title), ("description", .text m.description),
     ("controls", .list (m.controls.map ControlHint.toJson))]

def Metadata.ofRecord? (v : Json) : Option Metadata := do
  let ms ← Record.fields? ["title", "description", "controls"] v
  let title ← Record.text? ms "title"
  let description ← Record.text? ms "description"
  match Record.field? ms "controls" with
  | some (.list items) => return ⟨title, description, ← items.mapM ControlHint.ofJson?⟩
  | _ => none

def GuestReport.toJson (r : GuestReport) : Json :=
  .object [("message", .text r.message), ("stack", .text r.stack), ("name", .text r.name)]

def GuestReport.ofRecord? (v : Json) : Option GuestReport := do
  let ms ← Record.fields? ["message", "stack", "name"] v
  return ⟨← Record.textOrEmpty? ms "message", ← Record.textOrEmpty? ms "stack",
    ← Record.textOrEmpty? ms "name"⟩

def LeaderboardEntry.toJson (e : LeaderboardEntry) : Json :=
  .object
    [("rank", .number (.whole e.rank)), ("player", .text e.player),
     ("score", .number (.whole e.score))]

/-- Reads a row. -/
def LeaderboardEntry.ofRecord? (v : Json) : Option LeaderboardEntry := do
  let ms ← Record.fields? ["rank", "player", "score"] v
  let rank ← (Record.field? ms "rank").bind (Record.whole? 0 Record.greatestRank)
  let player ← Record.text? ms "player"
  let score ← (Record.field? ms "score").bind
    (Record.whole? Number.least64 Number.greatest64)
  return ⟨rank.toNat, player, score⟩

def Submission.toJson (s : Submission) : Json :=
  .object
    [("isHighScore", .bool s.isHighScore),
     ("rank", match s.rank with
       | some n => .number (.whole n)
       | none => .null)]

/-- A rank that may be missing, as null or altogether. -/
def Submission.rank? (v : Option Json) : Option (Option Nat) :=
  match v with
  | none | some .null => some none
  | some v => (Record.whole? 0 Record.greatestRank v).map fun n => some n.toNat

/-- Reads the answer to a score. A list has both fields. -/
def Submission.ofRecord? (v : Json) : Option Submission := do
  let ms ← Record.fields? ["isHighScore", "rank"] v
  let high ← Record.flag? ms "isHighScore"
  let rank ← match v, Record.field? ms "rank" with
    | .list _, none => none
    | _, rank => Submission.rank? rank
  return ⟨high, rank⟩

/-- A hint that is written is read back. -/
theorem ControlHint.ofJson?_toJson (h : ControlHint) : ControlHint.ofJson? h.toJson = some h := by
  cases h <;> simp [toJson, ofJson?]

/-- An answer that is written is read back. -/
theorem Submission.ofRecord?_toJson (s : Submission)
    (h : ∀ n, s.rank = some n → n ≤ 4294967295) : Submission.ofRecord? s.toJson = some s := by
  obtain ⟨high, rank⟩ := s
  cases rank with
  | none => simp [toJson, ofRecord?, Record.fields?, Record.flag?, Record.field?, rank?]
  | some n =>
    have hn : (n : Int) ≤ Record.greatestRank := by
      have := h n rfl
      unfold Record.greatestRank
      omega
    simp [toJson, ofRecord?, Record.fields?, Record.flag?, Record.field?, rank?, Record.whole?, hn]

/-- A row that is written is read back. -/
theorem LeaderboardEntry.ofRecord?_toJson (e : LeaderboardEntry) (hr : e.rank ≤ 4294967295)
    (hl : Number.least64 ≤ e.score) (hg : e.score ≤ Number.greatest64) :
    LeaderboardEntry.ofRecord? e.toJson = some e := by
  obtain ⟨rank, player, score⟩ := e
  have hn : (rank : Int) ≤ Record.greatestRank := by
    unfold Record.greatestRank
    simp at hr
    omega
  simp at hl hg
  simp [toJson, ofRecord?, Record.fields?, Record.field?, Record.text?, Record.whole?, Json.text?,
    hn, hl, hg]

end Handheld
