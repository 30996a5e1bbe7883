import Handheld.Proofs.Sandbox.Realm

/-!
# What counts as a fault

A call of the game can go wrong in three places. The call itself may throw, or never end. What it
returned may refuse to be copied out. What was copied may be no frame: a boolean, a number or a
text, or an object with an error in it. A thrown value is first made a report, which may itself
refuse to be copied out; if it does not, it is an object with an error in it. So whatever is
thrown ends as a fault.

A fault is counted. In everything else that it leaves of the sandbox it is no different from an
answer, and nothing else depends on how many faults were counted.

* `Guest.Completion.Faulty`, `faulty_iff`: exactly these calls are faults;
* `blame`, `realmAfter`, `invoke_snd`: what a frame leaves of the sandbox;
* `faulting`, `load_faulting`, `answer_faulting`: a sandbox that counted more faults;
* `Guest.Process.ending`, `cueing`: a game whose call ends in a way that is given.
-/

namespace Handheld

namespace Guest

/-! ### Faults -/

/-- The calls of the game that are faults. -/
inductive Completion.Faulty : Completion → Prop
  | thrown (t : Thrown) : Faulty (.thrown t)
  /-- The budget ended the call. -/
  | endless : Faulty .endless
  | uncopied {v : Value} {fault : CopyFault} (h : v.copyOut = .error fault) : Faulty (.returned v)
  | bool {v : Value} {b : Bool} (h : v.copyOut = .ok (.bool b)) : Faulty (.returned v)
  | number {v : Value} {n : Json.Number} (h : v.copyOut = .ok (.number n)) : Faulty (.returned v)
  | text {v : Value} {text : String} (h : v.copyOut = .ok (.text text)) : Faulty (.returned v)
  /-- An object with an error in it, whatever else it holds. -/
  | reported {v : Value} {ms : Json.Members} {error : Json} (h : v.copyOut = .ok (.object ms))
      (herror : Json.present? (Entries.get? ms "error") = some error) : Faulty (.returned v)

theorem eq_reportValue {t : Thrown} {v : Value} (h : t.report? = some v) :
    ∃ message stack name, v = reportValue message stack name := by
  cases t with
  | error name message => exact ⟨_, _, _, (Option.some.inj h).symm⟩
  | value thrown =>
    simp only [Thrown.report?, Option.bind_eq_bind, Option.bind_eq_some_iff] at h
    obtain ⟨message, _, stack, _, name, _, hv⟩ := h
    exact ⟨_, _, _, (Option.some.inj hv).symm⟩

/-- An object with an object in it is read back as one, if there is room for it. -/
theorem reread_nested {room : Nat} {key : String} {ws : List (String × Value)} {json : Json}
    (h : (Value.object [(key, .object ws)]).reread (room + 2) = .ok json) :
    ∃ ms, json = .object [(key, .object ms)] := by
  rw [Value.reread, rereadMembers, Value.reread] at h
  rcases hinner : rereadMembers room ws with fault | ms
  · rw [hinner] at h
    cases h
  · rw [hinner] at h
    exact ⟨ms, (Except.ok.inj h).symm⟩

/-- A report that can be copied out is an object with an error in it. -/
theorem copyOut_reportValue {message stack name : Value} {json : Json}
    (h : (reportValue message stack name).copyOut = .ok json) :
    ∃ ms, json = .object [("error", .object ms)] := by
  unfold reportValue Value.copyOut at h
  rw [Value.written, writtenMembers, Value.written] at h
  rcases hwritten : writtenMembers [("message", message), ("stack", stack), ("name", name)] with
    fault | ws
  · rw [hwritten] at h
    cases h
  · rw [hwritten] at h
    exact reread_nested h

/-! ### Calls that end as one likes -/

/-- An entry that ends in a given way. -/
def Completion.entry : Completion → Entry
  | .returned v => { action := .give (.value v) }
  | .thrown (.error name message) => { action := .throwError name message }
  | .thrown (.value v) => { action := .throwValue (.value v) }
  | .endless => { action := .loop }

theorem run_entry (c : Completion) (s : Scope) : c.entry.run s = { completion := c } := by
  rcases c with v | (⟨name, message⟩ | v) | _ <;> rfl

/-- A process whose call ends in a given way. -/
def Process.ending (c : Completion) : Process := .script { entries := [c.entry] } 0

theorem call_ending (c : Completion) (delta : Float) (input : List (String × Bool)) :
    ((Process.ending c).call delta input).1 = { completion := c } :=
  run_entry c _

end Guest

namespace Sandbox

open Guest (Completion)

theorem classify_error (ms : Json.Members) {error : Json}
    (h : Json.present? (Entries.get? ms "error") = some error) :
    classify (.object ms) = .error (.reported (FrameResult.reportOf error)) := by
  have herror : (FrameResult.groupedOf ms).error = some error := h
  unfold classify
  simp only [FrameResult.ofJson?, FrameResult.report?, herror, Option.map_some]

theorem outcome_of_error {c : Completion} {fault : GuestError} (h : copied c = .error fault) :
    outcome c = .error fault := by
  unfold outcome
  rw [h]
  rfl

theorem outcome_of_ok {c : Completion} {json : Json} (h : copied c = .ok json) :
    outcome c = classify json := by
  unfold outcome
  rw [h]
  rfl

theorem outcome_uncopied {v : Guest.Value} {fault : Guest.CopyFault}
    (h : v.copyOut = .error fault) : outcome (.returned v) = .error (.thrown fault.message) := by
  refine outcome_of_error ?_
  show v.copyOut.mapError _ = _
  rw [h]
  rfl

theorem outcome_returned {v : Guest.Value} {json : Json} (h : v.copyOut = .ok json) :
    outcome (.returned v) = classify json := by
  refine outcome_of_ok ?_
  show v.copyOut.mapError _ = _
  rw [h]
  rfl

/-- A thrown value for which there is a report ends as if the report had been returned. -/
theorem outcome_reported {t : Guest.Thrown} {v : Guest.Value} (h : t.report? = some v) :
    outcome (.thrown t) = outcome (.returned v) := by
  have hcopied : copied (.thrown t) = copied (.returned v) := by
    simp only [copied, h]
  unfold outcome
  rw [hcopied]

/-- What is thrown ends as a fault, whether or not it can be reported. -/
theorem outcome_thrown (t : Guest.Thrown) : ∃ fault, outcome (.thrown t) = .error fault := by
  cases hreport : t.report? with
  | none =>
    refine ⟨.thrown Guest.unreportable, outcome_of_error ?_⟩
    simp only [copied, hreport]
  | some v =>
    obtain ⟨message, stack, name, rfl⟩ := Guest.eq_reportValue hreport
    rw [outcome_reported hreport]
    cases hcopy : (Guest.reportValue message stack name).copyOut with
    | error fault => exact ⟨_, outcome_uncopied hcopy⟩
    | ok json =>
      obtain ⟨ms, rfl⟩ := Guest.copyOut_reportValue hcopy
      exact ⟨_, (outcome_returned hcopy).trans (classify_error _ rfl)⟩

/-- A call is a fault exactly if it goes wrong in one of these ways. -/
theorem faulty_iff (c : Completion) : c.Faulty ↔ ∃ fault, outcome c = .error fault := by
  constructor
  · intro h
    cases h with
    | thrown t => exact outcome_thrown t
    | endless => exact ⟨_, rfl⟩
    | uncopied h => exact ⟨_, outcome_uncopied h⟩
    | bool h | number h | text h => exact ⟨_, outcome_returned h⟩
    | reported h herror => exact ⟨_, (outcome_returned h).trans (classify_error _ herror)⟩
  · rintro ⟨fault, h⟩
    cases c with
    | thrown t => exact .thrown t
    | endless => exact .endless
    | returned v =>
      cases hcopy : v.copyOut with
      | error fault => exact .uncopied hcopy
      | ok json =>
        rw [outcome_returned hcopy] at h
        cases json with
        | bool b => exact .bool hcopy
        | number n => exact .number hcopy
        | text s => exact .text hcopy
        | null | list items => cases h
        | object ms =>
          cases herror : Json.present? (Entries.get? ms "error") with
          | some error => exact .reported hcopy herror
          | none =>
            have hnone : (FrameResult.groupedOf ms).error = none := herror
            unfold classify at h
            simp only [FrameResult.ofJson?, FrameResult.report?, hnone, Option.map_none] at h
            cases h

/-! ### What a frame leaves -/

/-- How many faults an answer counts for. -/
def blame : Except GuestError FrameResult → Nat
  | .ok _ => 0
  | .error _ => 1

/-- The cartridge after a frame, with its process moved on. -/
def realmAfter (s : Sandbox) (delta : Float) (input : InputSnapshot) : Option Realm :=
  match s.ready, s.realm with
  | true, some realm =>
    some { realm with
      process := (realm.process.call delta (input.fields s.limits.systemButtons)).2 }
  | _, realm => realm

/-- A frame moves the process on and counts its fault, if it is one. -/
theorem invoke_snd (s : Sandbox) (delta : Float) (input : InputSnapshot) :
    (s.invoke delta input).2.1
      = { s with
          realm := s.realmAfter delta input
          faults := s.faults + blame (s.answer delta input) } := by
  obtain ⟨limits, ready, realm, faults, withdrawn⟩ := s
  cases ready with
  | false => rfl
  | true =>
    cases realm with
    | none => rfl
    | some realm =>
      unfold invoke answer realmAfter
      simp only
      split <;> rename_i h <;> rw [h] <;> rfl

theorem isLoaded_invoke (s : Sandbox) (delta : Float) (input : InputSnapshot) :
    (s.invoke delta input).2.1.isLoaded = s.isLoaded := by
  rw [invoke_snd]
  obtain ⟨limits, ready, realm, faults, withdrawn⟩ := s
  cases ready <;> cases realm <;> rfl

theorem limits_invoke (s : Sandbox) (delta : Float) (input : InputSnapshot) :
    (s.invoke delta input).2.1.limits = s.limits := by
  rw [invoke_snd]

theorem ready_invoke (s : Sandbox) (delta : Float) (input : InputSnapshot) :
    (s.invoke delta input).2.1.ready = s.ready := by
  rw [invoke_snd]

/-! ### More faults -/

/-- The sandbox with a number of faults more. -/
def faulting (s : Sandbox) (n : Nat) : Sandbox := { s with faults := s.faults + n }

theorem answer_faulting (s : Sandbox) (n : Nat) : (s.faulting n).answer = s.answer := rfl

theorem invoke_faulting (s : Sandbox) (n : Nat) (delta : Float) (input : InputSnapshot) :
    ((s.faulting n).invoke delta input).2.1 = (s.invoke delta input).2.1.faulting n := by
  rw [invoke_snd, invoke_snd]
  show Sandbox.mk _ _ _ (s.faults + n + blame (s.answer delta input)) _
    = Sandbox.mk _ _ _ (s.faults + blame (s.answer delta input) + n) _
  rw [Nat.add_right_comm]
  rfl

theorem releaseRealm_faulting (s : Sandbox) (n : Nat) :
    (s.faulting n).releaseRealm = (s.releaseRealm.1.faulting n, s.releaseRealm.2) := by
  obtain ⟨limits, ready, realm, faults, withdrawn⟩ := s
  cases realm <;> rfl

theorem acquire_faulting (s : Sandbox) (n : Nat) :
    (s.faulting n).acquire.1 = s.acquire.1.faulting n := by
  rw [acquire_fst, acquire_fst]
  rfl

theorem release_faulting (s : Sandbox) (n : Nat) :
    (s.faulting n).release.1 = s.release.1.faulting n := by
  rw [release_fst, release_fst]
  rfl

/-- A load does not depend on the faults, and leaves them as they are. -/
theorem load_faulting (s : Sandbox) (n : Nat) (c : Guest.Cartridge) :
    (s.faulting n).load c = ((s.load c).1, (s.load c).2.1.faulting n, (s.load c).2.2) := by
  unfold load
  rw [releaseRealm_faulting]
  obtain ⟨t, released⟩ := s.releaseRealm
  have hboot : (t.faulting n).boot c = t.boot c := rfl
  have hready : (t.faulting n).ready = t.ready := rfl
  have hlimits : (t.faulting n).limits = t.limits := rfl
  simp only [hboot, hready, hlimits]
  split
  · rfl
  · split
    · rfl
    · split <;> rfl

/-! ### A game that ends its call as one likes -/

/-- The sandbox with a game whose call ends in a given way, if there is a game. -/
def cueing (s : Sandbox) (ending : Completion) : Sandbox :=
  { s with realm := s.realm.map fun realm => { realm with process := .ending ending } }

theorem answer_cueing {s : Sandbox} (h : s.isPlayable = true) (ending : Completion)
    (delta : Float) (input : InputSnapshot) :
    (s.cueing ending).answer delta input = outcome ending := by
  obtain ⟨limits, ready, realm, faults, withdrawn⟩ := s
  cases ready with
  | false => cases h
  | true =>
    cases realm with
    | none => cases h
    | some realm =>
      show outcome ((Guest.Process.ending ending).call delta _).1.completion = _
      rw [Guest.call_ending]

/-- Without a game that can be called there is nothing to be cued, and the frame is empty. -/
theorem result_cueing (s : Sandbox) {ending : Completion}
    (hempty : resultOf (outcome ending) = .empty) (delta : Float) (input : InputSnapshot) :
    ((s.cueing ending).invoke delta input).1 = .empty := by
  rw [invoke_result]
  cases hplayable : s.isPlayable with
  | true =>
    rw [answer_cueing hplayable]
    exact hempty
  | false =>
    obtain ⟨limits, ready, realm, faults, withdrawn⟩ := s
    cases ready with
    | false => rfl
    | true =>
      cases realm with
      | none => rfl
      | some realm => cases hplayable

theorem resultOf_faulty {ending : Completion} (h : ending.Faulty) :
    resultOf (outcome ending) = .empty := by
  obtain ⟨fault, hfault⟩ := (faulty_iff ending).mp h
  rw [hfault]
  rfl

theorem blame_faulty {ending : Completion} (h : ending.Faulty) : blame (outcome ending) = 1 := by
  obtain ⟨fault, hfault⟩ := (faulty_iff ending).mp h
  rw [hfault]
  rfl

end Sandbox

end Handheld
