import Handheld.Sandbox

/-!
# What becomes of the loaded cartridge

A load leaves either the cartridge it was given, fresh and with the definition that its entry
points describe, or nothing at all. A frame keeps the cartridge and moves its process on by one
call; whether the call faulted does not matter for that.

* `Guest.Process.Reaches`: what a process can become by being called;
* `acquire_fst`, `release_fst`: the sandbox with and without its engine;
* `LoadEnds`, `loadEnds`: the ways in which a load can end;
* `load_of_ok`, `load_of_error`: the sandbox after a load;
* `answer`, `resultOf`, `invoke_result`: what the game answers to a frame, and the result that
  comes of it;
* `invoke_realm`: the cartridge after a frame.
-/

namespace Handheld

/-- What a process becomes by being called any number of times. -/
inductive Guest.Process.Reaches (p : Guest.Process) : Guest.Process → Prop
  | refl : Reaches p p
  | call {q : Guest.Process} (delta : Float) (input : List (String × Bool)) :
      Reaches p q → Reaches p (q.call delta input).2

theorem Guest.Process.Reaches.trans {p q r : Guest.Process} (hpq : p.Reaches q)
    (hqr : q.Reaches r) : p.Reaches r := by
  induction hqr with
  | refl => exact hpq
  | call delta input _ ih => exact .call delta input ih

namespace Sandbox

theorem releaseRealm_fst (s : Sandbox) : s.releaseRealm.1 = { s with realm := none } := by
  obtain ⟨limits, ready, realm, faults, withdrawn⟩ := s
  cases realm <;> rfl

theorem acquire_fst (s : Sandbox) : s.acquire.1 = { s with ready := true } := by
  obtain ⟨limits, ready, realm, faults, withdrawn⟩ := s
  cases ready <;> rfl

theorem release_fst (s : Sandbox) : s.release.1 = { s with ready := false, realm := none } := by
  obtain ⟨limits, ready, realm, faults, withdrawn⟩ := s
  cases ready <;> cases realm <;> rfl

/-- What is booted is what the entry points of the program describe. -/
theorem inspect_of_boot {s : Sandbox} {c : Guest.Cartridge} {d : Definition}
    {p : Guest.Process} (h : (s.boot c).1 = .ok (d, p)) : (inspect c.program).1 = .ok (d, p) := by
  unfold boot at h
  split at h
  · cases h
  · split at h
    · cases h
    · exact h

/-- How a load can end. -/
inductive LoadEnds (s : Sandbox) (c : Guest.Cartridge) :
    Except LoadError Definition × Sandbox × List Notice → Prop
  /-- There is no engine. -/
  | refused {told} (hready : s.ready = false) :
      LoadEnds s c (.error .notInitialized, { s with realm := none }, told)
  /-- There is no memory for a context. -/
  | denied {told message} (hready : s.ready = true) :
      LoadEnds s c (.error (.context message), { s with realm := none }, told)
  | failed {told booted cause} (hready : s.ready = true)
      (hboot : boot { s with realm := none } c = (.error cause, booted)) :
      LoadEnds s c (.error cause, { s with realm := none }, told)
  | loaded {told booted d p} (hready : s.ready = true)
      (hboot : boot { s with realm := none } c = (.ok (d, p), booted)) :
      LoadEnds s c (.ok d, { s with realm := some ⟨c, p⟩ }, told)

theorem loadEnds (s : Sandbox) (c : Guest.Cartridge) : LoadEnds s c (s.load c) := by
  unfold load
  rw [show s.releaseRealm = (s.releaseRealm.1, s.releaseRealm.2) from rfl, releaseRealm_fst]
  simp only
  split
  · exact .refused ((Bool.not_eq_true' _).mp ‹_›)
  · have hready : s.ready = true := by simpa using ‹¬ (!s.ready) = true›
    split
    · exact .denied hready
    · split
      · exact .failed hready ‹_›
      · exact .loaded hready ‹_›

/-- A load that succeeds leaves the cartridge, fresh. -/
theorem load_of_ok {s t : Sandbox} {c : Guest.Cartridge} {d : Definition} {told : List Notice}
    (h : s.load c = (.ok d, t, told)) :
    ∃ p, (inspect c.program).1 = .ok (d, p) ∧ t = { s with realm := some ⟨c, p⟩ } := by
  have hends := s.loadEnds c
  rw [h] at hends
  cases hends with
  | loaded _ hboot => exact ⟨_, inspect_of_boot (congrArg Prod.fst hboot), rfl⟩

/-- Only with an engine a load succeeds. -/
theorem ready_of_ok {s t : Sandbox} {c : Guest.Cartridge} {d : Definition} {told : List Notice}
    (h : s.load c = (.ok d, t, told)) : s.ready = true := by
  have hends := s.loadEnds c
  rw [h] at hends
  cases hends with
  | loaded hready => exact hready

/-- A load that fails leaves no cartridge. -/
theorem load_of_error {s t : Sandbox} {c : Guest.Cartridge} {cause : LoadError}
    {told : List Notice} (h : s.load c = (.error cause, t, told)) :
    t = { s with realm := none } := by
  have hends := s.loadEnds c
  rw [h] at hends
  cases hends <;> rfl

/-- The process of a game that can be inspected is fresh. -/
theorem process?_of_inspect {p : Guest.Program} {d : Definition} {process : Guest.Process}
    (h : (inspect p).1 = .ok (d, process)) : p.process? = some process := by
  unfold inspect at h
  split at h
  · rename_i metadata resources fresh _ _ hfresh
    split at h
    · cases h
    · split at h
      · cases h
      · split at h
        · cases h
        · obtain ⟨rfl, rfl⟩ := Prod.mk.inj (Except.ok.inj h)
          exact hfresh
  · cases h

/-- What the game answers to a frame: its result or its fault. Without a game nothing is asked,
and nothing is answered. -/
def answer (s : Sandbox) (delta : Float) (input : InputSnapshot) : Except GuestError FrameResult :=
  match s.ready, s.realm with
  | true, some realm =>
    outcome (realm.process.call delta (input.fields s.limits.systemButtons)).1.completion
  | _, _ => .ok .empty

/-- The result of a frame. A fault comes out as the empty one. -/
def resultOf : Except GuestError FrameResult → FrameResult
  | .ok r => r
  | .error _ => .empty

theorem invoke_result (s : Sandbox) (delta : Float) (input : InputSnapshot) :
    (s.invoke delta input).1 = resultOf (s.answer delta input) := by
  obtain ⟨limits, ready, realm, faults, withdrawn⟩ := s
  cases ready with
  | false => rfl
  | true =>
    cases realm with
    | none => rfl
    | some realm =>
      unfold invoke answer
      simp only
      split <;> rename_i h <;> rw [h] <;> rfl

/-- A frame keeps the cartridge and calls its process at most once. -/
theorem invoke_realm (s : Sandbox) (delta : Float) (input : InputSnapshot) :
    (s.realm = none ∧ (s.invoke delta input).2.1.realm = none) ∨
      ∃ realm q, s.realm = some realm ∧ realm.process.Reaches q ∧
        (s.invoke delta input).2.1.realm = some { realm with process := q } := by
  obtain ⟨limits, ready, realm, faults, withdrawn⟩ := s
  cases realm with
  | none => cases ready <;> exact Or.inl ⟨rfl, rfl⟩
  | some realm =>
    refine Or.inr ?_
    cases ready with
    | false => exact ⟨realm, realm.process, rfl, .refl, rfl⟩
    | true =>
      refine ⟨realm, _, rfl, .call delta (input.fields limits.systemButtons) .refl, ?_⟩
      unfold invoke
      simp only
      split <;> rfl

end Sandbox

end Handheld
