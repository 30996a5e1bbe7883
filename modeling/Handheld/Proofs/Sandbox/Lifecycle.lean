import Handheld.Proofs.Sandbox.Faults

/-!
# The life of a sandbox

A sandbox acquires its engine, loads cartridges, runs frames, and is released. Whether the engine
is there and whether a cartridge is loaded is decided by what was asked of it since it was last
released: the engine by whether it was acquired, the cartridge by what the last load came to. A
load without the engine is refused as such, and a load that fails takes the cartridge away that
was there.

Frames are the only requests that count faults, and a frame counts one exactly if the call of the
game goes wrong. The game itself is free: its call may end in any way at all.

* `Served`, `history`: requests with their answers;
* `lastLoad?`, `acquired`: what a history says about the cartridge and the engine;
* `Remembers`, `remembers_step`: a sandbox is what its history says;
* `boot_ne_notInitialized`, `load_eq_notInitialized_iff`: which loads are refused;
* `Contained`, `contained_invoke`: what a frame comes to, by how its call ended;
* `Lifecycle`, `lifecycle_run`: all of it, after any requests.
-/

namespace Handheld.Sandbox

open Guest (Completion)

/-! ### Histories -/

/-- A request with its answer. -/
structure Served where
  request : Request
  answer : Answer

namespace Served

/-- What the load came to, if a load was asked for. -/
def loaded? : Served → Option (Except LoadError Definition)
  | ⟨.load _, .loaded outcome⟩ => some outcome
  | _ => none

def acquires : Served → Bool
  | ⟨.acquire, _⟩ => true
  | _ => false

def releases : Served → Bool
  | ⟨.release, _⟩ => true
  | _ => false

end Served

/-- The requests of a run with their answers, in order. -/
def history (s : Sandbox) : List Request → List Served
  | [] => []
  | r :: rs => ⟨r, (s.step r).1⟩ :: history (s.step r).2.1 rs

/-- What was served since the last release, the latest first. -/
def sinceRelease (h : List Served) : List Served :=
  h.reverse.takeWhile fun e => !e.releases

/-- What the last load since the last release came to. -/
def lastLoad? (h : List Served) : Option (Except LoadError Definition) :=
  (sinceRelease h).findSome? Served.loaded?

/-- Whether the engine was acquired since the last release. -/
def acquired (h : List Served) : Bool := (sinceRelease h).any Served.acquires

theorem sinceRelease_concat (h : List Served) (e : Served) :
    sinceRelease (h ++ [e]) = if e.releases then [] else e :: sinceRelease h := by
  unfold sinceRelease
  rw [List.reverse_append, List.reverse_singleton, List.singleton_append, List.takeWhile_cons]
  cases e.releases <;> rfl

theorem lastLoad?_concat (h : List Served) (e : Served) :
    lastLoad? (h ++ [e]) = if e.releases then none else e.loaded?.or (lastLoad? h) := by
  unfold lastLoad?
  rw [sinceRelease_concat]
  cases e.releases with
  | true => rfl
  | false =>
    rw [if_neg Bool.false_ne_true, if_neg Bool.false_ne_true, List.findSome?_cons]
    cases e.loaded? <;> rfl

theorem acquired_concat (h : List Served) (e : Served) :
    acquired (h ++ [e]) = if e.releases then false else e.acquires || acquired h := by
  unfold acquired
  rw [sinceRelease_concat]
  cases e.releases <;> rfl

/-! ### Single requests -/

variable {s : Sandbox} {h : List Served}

/-- A released sandbox has nothing left to release, and says nothing about it. -/
theorem release_release (s : Sandbox) : s.release.1.release = (s.release.1, []) := by
  rw [release_fst]
  rfl

theorem ready_load (s : Sandbox) (c : Guest.Cartridge) : (s.load c).2.1.ready = s.ready := by
  have hends := s.loadEnds c
  generalize s.load c = ended at hends ⊢
  cases hends <;> rfl

theorem faults_load (s : Sandbox) (c : Guest.Cartridge) : (s.load c).2.1.faults = s.faults := by
  have hends := s.loadEnds c
  generalize s.load c = ended at hends ⊢
  cases hends <;> rfl

/-- A sandbox is what its history says. -/
structure Remembers (h : List Served) (s : Sandbox) : Prop where
  engine : s.ready = acquired h
  loaded : s.isLoaded = true ↔ ∃ d, lastLoad? h = some (.ok d)
  equipped : s.isLoaded = true → s.ready = true

/-- What leaves the engine and the cartridge alone, and is about neither, is not remembered. -/
theorem Remembers.aside {t : Sandbox} {e : Served} (hs : Remembers h s)
    (hready : t.ready = s.ready) (hrealm : t.isLoaded = s.isLoaded) (hreleases : e.releases = false)
    (hacquires : e.acquires = false) (hloaded : e.loaded? = none) : Remembers (h ++ [e]) t where
  engine := by
    rw [acquired_concat, hreleases, hacquires, hready]
    exact hs.engine
  loaded := by
    rw [lastLoad?_concat, hreleases, hloaded, hrealm]
    exact hs.loaded
  equipped := by
    rw [hrealm, hready]
    exact hs.equipped

theorem Remembers.load (hs : Remembers h s) (c : Guest.Cartridge) :
    Remembers (h ++ [⟨.load c, .loaded (s.load c).1⟩]) (s.load c).2.1 where
  engine := by
    rw [acquired_concat, ready_load]
    exact hs.engine
  loaded := by
    rw [lastLoad?_concat, isLoaded_load]
    cases (s.load c).1 with
    | error cause => exact iff_of_false Bool.false_ne_true fun ⟨d, hd⟩ => nomatch hd
    | ok d => exact iff_of_true rfl ⟨d, rfl⟩
  equipped := by
    intro hyes
    rw [ready_load]
    rcases hload : s.load c with ⟨_ | d, t, told⟩
    · rw [isLoaded_load, hload] at hyes
      cases hyes
    · exact ready_of_ok hload

theorem remembers_step (hs : Remembers h s) (r : Request) :
    Remembers (h ++ [⟨r, (s.step r).1⟩]) (s.step r).2.1 := by
  cases r with
  | acquire =>
    show Remembers _ s.acquire.1
    rw [acquire_fst]
    constructor
    case engine => rw [acquired_concat]; rfl
    case loaded => rw [lastLoad?_concat]; exact hs.loaded
    case equipped => exact fun _ => rfl
  | load c => exact hs.load c
  | invoke delta input =>
    exact hs.aside (s.ready_invoke delta input) (s.isLoaded_invoke delta input) rfl rfl rfl
  | release =>
    show Remembers _ s.release.1
    rw [release_fst]
    constructor
    case engine => rw [acquired_concat]; rfl
    case loaded =>
      rw [lastLoad?_concat]
      exact iff_of_false Bool.false_ne_true fun ⟨d, hd⟩ => nomatch hd
    case equipped => exact nofun
  | withdraw name => exact hs.aside rfl rfl rfl rfl rfl

theorem remembers_run (hs : Remembers h s) (rs : List Request) :
    Remembers (h ++ s.history rs) (s.run rs).2.1 := by
  induction rs generalizing s h with
  | nil =>
    rw [history, List.append_nil]
    exact hs
  | cons r rs ih =>
    have hrest := ih (remembers_step hs r)
    rw [List.append_assoc] at hrest
    exact hrest

/-! ### Loads that are refused -/

/-- A cause that is handed on is what it was. -/
theorem handed_ne_notInitialized {α β : Type} {x : Except LoadError α × List Notice}
    {cause : LoadError} {told : List Notice} (hx : x = (.error cause, told))
    (hne : x.1 ≠ .error .notInitialized) :
    (.error cause : Except LoadError β) ≠ .error .notInitialized := by
  intro h
  rw [hx, Except.error.inj h] at hne
  exact hne rfl

theorem consult_ne_notInitialized (name : EntryPoint) (e : Guest.Entry) :
    (consult name e).1 ≠ .error .notInitialized := by
  unfold consult
  dsimp only
  split
  · exact nofun
  · split <;> exact nofun

theorem define_ne_notInitialized (metadata resources : Json) :
    (define metadata resources).1 ≠ .error .notInitialized := by
  unfold define
  split <;> exact nofun

theorem evaluate_ne_notInitialized (p : Guest.Program) :
    (evaluate p).1 ≠ .error .notInitialized := by
  unfold evaluate
  split
  · exact nofun
  · dsimp only
    split <;> exact nofun

/-- Whatever is wrong with a program, it is not the engine. -/
theorem inspect_ne_notInitialized (p : Guest.Program) :
    (inspect p).1 ≠ .error .notInitialized := by
  unfold inspect
  split
  · split
    · rename_i hmetadata
      exact handed_ne_notInitialized hmetadata (consult_ne_notInitialized _ _)
    · split
      · rename_i hresources
        exact handed_ne_notInitialized hresources (consult_ne_notInitialized _ _)
      · split
        · rename_i hdefine
          exact handed_ne_notInitialized hdefine (define_ne_notInitialized _ _)
        · exact nofun
  · exact nofun

theorem boot_ne_notInitialized (s : Sandbox) (c : Guest.Cartridge) :
    (s.boot c).1 ≠ .error .notInitialized := by
  unfold boot
  split
  · exact nofun
  · split
    · rename_i hevaluate
      exact handed_ne_notInitialized hevaluate (evaluate_ne_notInitialized _)
    · exact inspect_ne_notInitialized c.program

/-- A load is refused for want of an engine exactly if there is none. -/
theorem load_eq_notInitialized_iff (s : Sandbox) (c : Guest.Cartridge) :
    (s.load c).1 = .error .notInitialized ↔ s.ready = false := by
  have hends := s.loadEnds c
  generalize s.load c = ended at hends ⊢
  cases hends with
  | refused hready => exact iff_of_true rfl hready
  | denied hready | loaded hready => exact iff_of_false nofun (by rw [hready]; exact nofun)
  | failed hready hboot =>
    exact iff_of_false (handed_ne_notInitialized hboot (boot_ne_notInitialized _ c))
      (by rw [hready]; exact nofun)

/-! ### Frames -/

/-- What a frame of a loaded cartridge comes to, by how the call of the game ended. -/
structure Contained (before : Sandbox) (ending : Completion) (result : FrameResult)
    (after : Sandbox) : Prop where
  fault : result = .empty ∧ after.faults = before.faults + 1 ↔ ending.Faulty
  /-- What is no fault is a value that was copied out, and the frame is what the copy is. -/
  frame : ¬ ending.Faulty → after.faults = before.faults ∧
    ∃ v json, ending = .returned v ∧ v.copyOut = .ok json ∧ FrameResult.ofJson? json = some result

theorem ofJson?_of_classify {json : Json} {r : FrameResult} (hok : classify json = .ok r) :
    FrameResult.ofJson? json = some r := by
  unfold classify at hok
  split at hok
  · cases hok
  · rename_i other hshape
    split at hok
    · cases hok
    · rw [hshape, Except.ok.inj hok]

theorem returned_of_outcome {c : Completion} {r : FrameResult} (hok : outcome c = .ok r) :
    ∃ v json, c = .returned v ∧ v.copyOut = .ok json ∧ FrameResult.ofJson? json = some r := by
  cases c with
  | endless => cases hok
  | thrown t =>
    obtain ⟨fault, hfault⟩ := outcome_thrown t
    rw [hfault] at hok
    cases hok
  | returned v =>
    cases hcopy : v.copyOut with
    | error fault =>
      rw [outcome_uncopied hcopy] at hok
      cases hok
    | ok json =>
      rw [outcome_returned hcopy] at hok
      exact ⟨v, json, rfl, hcopy, ofJson?_of_classify hok⟩

theorem contained_invoke {realm : Realm} (hready : s.ready = true) (hrealm : s.realm = some realm)
    (delta : Float) (input : InputSnapshot) :
    Contained s (realm.process.call delta (input.fields s.limits.systemButtons)).1.completion
      (s.invoke delta input).1 (s.invoke delta input).2.1 := by
  let ending := (realm.process.call delta (input.fields s.limits.systemButtons)).1.completion
  have hanswer : s.answer delta input = outcome ending := by
    unfold answer
    rw [hready, hrealm]
  have hfaults : (s.invoke delta input).2.1.faults = s.faults + blame (outcome ending) := by
    rw [invoke_snd, hanswer]
  have hresult : (s.invoke delta input).1 = resultOf (outcome ending) := by
    rw [invoke_result, hanswer]
  constructor
  case fault =>
    constructor
    · rintro ⟨-, hcounted⟩
      -- a frame that is no fault counts none
      rw [faulty_iff]
      rw [hfaults] at hcounted
      cases houtcome : outcome ending with
      | error fault => exact ⟨fault, rfl⟩
      | ok r =>
        rw [houtcome] at hcounted
        exact absurd hcounted (Nat.ne_of_lt (Nat.lt_succ_self s.faults))
    · intro hfaulty
      rw [hresult, hfaults]
      exact ⟨resultOf_faulty hfaulty, congrArg (s.faults + ·) (blame_faulty hfaulty)⟩
  case frame =>
    intro hfine
    cases houtcome : outcome ending with
    | error fault => exact absurd ((faulty_iff ending).mpr ⟨fault, houtcome⟩) hfine
    | ok r =>
      rw [hresult, hfaults, houtcome]
      exact ⟨rfl, returned_of_outcome houtcome⟩

/-- Only frames count faults. -/
theorem faults_step (s : Sandbox) {r : Request} (hframe : ∀ delta input, r ≠ .invoke delta input) :
    (s.step r).2.1.faults = s.faults := by
  cases r with
  | acquire =>
    show s.acquire.1.faults = s.faults
    rw [acquire_fst]
  | load c => exact s.faults_load c
  | invoke delta input => exact absurd rfl (hframe delta input)
  | release =>
    show s.release.1.faults = s.faults
    rw [release_fst]
  | withdraw name => rfl

/-! ### Runs -/

/-- What a sandbox is after a history, and what it does next. -/
structure Lifecycle (h : List Served) (s : Sandbox) : Prop extends Remembers h s where
  /-- A load is refused exactly if the engine was not acquired since the last release. -/
  refused : ∀ c, (s.load c).1 = .error .notInitialized ↔ acquired h = false
  /-- A load that fails leaves no cartridge, whatever was there. -/
  failed : ∀ c cause, (s.load c).1 = .error cause → (s.load c).2.1.realm = none
  /-- A frame without a cartridge is empty, and leaves everything as it is. -/
  unloaded : s.realm = none → ∀ delta input,
    (s.invoke delta input).1 = .empty ∧ (s.invoke delta input).2.1 = s
  contained : ∀ realm, s.realm = some realm → ∀ delta input,
    Contained s (realm.process.call delta (input.fields s.limits.systemButtons)).1.completion
      (s.invoke delta input).1 (s.invoke delta input).2.1
  faults : ∀ r, (∀ delta input, r ≠ .invoke delta input) → (s.step r).2.1.faults = s.faults
  released : s.release.1.release = (s.release.1, [])

theorem Remembers.lifecycle (hs : Remembers h s) : Lifecycle h s where
  toRemembers := hs
  refused := by
    intro c
    rw [load_eq_notInitialized_iff, hs.engine]
  failed := by
    intro c cause hfail
    rw [load_of_error (Prod.ext hfail rfl)]
  unloaded := by
    intro hnone delta input
    have hunloaded : s.isLoaded = false := by rw [isLoaded, hnone]; rfl
    rw [invoke_unloaded hunloaded]
    exact ⟨rfl, rfl⟩
  contained := by
    intro realm hrealm delta input
    have hloaded : s.isLoaded = true := by rw [isLoaded, hrealm]; rfl
    exact contained_invoke (hs.equipped hloaded) hrealm delta input
  faults := fun _ hframe => s.faults_step hframe
  released := s.release_release

/-- Whatever is asked of a new sandbox, with whatever cartridges: it has its engine if it acquired
it and a cartridge if the last load succeeded, and it contains and counts every fault. -/
theorem lifecycle_run (limits : Limits) (rs : List Request) :
    let s : Sandbox := { limits := limits }
    Lifecycle (s.history rs) (s.run rs).2.1 := by
  have hnew : Remembers [] ({ limits := limits } : Sandbox) :=
    ⟨rfl, iff_of_false Bool.false_ne_true (fun ⟨_, hd⟩ => nomatch hd), nofun⟩
  exact (remembers_run hnew rs).lifecycle

end Handheld.Sandbox
