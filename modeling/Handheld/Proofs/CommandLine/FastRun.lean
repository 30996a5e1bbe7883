import Handheld.Proofs.CommandLine.Course

/-!
# Runs in simulated time

A run loads a game and starts it, goes round until the number of frames is reached or the game is
over, stops, and polls once more. The last poll makes the report of a game that ended in the very
last frame, for which no round was left.

The loop is bounded by a number of rounds that is always enough: the loop ends by itself. This is
said by a relation, `Rounds`, in which there is no bound.

* `Rounds`: the loop, without a bound;
* `PlayedOut`: what is observed of a loop and of what comes after it;
* `Over.playedOut`, `AtFrame.playedOut`: playing on from a session whose game has ended, and from
  one that comes to a frame;
* `Course.of`, `atFrame_startAt`: the course of a run, and the session that comes to its first
  frame;
* `fast_run`: what a run calls the game with, and what it submits.
-/

namespace Handheld.CommandLine

open Session (Raise Books)

/-! ### The loop -/

/-- Going round until the number of frames is reached, or a round finds the game over and nothing
pending. -/
inductive Rounds (inputs : List ScriptedInput) (limit : Nat) : Session → Int → Reply Int → Prop
  | reached {s now} (h : limit ≤ s.scheduler.frames) : Rounds inputs limit s now ⟨now, s, []⟩
  | ended {s now} (h : s.scheduler.frames < limit) (hover : (turn inputs s now).value = true) :
      Rounds inputs limit s now ⟨now, (turn inputs s now).session, (turn inputs s now).effects⟩
  | again {s now rest} (h : s.scheduler.frames < limit) (hagain : (turn inputs s now).value = false)
      (hrest : Rounds inputs limit (turn inputs s now).session (now + s.scheduler.period) rest) :
      Rounds inputs limit s now { rest with effects := (turn inputs s now).effects ++ rest.effects }

variable {inputs : List ScriptedInput} {limit fuel : Nat} {s : Session} {now : Int}

theorem playFrames_over (h : s.scheduler.frames < limit)
    (hover : (turn inputs s now).value = true) :
    playFrames inputs limit (fuel + 1) s now
      = ⟨now, (turn inputs s now).session, (turn inputs s now).effects⟩ := by
  rw [playFrames, if_neg (Nat.not_le.mpr h)]
  simp only [hover, if_true]

theorem playFrames_again (h : s.scheduler.frames < limit)
    (hagain : (turn inputs s now).value = false) :
    playFrames inputs limit (fuel + 1) s now =
      let rest := playFrames inputs limit fuel (turn inputs s now).session
        (now + s.scheduler.period)
      { rest with effects := (turn inputs s now).effects ++ rest.effects } := by
  rw [playFrames, if_neg (Nat.not_le.mpr h)]
  simp only [hagain, Bool.false_eq_true, if_false]

/-! ### After the loop -/

/-- Of what comes after the loop only the last poll can be seen to call the game or to submit a
score. -/
theorem filterMap_finish {β : Type} {look : Effect → Option β}
    (hlook : ∀ es : List Effect, (∀ e ∈ es, e.isControl = true) → es.filterMap look = [])
    (s : Session) (now : Int) :
    (finish s now).effects.filterMap look
      = (s.halted.poll (now + s.scheduler.period)).effects.filterMap look := by
  have hstop := hlook s.stop.effects fun _ he => Effect.isControl_of_mem_tell he
  have htold : ∀ ns, (Effect.tell ns).filterMap look = [] :=
    fun ns => hlook _ fun _ he => Effect.isControl_of_mem_tell he
  show (s.stop.effects ++ (s.halted.poll (now + s.scheduler.period)).effects
    ++ Effect.tell _).filterMap look = _
  rw [List.filterMap_append, List.filterMap_append, hstop, htold, List.append_nil, List.nil_append]

/-- What comes after the loop calls nothing, and submits what is owed. -/
theorem finish_acts {owed : List Raise} (h : Books s owed) (now : Int)
    (hdue : ∀ r ∈ owed, r.time ≤ now + s.scheduler.period) :
    (finish s now).effects.filterMap Effect.call? = [] ∧
      (finish s now).effects.filterMap Effect.submission? = owed.map Raise.score := by
  have hbooks : Books s.halted owed := h.congr rfl
  have hstopped := (Session.stop_stopped s.scheduler).1
  rw [filterMap_finish fun _ => Effect.calls_of_isControl,
    filterMap_finish fun _ => Effect.submissions_of_isControl]
  constructor
  · rw [Session.calls_poll, Session.value_poll,
      show s.halted.scheduler.beginTick _ = _ from Scheduler.beginTick_stopped hstopped _]
  · rw [Session.submissions_poll hbooks, List.filter_eq_self.mpr]
    exact fun r hr => decide_eq_true (hdue r hr)

/-- The loop goes round as it should, and with what comes after it calls the game and submits
scores as given. -/
structure PlayedOut (inputs : List ScriptedInput) (limit : Nat) (s : Session) (now : Int)
    (looped : Reply Int) (calls : List (Nat × InputSnapshot)) (scores : List Int) : Prop where
  rounds : Rounds inputs limit s now looped
  calls : (looped.effects ++ (finish looped.session looped.value).effects).filterMap Effect.call?
    = calls
  scores : (looped.effects ++ (finish looped.session looped.value).effects).filterMap
    Effect.submission? = scores

namespace PlayedOut

theorem reached {owed : List Raise} (fuel : Nat) (h : limit ≤ s.scheduler.frames)
    (hbooks : Books s owed) (hdue : ∀ r ∈ owed, r.time ≤ now + s.scheduler.period) :
    PlayedOut inputs limit s now (playFrames inputs limit fuel s now) []
      (owed.map Raise.score) := by
  obtain ⟨hcalls, hsubmitted⟩ := finish_acts hbooks now hdue
  rw [playFrames_reached inputs fuel now h]
  exact ⟨.reached h, hcalls, hsubmitted⟩

/-- After a round that ends the loop nothing is owed any more. -/
theorem ended (fuel : Nat) (h : s.scheduler.frames < limit)
    (hover : (turn inputs s now).value = true) (hbooks : Books (turn inputs s now).session []) :
    PlayedOut inputs limit s now (playFrames inputs limit (fuel + 1) s now)
      ((turn inputs s now).effects.filterMap Effect.call?)
      ((turn inputs s now).effects.filterMap Effect.submission?) := by
  obtain ⟨hcalls, hsubmitted⟩ := finish_acts hbooks now fun _ hr => absurd hr List.not_mem_nil
  rw [playFrames_over h hover]
  refine ⟨.ended h hover, ?_, ?_⟩
  · rw [List.filterMap_append, hcalls, List.append_nil]
  · rw [List.filterMap_append, hsubmitted]
    exact List.append_nil _

theorem again {calls : List (Nat × InputSnapshot)} {scores : List Int}
    (h : s.scheduler.frames < limit) (hagain : (turn inputs s now).value = false)
    (hrest : PlayedOut inputs limit (turn inputs s now).session (now + s.scheduler.period)
      (playFrames inputs limit fuel (turn inputs s now).session (now + s.scheduler.period))
      calls scores) :
    PlayedOut inputs limit s now (playFrames inputs limit (fuel + 1) s now)
      ((turn inputs s now).effects.filterMap Effect.call? ++ calls)
      ((turn inputs s now).effects.filterMap Effect.submission? ++ scores) := by
  rw [playFrames_again h hagain]
  refine ⟨.again h hagain hrest.rounds, ?_, ?_⟩
  · rw [← hrest.calls, ← List.filterMap_append, ← List.append_assoc]
  · rw [← hrest.scores, ← List.filterMap_append, ← List.append_assoc]

end PlayedOut

/-! ### Along the course -/

variable {p : Course} {f : Nat}

theorem Over.feed (h : Over p f s) (inputs : List ScriptedInput) : Over p f (feed inputs s) := by
  rw [feed_eq]
  exact ⟨h.frames, h.stopped, h.deferred⟩

/-- The report is all that is pending, and it is due. -/
theorem Over.rest (h : Over p f s) (hlater : frameTime f ≤ now) : s.deferred.rest now = {} := by
  rw [h.deferred, DeferredQueue.rest, List.filter_eq_nil_iff.mpr]
  intro e he
  have htime : e.1 = frameTime f := by
    rcases List.mem_cons.mp he with rfl | he
    · rfl
    · rw [List.mem_singleton.mp he]
  rw [htime, decide_eq_true_iff]
  exact Int.not_lt.mpr hlater

theorem Over.submissions_poll (h : Over p f s) (hlater : frameTime f ≤ now) :
    (s.poll now).effects.filterMap Effect.submission? = [p.score f] := by
  rw [Session.submissions_poll h.books, List.filter_eq_self.mpr]
  · rfl
  · intro r hr
    rw [List.mem_singleton.mp hr]
    exact decide_eq_true hlater

/-- The round after the end makes the report, and finds nothing pending then. -/
theorem Over.turn (h : Over p f s) (inputs : List ScriptedInput) (hlater : frameTime f ≤ now) :
    (turn inputs s now).value = true ∧ Books (turn inputs s now).session [] ∧
      (turn inputs s now).effects.filterMap Effect.call? = [] ∧
      (turn inputs s now).effects.filterMap Effect.submission? = [p.score f] := by
  have hfed := h.feed inputs
  have hcalls := (CommandLine.feed inputs s).calls_poll now
  have hsubmitted := hfed.submissions_poll hlater
  obtain ⟨board, submission, hpoll⟩ :=
    Session.poll_of_none (Scheduler.beginTick_stopped hfed.stopped now)
  rw [CommandLine.turn]
  simp only
  rw [hpoll] at hcalls hsubmitted ⊢
  refine ⟨?_, books_nil (hfed.rest hlater), hcalls, hsubmitted⟩
  simp only [Scheduler.isActive, hfed.stopped, Session.hasPendingWork, hfed.rest hlater]
  rfl

/-- Once the game has ended its score is submitted, and it is not called any more. -/
theorem Over.playedOut (h : Over p f s) (inputs : List ScriptedInput) (limit fuel : Nat) :
    PlayedOut inputs limit s (frameTime (f + 1))
      (playFrames inputs limit (fuel + 1) s (frameTime (f + 1))) [] [p.score f] := by
  have hlater : frameTime f ≤ frameTime (f + 1) := by
    rw [frameTime_succ]
    omega
  rcases Nat.lt_or_ge s.scheduler.frames limit with hmore | hreached
  · obtain ⟨hvalue, hbooks, hcalls, hsubmitted⟩ := h.turn inputs hlater
    have hplayed := PlayedOut.ended fuel hmore hvalue hbooks
    rw [hcalls, hsubmitted] at hplayed
    exact hplayed
  · refine .reached (fuel + 1) hreached h.books fun r hr => ?_
    rw [List.mem_singleton.mp hr]
    show frameTime f ≤ _
    omega

/-- From a frame on the game is called once for each frame that is played, and the score of the
frame that ends it is submitted. -/
theorem AtFrame.playedOut (h : AtFrame p f s) (k fuel : Nat) :
    PlayedOut p.inputs (f + k) s (frameTime f)
      (playFrames p.inputs (f + k) (fuel + (k + 1)) s (frameTime f))
      ((p.framesFrom f k).map p.call)
      (((List.range' f k).find? p.ends).map p.score).toList := by
  induction k generalizing f s with
  | zero =>
    exact .reached _ (Nat.le_of_eq h.frames.symm) (books_nil h.deferred) fun _ hr =>
      absurd hr List.not_mem_nil
  | succ k ih =>
    have hmore : s.scheduler.frames < f + (k + 1) := by
      rw [h.frames]
      omega
    have htime : frameTime f + (s.scheduler.period : Int) = frameTime (f + 1) := by
      rw [h.period, frameTime_succ]
    obtain ⟨hcalls, hsubmitted⟩ := h.acts
    rw [Course.framesFrom, List.range'_succ, List.find?_cons]
    cases hends : p.ends f with
    | false =>
      obtain ⟨hvalue, hnext⟩ := h.turn_goesOn hends
      have hrest := ih hnext
      rw [Nat.add_right_comm, Nat.add_assoc f k 1, ← htime] at hrest
      have hplayed := PlayedOut.again hmore hvalue hrest
      rw [hcalls, hsubmitted] at hplayed
      exact hplayed
    | true =>
      obtain ⟨hvalue, hover⟩ := h.turn_ends hends
      have hrest := hover.playedOut p.inputs (f + (k + 1)) (fuel + k)
      rw [← htime] at hrest
      have hplayed := PlayedOut.again hmore hvalue hrest
      rw [hcalls, hsubmitted] at hplayed
      exact hplayed

/-! ### Whole runs -/

variable {around : Surroundings} {r : Request} {settings : Settings}

/-- The course of a run: its game begins with the initial state of the definition displayed, and
with no button held. -/
def Course.of (r : Request) (settings : Settings) (d : Definition) (process : Guest.Process) :
    Course where
  inputs := r.inputs
  system := settings.limits.systemButtons
  opening :=
    { process := process
      buttons := {}
      display := (Session.firstDisplay d.initial (.new settings.grid)).setPaused false }

/-- A game that loads is in place, and nothing but a few lines of the log was seen of that. -/
theorem open?_of_ok (h : (open? around r settings).value = .ok ()) :
    ∃ c d sandbox told, cartridge? around r.game = some c ∧
      (Session.new settings).acquire.session.cleared.sandbox.load c = (.ok d, sandbox, told) ∧
      (open? around r settings).session
        = Session.installed
          { (Session.new settings).acquire.session.cleared with sandbox := sandbox } c d ∧
      ∀ e ∈ (open? around r settings).effects, e.isControl = true := by
  unfold open? at h ⊢
  cases hgame : cartridge? around r.game with
  | none =>
    rw [hgame] at h
    cases h
  | some c =>
    rw [hgame] at h
    simp only at h ⊢
    have hready : ∀ e ∈ (Session.new settings).acquire.effects, e.isControl = true :=
      fun _ he => Effect.isControl_of_mem_tell he
    have hloading := (Session.new settings).acquire.session.control_load c
    unfold Session.load at h hloading ⊢
    rcases hload : (Session.new settings).acquire.session.cleared.sandbox.load c with
      ⟨cause | d, sandbox, told⟩
    · rw [hload] at h
      cases h
    · rw [hload] at hloading
      refine ⟨c, d, sandbox, told, rfl, hload, rfl, fun e he => ?_⟩
      rcases List.mem_append.mp he with he | he
      · rcases List.mem_append.mp he with he | he
        · exact hready e he
        · exact hloading e he
      · exact Effect.isControl_of_mem_tell he

/-- A game that loads and is started comes to its first frame. -/
theorem atFrame_startAt (h : (open? around r settings).value = .ok ()) :
    ∃ c d process, cartridge? around r.game = some c ∧
      (Sandbox.inspect c.program).1 = .ok (d, process) ∧
      AtFrame (.of r settings d process) 0
        ((open? around r settings).session.startAt 0).session := by
  obtain ⟨c, d, sandbox, told, hgame, hload, hsession, -⟩ := open?_of_ok h
  obtain ⟨process, hinspect, rfl⟩ := Sandbox.load_of_ok hload
  refine ⟨c, d, process, hgame, hinspect, ?_⟩
  rw [hsession]
  exact
    { frames := rfl, running := rfl, nextTick := rfl, period := rfl, delta := rfl
      ready := rfl, system := rfl, process := rfl, input := rfl, display := rfl
      gameOver := Session.gameOver_firstDisplay _ _, deferred := rfl, hookSet := rfl }

theorem control_save (around : Surroundings) (r : Request) (s : Session) :
    ∀ e ∈ (save around r s).effects, e.isControl = true := by
  have hdisposed : ∀ e ∈ s.dispose.effects, e.isControl = true :=
    fun _ he => Effect.isControl_of_mem_tell he
  intro e he
  unfold save at he
  split at he
  · exact hdisposed e he
  · split at he
    · rcases List.mem_append.mp he with he | he
      · exact Effect.isControl_of_mem_tell he
      · exact hdisposed e he
    · split at he
      · exact hdisposed e he
      · exact Effect.isControl_of_mem_tell he

/-- Of a run whose game loads only the loop and what comes after it can be seen to call the game or
to submit a score. -/
theorem filterMap_perform {β : Type} {look : Effect → Option β}
    (hlook : ∀ es : List Effect, (∀ e ∈ es, e.isControl = true) → es.filterMap look = [])
    (h : (open? around r settings).value = .ok ()) :
    let started := ((open? around r settings).session.startAt 0).session
    let looped := playFrames r.inputs r.frames (roundsOf r.frames) started 0
    (perform around r settings).effects.filterMap look
      = (looped.effects ++ (finish looped.session looped.value).effects).filterMap look := by
  intro started looped
  let s := (open? around r settings).session
  have hperform : (perform around r settings).effects
      = (open? around r settings).effects ++ (play r s).effects
        ++ (save around r (play r s).session).effects := by
    unfold perform
    simp only [h]
    rfl
  have hplay : (play r s).effects
      = (s.startAt 0).effects ++ (looped.effects ++ (finish looped.session looped.value).effects) :=
    List.append_assoc _ _ _
  obtain ⟨-, -, -, -, -, -, -, hopening⟩ := open?_of_ok h
  rw [hperform, hplay, List.filterMap_append, List.filterMap_append, List.filterMap_append,
    hlook _ hopening, hlook _ (s.control_startAt 0), hlook _ (control_save around r _)]
  exact List.append_nil _

/-- A run that loads its game goes round until it is over, and ends. The game is called once for
each frame up to the limit, or up to the one whose answer is the first to report the end. Each call
has the time and the input that the course of the game gives it. If that frame is within the limit,
its score is submitted, once, and nothing else is. The answers can be whatever one likes: a scripted
game gives those of its list, frame by frame. -/
theorem fast_run (around : Surroundings) (r : Request) (settings : Settings)
    (hloads : (open? around r settings).value = .ok ()) :
    ∃ c d process, cartridge? around r.game = some c ∧
      (Sandbox.inspect c.program).1 = .ok (d, process) ∧
      let started := ((open? around r settings).session.startAt 0).session
      let p := Course.of r settings d process
      let effects := (perform around r settings).effects
      Rounds r.inputs r.frames started 0
          (playFrames r.inputs r.frames (roundsOf r.frames) started 0) ∧
        effects.filterMap Effect.call? = (List.range (p.played r.frames)).map p.call ∧
        effects.filterMap Effect.submission? = ((p.closing? r.frames).map p.score).toList ∧
        (∀ g, p.ends g = true → (∀ e < g, p.ends e = false) →
          p.played r.frames = min r.frames (g + 1) ∧
            (p.closing? r.frames = some g ↔ g < r.frames)) ∧
        ∀ endings : List Guest.Completion,
          process = .script { entries := endings.map Guest.Completion.entry } 0 →
          ∀ (f : Nat) (hf : f < endings.length), p.answer f = Sandbox.outcome endings[f] := by
  obtain ⟨c, d, process, hgame, hinspect, hstarts⟩ := atFrame_startAt hloads
  refine ⟨c, d, process, hgame, hinspect, ?_⟩
  intro started p effects
  let looped := playFrames r.inputs r.frames (roundsOf r.frames) started 0
  have hplayed : PlayedOut r.inputs r.frames started 0 looped
      ((List.range (p.played r.frames)).map p.call)
      ((p.closing? r.frames).map p.score).toList := by
    have hfrom := hstarts.playedOut r.frames 1
    rw [Course.framesFrom_zero, ← List.range_eq_range', Nat.zero_add, Nat.add_comm 1] at hfrom
    exact hfrom
  refine ⟨hplayed.rounds, ?_, ?_, fun g hends hfirst => ⟨p.played_of_first _ hends hfirst, ?_⟩, ?_⟩
  · exact (filterMap_perform (fun _ => Effect.calls_of_isControl) hloads).trans hplayed.calls
  · exact (filterMap_perform (fun _ => Effect.submissions_of_isControl) hloads).trans hplayed.scores
  · rw [p.closing?_eq_some_iff]
    exact ⟨And.left, fun hlt => ⟨hlt, hends, hfirst⟩⟩
  · exact fun endings hscript f hf => p.answer_script hscript hf

/-- A game that shows a score, fails in its second frame, and ends in its third. -/
def closingCartridge : Guest.Cartridge :=
  { name := "closing"
    size := 0
    program := .script
      { metadata := some { action := .give (.value (.object [])) }
        resources := some { action := .give (.value (.object [])) }
        update := some
          { entries :=
              [{ action := .give (.value (.object [("score", .ofNat 3)])) },
                { action := .loop },
                { action := .give
                    (.value (.object [("score", .ofNat 7), ("gameOver", .bool true)])) }] } } }

/-- Three frames of it, with a button held in the first two and another pressed for the third. -/
def closingRequest : Request :=
  { game := "closing"
    frames := 3
    inputs := [⟨2, .b, true⟩, ⟨0, .a, true⟩, ⟨2, .a, false⟩]
    fast := true }

def closingSurroundings : Surroundings where
  env := []
  settingsText _ := none
  cartridge name := if name = "closing" then some closingCartridge else none
  canWrite _ := false

/-- The frame that ends the game is the last that the limit lets be played. -/
theorem fast_run_closing :
    (open? closingSurroundings closingRequest {}).value = .ok () ∧
      ∃ c d process, cartridge? closingSurroundings closingRequest.game = some c ∧
        (Sandbox.inspect c.program).1 = .ok (d, process) ∧
        let p := Course.of closingRequest {} d process
        let a := Buttons.insert .empty .a
        let b := Buttons.insert .empty .b
        (List.range (p.played 3)).map p.call
            = [(0, ⟨a, a⟩), (standardPeriod, ⟨a, .empty⟩), (standardPeriod, ⟨b, b⟩)] ∧
          ((p.closing? 3).map p.score).toList = [7] := by
  have hloads : (open? closingSurroundings closingRequest {}).value = .ok () := rfl
  obtain ⟨c, d, process, hgame, hinspect, -, hcalls, hscores, -⟩ :=
    fast_run closingSurroundings closingRequest {} hloads
  refine ⟨hloads, c, d, process, hgame, hinspect, ?_, ?_⟩
  · exact hcalls.symm.trans (by decide +kernel)
  · exact hscores.symm.trans (by decide +kernel)

end Handheld.CommandLine
