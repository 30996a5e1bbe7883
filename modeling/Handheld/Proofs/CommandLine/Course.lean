import Handheld.CommandLine.Run
import Handheld.Proofs.Session.WakeUp

/-!
# The course of a game

In simulated time the rounds of a run come a period apart. So what the game is called with in a
frame, and what it answers, can be told without a clock, a scheduler and a session: by the game, by
the scripted input, and by the display with which it begins. This is the course of the game. A round
of the run goes along with it for one frame.

The frame that ends the game is the first whose answer reports the end. The round of that frame
stops the scheduler and queues the report of the score, which a later round, or the poll after the
last round, makes.

* `Stage`, `Course`: the frames of a game, one after the other;
* `Course.ends`, `Course.closing?`, `Course.played`: the frame that ends the game, and how many
  frames are played;
* `Course.answer_script`: the answers can be whatever one likes;
* `AtFrame`, `Over`: a session that comes to a frame, and one whose game has ended;
* `AtFrame.acts`, `AtFrame.turn_goesOn`, `AtFrame.turn_ends`: a round goes along with the course.
-/

namespace Handheld

/-- The buttons after a scripted input. -/
def ScriptedInput.act (i : ScriptedInput) (b : InputState) : InputState :=
  if i.down then b.press i.button else b.release i.button

namespace CommandLine

open Session (endsGame reportOf Books)

/-! ### The frames of a game -/

/-- The buttons after the scripted inputs of a frame, in their order. -/
def fed (inputs : List ScriptedInput) (f : Nat) (b : InputState) : InputState :=
  (inputs.filter fun i => i.frame = f).foldl (fun b i => i.act b) b

/-- The time that a frame is told: none for the first, and one period for every later one. -/
def frameDelta (f : Nat) : Nat := if f = 0 then 0 else standardPeriod

/-- What a frame finds: the game, the buttons, and what is displayed. -/
structure Stage where
  process : Guest.Process
  buttons : InputState
  display : Display

/-- What a frame leaves. `system` says whether the game sees the system buttons. -/
def Stage.next (inputs : List ScriptedInput) (system : Bool) (f : Nat) (st : Stage) : Stage :=
  let (snapshot, buttons) := (fed inputs f st.buttons).snapshot
  let (run, process) := st.process.call (Duration.seconds (frameDelta f)) (snapshot.fields system)
  ⟨process, buttons, st.display.after (Sandbox.outcome run.completion)⟩

/-- What the frames of a game depend on. -/
structure Course where
  inputs : List ScriptedInput
  system : Bool
  /-- What the first frame finds. -/
  opening : Stage

namespace Course

variable (p : Course) (f n : Nat)

/-- What a frame finds, counted from zero. -/
def stage : Nat → Stage
  | 0 => p.opening
  | f + 1 => (stage f).next p.inputs p.system f

def buttons : InputState := fed p.inputs f (p.stage f).buttons

/-- The time and the input that the game is called with in a frame. -/
def call : Nat × InputSnapshot := (frameDelta f, (p.buttons f).snapshot.1)

def answer : Except GuestError FrameResult :=
  Sandbox.outcome ((p.stage f).process.call (Duration.seconds (frameDelta f))
    ((p.buttons f).snapshot.1.fields p.system)).1.completion

/-- Whether a frame reports the game's end. -/
def ends : Bool := endsGame (p.answer f)

/-- The score that a frame leaves. -/
def score : Int := (p.stage (f + 1)).display.score

/-- The first frame that ends the game, among a number of frames. -/
def closing? : Option Nat := (List.range n).find? p.ends

/-- How many of a number of frames are played: all of them, or those up to the one that ends the
game. -/
def played : Nat := (p.closing? n).elim n (· + 1)

theorem closing?_eq_some_iff :
    p.closing? n = some f ↔ f < n ∧ p.ends f = true ∧ ∀ e < f, p.ends e = false := by
  rw [closing?, List.find?_range_eq_some]
  simp only [List.mem_range, Bool.not_eq_eq_eq_not, Bool.not_true]
  exact ⟨fun ⟨hends, hlt, hfirst⟩ => ⟨hlt, hends, hfirst⟩,
    fun ⟨hlt, hends, hfirst⟩ => ⟨hends, hlt, hfirst⟩⟩

theorem closing?_eq_none_iff : p.closing? n = none ↔ ∀ f < n, p.ends f = false := by
  rw [closing?, List.find?_eq_none]
  simp only [List.mem_range, Bool.not_eq_true]

/-- The frame that ends the game is the last that is played, if the limit lets it be played. -/
theorem played_of_first {g : Nat} (hends : p.ends g = true) (hfirst : ∀ e < g, p.ends e = false) :
    p.played n = min n (g + 1) := by
  rcases Nat.lt_or_ge g n with hlt | hge
  · rw [played, (p.closing?_eq_some_iff g n).mpr ⟨hlt, hends, hfirst⟩]
    exact (Nat.min_eq_right hlt).symm
  · have hnone := (p.closing?_eq_none_iff n).mpr fun e he => hfirst e (Nat.lt_of_lt_of_le he hge)
    rw [played, hnone]
    exact (Nat.min_eq_left (Nat.le_succ_of_le hge)).symm

theorem display_succ : (p.stage (f + 1)).display = (p.stage f).display.after (p.answer f) := rfl

/-- The answers of a game can be whatever one likes: a script plays any list of calls. -/
theorem answer_script {p : Course} {endings : List Guest.Completion}
    (h : p.opening.process = .script { entries := endings.map Guest.Completion.entry } 0) {f : Nat}
    (hf : f < endings.length) : p.answer f = Sandbox.outcome endings[f] := by
  have hprocess : ∀ f, (p.stage f).process
      = .script { entries := endings.map Guest.Completion.entry } f := by
    intro f
    induction f with
    | zero => exact h
    | succ f ih =>
      show ((p.stage f).process.call _ _).2 = _
      rw [ih]
      rfl
  have hentry := Guest.entryAt_within { entries := endings.map Guest.Completion.entry }
    (Nat.lt_of_lt_of_eq hf (List.length_map _).symm)
  rw [answer, hprocess]
  show Sandbox.outcome (Guest.Entry.run _ (Guest.Playlist.entryAt _ (f + 1))).completion = _
  rw [hentry, List.getElem_map, Guest.run_entry]

/-- The frames that are played from a frame on. -/
def framesFrom : Nat → Nat → List Nat
  | _, 0 => []
  | f, k + 1 => f :: if p.ends f then [] else framesFrom (f + 1) k

theorem framesFrom_eq (k : Nat) :
    p.framesFrom f k
      = List.range' f (((List.range' f k).find? p.ends).elim k fun g => g + 1 - f) := by
  induction k generalizing f with
  | zero => rfl
  | succ k ih =>
    rw [framesFrom, List.range'_succ, List.find?_cons]
    cases hends : p.ends f with
    | true =>
      show [f] = List.range' f (f + 1 - f)
      rw [Nat.add_sub_cancel_left]
      rfl
    | false =>
      rw [if_neg Bool.false_ne_true, ih]
      cases hlast : (List.range' (f + 1) k).find? p.ends with
      | none => rfl
      | some g =>
        have hle : f + 1 ≤ g := (List.mem_range'_1.mp (List.mem_of_find?_eq_some hlast)).1
        show f :: List.range' (f + 1) (g + 1 - (f + 1)) = List.range' f (g + 1 - f)
        rw [← List.range'_succ, Nat.add_sub_add_right, Nat.succ_sub (Nat.le_of_succ_le hle)]

theorem framesFrom_zero : p.framesFrom 0 n = List.range (p.played n) := by
  rw [framesFrom_eq, ← List.range_eq_range', ← List.range_eq_range', played, closing?]
  rfl

end Course

/-! ### Sessions along the course -/

/-- The time of the round of a frame. -/
def frameTime (f : Nat) : Int := f * standardPeriod

theorem frameTime_succ (f : Nat) : frameTime (f + 1) = frameTime f + standardPeriod := by
  rw [frameTime, Int.natCast_add, Int.add_mul]
  rfl

theorem feed_eq (inputs : List ScriptedInput) (s : Session) :
    feed inputs s = { s with input := fed inputs s.scheduler.frames s.input } := by
  have hfold : ∀ (list : List ScriptedInput) (s : Session),
      list.foldl feedOne s = { s with input := list.foldl (fun b i => i.act b) s.input } := by
    intro list
    induction list with
    | nil => exact fun _ => rfl
    | cons i list ih =>
      intro s
      have hone : feedOne s i = { s with input := i.act s.input } := by
        unfold feedOne ScriptedInput.act
        split <;> rfl
      rw [List.foldl_cons, ih, hone]
      rfl
  exact hfold _ s

/-- A session that comes to a frame. -/
structure AtFrame (p : Course) (f : Nat) (s : Session) : Prop where
  frames : s.scheduler.frames = f
  running : s.scheduler.state = .running
  nextTick : s.scheduler.nextTick = some (frameTime f)
  period : s.scheduler.period = standardPeriod
  delta : s.scheduler.delta (frameTime f) = frameDelta f
  ready : s.sandbox.ready = true
  system : s.sandbox.limits.systemButtons = p.system
  process : s.sandbox.realm.map Realm.process = some (p.stage f).process
  input : s.input = (p.stage f).buttons
  display : s.display = (p.stage f).display
  gameOver : s.display.gameOver = false
  deferred : s.deferred = {}
  hookSet : s.hookSet = false

/-- A session whose game ended in a frame, with the score still to be reported. -/
structure Over (p : Course) (f : Nat) (s : Session) : Prop where
  frames : s.scheduler.frames = f + 1
  stopped : s.scheduler.state = .stopped
  deferred : s.deferred = ⟨reportOf (frameTime f) (p.score f)⟩

variable {p : Course} {f : Nat} {s : Session}

theorem books_nil (h : s.deferred = {}) : Books s [] :=
  ⟨[], [], by rw [h]; rfl, fun _ he => absurd he List.not_mem_nil⟩

theorem Over.books (h : Over p f s) : Books s [⟨frameTime f, p.score f⟩] :=
  ⟨[], [], by rw [h.deferred]; rfl, fun _ he => absurd he List.not_mem_nil⟩

/-- A poll that nobody waits for a first frame of: what it queues is the report of the game's
end. -/
theorem deferred_poll {now : Int} {delta : Nat} (hset : s.hookSet = false)
    (hdeferred : s.deferred = {}) (h : (s.poll now).value = some (.update delta)) :
    (s.poll now).session.deferred =
      ⟨if !s.display.gameOver && endsGame (s.sandbox.answer (Duration.seconds delta)
          s.input.snapshot.1)
        then reportOf now (s.poll now).session.display.score else []⟩ := by
  have hnone : s.promisedAt? (.poll now) = none := by
    rw [Session.promisedAt?, hset]
    rfl
  have hpending := s.pending_poll now
  rw [Session.queuedBy, Session.updateTick?_eq, h, hnone, hdeferred] at hpending
  exact congrArg DeferredQueue.mk (hpending.trans (List.append_nil _))

/-! ### The round of a frame -/

theorem AtFrame.feed (h : AtFrame p f s) :
    feed p.inputs s = { s with input := p.buttons f } := by
  rw [feed_eq, h.frames, h.input]
  rfl

theorem AtFrame.value (h : AtFrame p f s) :
    (Session.poll { s with input := p.buttons f } (frameTime f)).value
      = some (.update (frameDelta f)) := by
  have hleaves := Session.tickLeaves_poll { s with input := p.buttons f } (frameTime f)
  rw [hleaves.of_running h.running h.nextTick, if_pos (Int.le_refl _)]
  exact congrArg (fun delta => some (Tick.update delta)) h.delta

theorem AtFrame.answer (h : AtFrame p f s) :
    s.sandbox.answer (Duration.seconds (frameDelta f)) (p.buttons f).snapshot.1 = p.answer f := by
  obtain ⟨realm, hrealm, hprocess⟩ := Option.map_eq_some_iff.mp h.process
  rw [Sandbox.answer, h.ready, hrealm]
  show Sandbox.outcome (realm.process.call _ _).1.completion = _
  rw [hprocess, h.system]
  rfl

theorem AtFrame.realmAfter (h : AtFrame p f s) :
    (s.sandbox.realmAfter (Duration.seconds (frameDelta f)) (p.buttons f).snapshot.1).map
      Realm.process = some (p.stage (f + 1)).process := by
  obtain ⟨realm, hrealm, hprocess⟩ := Option.map_eq_some_iff.mp h.process
  rw [Sandbox.realmAfter, h.ready, hrealm]
  show some (realm.process.call _ _).2 = _
  rw [hprocess, h.system]
  rfl

/-- What the poll of a frame leaves, apart from the scheduler. -/
theorem AtFrame.polled (h : AtFrame p f s) :
    let t : Session := { s with input := p.buttons f }
    let u := (t.poll (frameTime f)).session
    u.sandbox.ready = true ∧ u.sandbox.limits.systemButtons = p.system ∧
      u.sandbox.realm.map Realm.process = some (p.stage (f + 1)).process ∧
      u.input = (p.stage (f + 1)).buttons ∧ u.display = (p.stage (f + 1)).display ∧
      u.display.gameOver = p.ends f ∧
      u.deferred = ⟨if p.ends f then reportOf (frameTime f) (p.score f) else []⟩ ∧
      u.hookSet = false := by
  intro t u
  have hsandbox : u.sandbox
      = (s.sandbox.invoke (Duration.seconds (frameDelta f)) (p.buttons f).snapshot.1).2.1 := by
    rw [t.sandbox_poll, h.value]
    rfl
  have hanswer : t.sandbox.answer (Duration.seconds (frameDelta f)) t.input.snapshot.1
      = p.answer f := h.answer
  have hdisplay : u.display = (p.stage (f + 1)).display := by
    rw [Session.display_poll h.value, hanswer, p.display_succ, ← h.display]
  have hover : t.display.gameOver = false := h.gameOver
  have hdeferred := deferred_poll (s := t) h.hookSet h.deferred h.value
  rw [hover, hanswer, hdisplay] at hdeferred
  refine ⟨?_, ?_, ?_, ?_, hdisplay, ?_, hdeferred, ?_⟩
  · rw [hsandbox, Sandbox.ready_invoke, h.ready]
  · rw [hsandbox, Sandbox.limits_invoke, h.system]
  · rw [hsandbox, Sandbox.invoke_snd]
    exact h.realmAfter
  · rw [t.input_poll, h.value]
    rfl
  · rw [hdisplay, p.display_succ, Session.gameOver_after, ← h.display, h.gameOver, Bool.false_or]
    rfl
  · exact (t.poll_hook (frameTime f)).1.trans h.hookSet

/-- What the poll of a frame leaves of the scheduler. -/
theorem AtFrame.ticked (h : AtFrame p f s) :
    let sch := (Session.poll { s with input := p.buttons f } (frameTime f)).session.scheduler
    sch.frames = f + 1 ∧ sch.period = standardPeriod ∧ sch.isActive = (!p.ends f) ∧
      sch.delta (frameTime (f + 1)) = frameDelta (f + 1) ∧
      (p.ends f = false → sch.state = .running ∧ sch.nextTick = some (frameTime (f + 1))) := by
  intro sch
  let t : Session := { s with input := p.buttons f }
  have hactive : sch.isActive = !p.ends f := by
    have hanswer : t.sandbox.answer (Duration.seconds (frameDelta f)) t.input.snapshot.1
        = p.answer f := h.answer
    have hover : t.display.gameOver = false := h.gameOver
    rw [Session.isActive_poll h.value, hanswer, hover]
    rfl
  have hlater : Instant.elapsed (frameTime f) (frameTime (f + 1)) = frameDelta (f + 1) := by
    rw [Instant.elapsed, frameTime_succ, Int.add_comm, Int.add_sub_cancel]
    rfl
  have hleaves := t.tickLeaves_poll (frameTime f)
  rw [h.value] at hleaves
  generalize frameDelta f = delta at hleaves
  change Session.TickLeaves t.scheduler (frameTime f) _ sch at hleaves
  generalize sch = after at hleaves hactive ⊢
  have hnext : frameTime f + (t.scheduler.period : Int) = frameTime (f + 1) := by
    rw [frameTime_succ, show t.scheduler.period = standardPeriod from h.period]
  refine ⟨?_, ?_, hactive, ?_, fun hends => ?_⟩
  · cases hleaves <;> exact congrArg (· + 1) h.frames
  · cases hleaves <;> exact h.period
  · cases hleaves <;> exact hlater
  · rw [hends] at hactive
    cases hleaves with
    | updated _ hrunning => exact ⟨hrunning, congrArg some hnext⟩
    | ended => cases hactive

/-- A frame that does not end the game leads to the next one. -/
theorem AtFrame.next (h : AtFrame p f s) (hends : p.ends f = false) :
    AtFrame p (f + 1) (Session.poll { s with input := p.buttons f } (frameTime f)).session := by
  obtain ⟨hready, hsystem, hprocess, hinput, hdisplay, hover, hdeferred, hset⟩ := h.polled
  obtain ⟨hframes, hperiod, -, hdelta, hrunning⟩ := h.ticked
  rw [hends] at hover hdeferred
  exact
    { frames := hframes, running := (hrunning hends).1, nextTick := (hrunning hends).2
      period := hperiod, delta := hdelta, ready := hready, system := hsystem
      process := hprocess, input := hinput, display := hdisplay, gameOver := hover
      deferred := hdeferred, hookSet := hset }

theorem AtFrame.ended (h : AtFrame p f s) (hends : p.ends f = true) :
    Over p f (Session.poll { s with input := p.buttons f } (frameTime f)).session := by
  obtain ⟨-, -, -, -, -, -, hdeferred, -⟩ := h.polled
  obtain ⟨hframes, -, hactive, -, -⟩ := h.ticked
  rw [hends] at hactive hdeferred
  refine ⟨hframes, ?_, hdeferred⟩
  simpa [Scheduler.isActive] using hactive

/-- The round of a frame calls the game once, as the course says, and submits nothing. -/
theorem AtFrame.acts (h : AtFrame p f s) :
    (turn p.inputs s (frameTime f)).effects.filterMap Effect.call? = [p.call f] ∧
      (turn p.inputs s (frameTime f)).effects.filterMap Effect.submission? = [] := by
  let t : Session := { s with input := p.buttons f }
  have hturn : (turn p.inputs s (frameTime f)).effects = (t.poll (frameTime f)).effects := by
    rw [turn, h.feed]
  rw [hturn, t.calls_poll, h.value]
  exact ⟨rfl, Session.submissions_poll (s := t) (books_nil h.deferred) (frameTime f)⟩

/-- A frame that does not end the game is followed by the next round. -/
theorem AtFrame.turn_goesOn (h : AtFrame p f s) (hends : p.ends f = false) :
    (turn p.inputs s (frameTime f)).value = false ∧
      AtFrame p (f + 1) (turn p.inputs s (frameTime f)).session := by
  have hnext := h.next hends
  have hactive := Scheduler.isActive_of_state (Or.inl hnext.running)
  rw [turn, h.feed]
  refine ⟨?_, hnext⟩
  simp only [hactive, Bool.not_true, Bool.false_and]

/-- A frame that ends the game is followed by a round too, as the report is pending. -/
theorem AtFrame.turn_ends (h : AtFrame p f s) (hends : p.ends f = true) :
    (turn p.inputs s (frameTime f)).value = false ∧
      Over p f (turn p.inputs s (frameTime f)).session := by
  have hover := h.ended hends
  have hpending := congrArg (fun q : DeferredQueue => !q.isEmpty) hover.deferred
  rw [turn, h.feed]
  refine ⟨?_, hover⟩
  simp only [Session.hasPendingWork, hpending]
  exact Bool.and_false _

end CommandLine

end Handheld
