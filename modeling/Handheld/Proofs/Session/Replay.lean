import Handheld.Proofs.Session.Poll

/-!
# The display as a replay

What a session shows is decided by the game that is loaded and by what the game answered since it
last began: the display is the one with which the game begins, with those answers applied to it
in order. What else was done in between leaves no trace on it, and neither does anything that was
shown before the game began. Only the mark that dims a paused game is not part of this; the
scheduler decides that one.

* `opening`, `recent`, `replay`: where a game begins, what it answered since, and what that shows;
* `Event.shows`, `Showed`: what a single operation does to the display;
* `setPaused_run`, `after_setPaused`: frames do not look at the pause mark;
* `rule_showed`: every operation shows what it means;
* `display_run`: the display of a run is a replay.
-/

namespace Handheld

/-- The display without its pause mark. -/
def Display.unmarked (d : Display) : Display := d.setPaused false

namespace Session

/-! ### Replays -/

/-- The display with which a game begins. -/
def opening (grid : GridSize) (initial : Option FrameResult) : Display :=
  match initial with
  | some r => (r.frame.apply (.new grid)).setGameOver false
  | none => .new grid

/-- What the game answered since the display was last put back, after one more operation. -/
def Event.follow (answers : List (Except GuestError FrameResult)) :
    Event → List (Except GuestError FrameResult)
  | .began | .disposed => []
  | .polled _ (some tick) => answers ++ [tick.answer]
  | .polled _ none | .passed => answers

/-- What the game answered since the display was last put back. -/
def recent (events : List Event) : List (Except GuestError FrameResult) :=
  events.foldl Event.follow []

/-- What answers show, one after the other. A fault shows nothing new. -/
def replay (start : Display) (answers : List (Except GuestError FrameResult)) : Display :=
  answers.foldl Display.after start

/-- What an operation makes of a display, given the initial state of the game that is loaded
after it. -/
def Event.shows (initial : Option FrameResult) (d : Display) : Event → Display
  | .began | .disposed => opening d.grid initial
  | .polled _ (some tick) => d.after tick.answer
  | .polled _ none | .passed => d

/-! ### The pause mark -/

theorem setPaused_self {d : Display} {b : Bool} (h : d.paused = b) : d.setPaused b = d := by
  subst h
  rfl

theorem setPaused_run (d : Display) (b : Bool) (c : Command) :
    c.run (d.setPaused b) = (c.run d).setPaused b := by
  have hslot : ∀ (slot : Int) (v : Option Placement),
      (d.setPaused b).putSlot slot v = (d.putSlot slot v).setPaused b := by
    intro slot v
    unfold Display.putSlot
    split <;> rfl
  have hcell : ∀ (x y : Int) (v : Option Nat),
      (d.setPaused b).putCell x y v = (d.putCell x y v).setPaused b := by
    intro x y v
    have hindex : (d.setPaused b).cellIndex? x y = d.cellIndex? x y := rfl
    unfold Display.putCell
    rw [hindex]
    split <;> rfl
  cases c with
  | placeSprite slot sprite x y => exact hslot slot _
  | clearSprite slot => exact hslot slot none
  | placeTile x y tile => exact hcell x y _
  | clearTile x y => exact hcell x y none
  | setBackground index => rfl
  | setScore score => rfl
  | gameOver => rfl

theorem apply_setPaused (f : Frame) (d : Display) (b : Bool) :
    f.apply (d.setPaused b) = (f.apply d).setPaused b := by
  have hprepare : f.prepare (d.setPaused b) = (f.prepare d).setPaused b := by
    unfold Frame.prepare
    split <;> rfl
  have hrun : ∀ (cs : List Command) (e : Display),
      cs.foldl Command.run (e.setPaused b) = (cs.foldl Command.run e).setPaused b := by
    intro cs
    induction cs with
    | nil => intro e; rfl
    | cons c cs ih =>
      intro e
      rw [List.foldl_cons, List.foldl_cons, setPaused_run, ih]
  unfold Frame.apply
  rw [hprepare, hrun]

/-- An answer does not look at the pause mark. -/
theorem after_setPaused (d : Display) (b : Bool) (answer : Except GuestError FrameResult) :
    (d.setPaused b).after answer = (d.after answer).setPaused b := by
  cases answer with
  | error cause => rfl
  | ok r => exact apply_setPaused r.frame d b

theorem paused_opening (grid : GridSize) (initial : Option FrameResult) :
    (opening grid initial).paused = false := by
  cases initial with
  | none => rfl
  | some r => exact Frame.paused_apply r.frame (.new grid)

theorem grid_opening (grid : GridSize) (initial : Option FrameResult) :
    (opening grid initial).grid = grid := by
  cases initial with
  | none => rfl
  | some r => exact Frame.grid_apply r.frame (.new grid)

/-- A display that is put back has nothing of what it showed before. -/
theorem firstDisplay_eq (initial : Option FrameResult) (d : Display) :
    firstDisplay initial d = opening d.grid initial := by
  cases initial with
  | none => exact d.reset_eq_new
  | some r => exact congrArg (fun e => (r.frame.apply e).setGameOver false) d.reset_eq_new

theorem unmarked_firstDisplay (initial : Option FrameResult) (d : Display) (b : Bool) :
    ((firstDisplay initial d).setPaused b).unmarked = opening d.grid initial := by
  show (firstDisplay initial d).setPaused false = opening d.grid initial
  rw [firstDisplay_eq]
  exact setPaused_self (paused_opening d.grid initial)

/-! ### Single operations -/

/-- What an operation means is what it shows. -/
structure Showed (s : Session) (e : Event) (t : Session) : Prop where
  display : t.display.unmarked = (e.shows t.initial? s.display).unmarked
  grid : t.display.grid = s.display.grid
  /-- The game that is loaded changes only if the display is put back. -/
  initial : e.restarts = false → t.initial? = s.initial?

theorem showed_of_unmarked {s t : Session} (hdisplay : t.display.unmarked = s.display.unmarked)
    (hgame : t.game = s.game) : Showed s .passed t where
  display := hdisplay
  grid := by
    show t.display.unmarked.grid = s.display.unmarked.grid
    rw [hdisplay]
  initial := fun _ => congrArg (fun g => g.bind fun g => g.definition.initial) hgame

theorem showed_begun {s t : Session} {e : Event} (he : e.restarts = true) {b : Bool}
    (hdisplay : t.display = (firstDisplay t.initial? s.display).setPaused b) : Showed s e t where
  display := by
    have hshows : e.shows t.initial? s.display = opening s.display.grid t.initial? := by
      cases e with
      | began => rfl
      | disposed => rfl
      | polled now tick => exact absurd he Bool.false_ne_true
      | passed => exact absurd he Bool.false_ne_true
    rw [hshows, hdisplay, unmarked_firstDisplay]
    exact (setPaused_self (paused_opening _ _)).symm
  grid := by
    rw [hdisplay]
    show (firstDisplay t.initial? s.display).grid = s.display.grid
    rw [firstDisplay_eq, grid_opening]
  initial := fun hno => absurd (he.symm.trans hno) (Ne.symm Bool.false_ne_true)

theorem LoadLeaves.showed {s t : Session} {c : Guest.Cartridge} {e : Event}
    (h : LoadLeaves s c e t) : Showed s e t := by
  cases h with
  | loaded => exact showed_begun rfl rfl
  | refused => exact showed_of_unmarked rfl rfl
  | restored => exact showed_begun rfl rfl
  | lost => exact showed_begun (b := false) rfl rfl

theorem PollLeaves.showed {s t : Session} {now : Int} {tick : Option UpdateTick}
    (h : PollLeaves s now tick t) : Showed s (.polled now tick) t := by
  cases h with
  | idle => exact ⟨rfl, rfl, fun _ => rfl⟩
  | drawn => exact ⟨rfl, rfl, fun _ => rfl⟩
  | updated tick => exact ⟨rfl, grid_after s.display tick.answer, fun _ => rfl⟩

theorem rule_showed : Rule Showed where
  aside _ _ _ _ _ _ _ _ := showed_of_unmarked rfl rfl
  followed := by
    intro s t u e hst htu
    have hinitial := htu.initial rfl
    constructor
    case display =>
      rw [htu.display, hinitial]
      exact hst.display
    case grid => rw [htu.grid, hst.grid]
    case initial => exact fun hno => hinitial.trans (hst.initial hno)
  acquire _ := showed_of_unmarked rfl rfl
  withdraw _ _ := showed_of_unmarked rfl rfl
  load s c := (loadLeaves_load s c).showed
  startAt s now := by
    unfold startAt
    split <;> exact showed_of_unmarked rfl rfl
  stop _ := showed_of_unmarked rfl rfl
  pause _ := showed_of_unmarked rfl rfl
  unpause _ := showed_of_unmarked rfl rfl
  reset _ := showed_begun rfl rfl
  dispose _ := showed_begun (b := false) rfl rfl
  poll s now := (s.pollLeaves_poll now).showed

/-! ### Runs -/

theorem unmarked_after (d : Display) (answer : Except GuestError FrameResult) :
    (d.after answer).unmarked = d.unmarked.after answer :=
  (after_setPaused d false answer).symm

/-- What one operation shows continues a replay. -/
theorem replay_follow {s t : Session} {e : Event} (h : Showed s e t)
    {answers : List (Except GuestError FrameResult)}
    (hs : s.display.unmarked = replay (opening s.display.grid s.initial?) answers) :
    t.display.unmarked = replay (opening t.display.grid t.initial?) (e.follow answers) := by
  rw [h.display, h.grid]
  have hback : (opening s.display.grid t.initial?).unmarked
      = opening s.display.grid t.initial? := setPaused_self (paused_opening _ _)
  match e, h with
  | .began, _ => exact hback
  | .disposed, _ => exact hback
  | .passed, h =>
    rw [h.initial rfl]
    exact hs
  | .polled _ none, h =>
    rw [h.initial rfl]
    exact hs
  | .polled _ (some tick), h =>
    rw [h.initial rfl]
    show (s.display.after tick.answer).unmarked
      = replay (opening s.display.grid s.initial?) (answers ++ [tick.answer])
    rw [replay, unmarked_after, hs, List.foldl_append]
    rfl

theorem replay_run (ops : List Operation) (s : Session)
    (answers : List (Except GuestError FrameResult))
    (hs : s.display.unmarked = replay (opening s.display.grid s.initial?) answers) :
    let t := (s.run ops).session
    t.display.grid = s.display.grid ∧
      t.display.unmarked = replay (opening s.display.grid t.initial?)
        ((s.history ops).foldl Event.follow answers) := by
  induction ops generalizing s answers with
  | nil => exact ⟨rfl, hs⟩
  | cons op ops ih =>
    have hstep := rule_showed.step s op
    obtain ⟨hgrid, hdisplay⟩ := ih (s.step op).session _ (replay_follow hstep hs)
    rw [hstep.grid] at hgrid hdisplay
    exact ⟨hgrid, hdisplay⟩

/-- The display is decided by the game that is loaded and by what it answered since the display
was last put back. Every single operation shows what it means and nothing else, and a reset
reaches the beginning from everywhere. -/
theorem display_run (settings : Settings) (scheduler : Scheduler) (renderer : Renderer)
    (services : Services) :
    let s := newWith settings scheduler renderer services
    (∀ ops : List Operation,
      (s.run ops).session.display.unmarked
        = replay (opening settings.grid (s.run ops).session.initial?) (recent (s.history ops))) ∧
      (∀ (t : Session) (op : Operation),
        (t.step op).session.display.unmarked
          = ((t.event op).shows (t.step op).session.initial? t.display).unmarked) ∧
      ∀ t : Session, t.reset.session.display.unmarked = opening t.display.grid t.initial? := by
  intro s
  refine ⟨?_, ?_, ?_⟩
  · intro ops
    exact (replay_run ops s [] rfl).2
  · intro t op
    exact (rule_showed.step t op).display
  · intro t
    exact unmarked_firstDisplay t.initial? t.display t.scheduler.isPaused

end Session

end Handheld
