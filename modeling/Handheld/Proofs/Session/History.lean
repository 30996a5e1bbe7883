import Handheld.Proofs.Sandbox.Realm
import Handheld.Session.Play

/-!
# The history of a session

Of everything that can be done to a session only a few operations matter to what a game shows: a
game begins, an update tick runs, the session is disposed of. The rest passes. This file reads
that off a run, as one event for each operation, and gives the rule by which everything that is
proved of runs is proved here: what holds of the primitive operations holds of all of them.
Nothing is assumed about the cartridges. What a game answers is part of the history, and a
scripted cartridge may answer its calls with any values.

* `Event`, `event`, `history`: what an operation means for the display, and a run as events;
* `LoadLeaves`: the four ways in which a load can end;
* `Rule`, `Rule.step`: a relation between the session before and the session after, kept by every
  primitive operation, is kept by every operation;
* `Rule.run`: an invariant of the primitive operations is one of all runs.
-/

namespace Handheld.Session

/-! ### Events -/

/-- An update tick: what the game answered, and the score that the tick left on the display. -/
structure UpdateTick where
  answer : Except GuestError FrameResult
  score : Int

/-- What an operation means for the display. -/
inductive Event
  /-- The display was put back to where the game that is now loaded begins. If there is none any
  more, it was emptied. -/
  | began
  /-- The session was disposed of, and the display emptied. -/
  | disposed
  /-- A poll, with the update tick that it ran. -/
  | polled (now : Int) (tick : Option UpdateTick)
  | passed

/-- Whether an operation put the display back. -/
def Event.restarts : Event → Bool
  | .began | .disposed => true
  | .polled _ _ | .passed => false

/-- The update tick that a poll runs, if it runs one. -/
def updateTick? (s : Session) (now : Int) : Option UpdateTick :=
  match (s.scheduler.beginTick now).1 with
  | some (.update delta) =>
    some ⟨s.sandbox.answer (Duration.seconds delta) s.input.snapshot.1,
      (s.poll now).session.display.score⟩
  | some .renderOnly | none => none

/-- What a load means: something begins if it succeeds, and also if it fails with a game to fall
back on. -/
def loadEvent (s : Session) (c : Guest.Cartridge) : Event :=
  match (s.cleared.sandbox.load c).1, s.game with
  | .ok _, _ => .began
  | .error _, some _ => .began
  | .error _, none => .passed

/-- What an operation means that loads a cartridge if it finds one. -/
def offerEvent (s : Session) : Option Guest.Cartridge → Event
  | some c => s.loadEvent c
  | none => .passed

/-- What an operation means. -/
def event (s : Session) : Operation → Event
  | .load c => s.loadEvent c
  | .loadBundled name => s.offerEvent ((Guest.Bundled.ofName? name).map Guest.Bundled.cartridge)
  | .create _ => s.offerEvent s.services.generate.toOption
  | .restart _ => s.offerEvent s.cartridge?
  | .reset => .began
  | .dispose => .disposed
  | .poll now => .polled now (s.updateTick? now)
  | .acquire | .startAt _ | .stop | .pause | .unpause | .press _ | .release _ | .keyDown _
  | .keyUp _ | .openLeaderboard | .closeLeaderboard | .setHook | .arrange _ | .withdraw _ => .passed

/-- What the operations of a run mean, in order. -/
def history (s : Session) : List Operation → List Event
  | [] => []
  | op :: ops => s.event op :: history (s.step op).session ops

/-! ### Loads -/

/-- What a load means and leaves. -/
inductive LoadLeaves (s : Session) (c : Guest.Cartridge) : Event → Session → Prop
  | loaded {d sandbox told} (h : s.cleared.sandbox.load c = (.ok d, sandbox, told)) :
      LoadLeaves s c .began ({ s.cleared with sandbox := sandbox }.installed c d)
  /-- There was no game, and there still is none. -/
  | refused {cause sandbox told} (h : s.cleared.sandbox.load c = (.error cause, sandbox, told))
      (hgame : s.game = none) : LoadLeaves s c .passed { s.cleared with sandbox := sandbox }
  /-- The game that was there begins again. -/
  | restored {cause failed told g d sandbox more}
      (h : s.cleared.sandbox.load c = (.error cause, failed, told)) (hgame : s.game = some g)
      (hagain : failed.load g.cartridge = (.ok d, sandbox, more)) :
      LoadLeaves s c .began ({ s.cleared with sandbox := sandbox }.installed g.cartridge d)
  /-- The game that was there is gone. -/
  | lost {cause failed told g again sandbox more}
      (h : s.cleared.sandbox.load c = (.error cause, failed, told)) (hgame : s.game = some g)
      (hagain : failed.load g.cartridge = (.error again, sandbox, more)) :
      LoadLeaves s c .began ({ s.cleared with sandbox := sandbox }.unloaded)

theorem restored_of_none {s : Session} (h : s.game = none) : s.restored = (s, []) := by
  rw [restored, h]

theorem restored_of_ok {s : Session} {g : LoadedGame} {d : Definition} {sandbox : Sandbox}
    {told : List Notice} (h : s.game = some g)
    (hload : s.sandbox.load g.cartridge = (.ok d, sandbox, told)) :
    s.restored.1 = { s with sandbox := sandbox }.installed g.cartridge d := by
  rw [restored, h]
  simp only [hload]

theorem restored_of_error {s : Session} {g : LoadedGame} {cause : LoadError} {sandbox : Sandbox}
    {told : List Notice} (h : s.game = some g)
    (hload : s.sandbox.load g.cartridge = (.error cause, sandbox, told)) :
    s.restored.1 = { s with sandbox := sandbox }.unloaded := by
  rw [restored, h]
  simp only [hload]

theorem loadLeaves_load (s : Session) (c : Guest.Cartridge) :
    LoadLeaves s c (s.loadEvent c) (s.load c).session := by
  unfold loadEvent load
  rcases hload : s.cleared.sandbox.load c with ⟨_ | d, sandbox, told⟩
  · cases hgame : s.game with
    | none =>
      simp only
      rw [restored_of_none (s := { s.cleared with sandbox := sandbox }) hgame]
      exact .refused hload hgame
    | some g =>
      simp only
      rcases hagain : sandbox.load g.cartridge with ⟨_ | d, after, more⟩
      · rw [restored_of_error (s := { s.cleared with sandbox := sandbox }) hgame hagain]
        exact .lost hload hgame hagain
      · rw [restored_of_ok (s := { s.cleared with sandbox := sandbox }) hgame hagain]
        exact .restored hload hgame hagain
  · exact .loaded hload

/-! ### What holds of the primitive operations -/

/-- A relation between the session before an operation, what the operation means, and the session
after it, that every primitive operation keeps. The parts that no primitive operation is about
may change at will. -/
structure Rule (R : Session → Event → Session → Prop) : Prop where
  aside : ∀ (s : Session) (input : InputState) (services : Services)
    (overlay : Option (List LeaderboardEntry)) (pausedForOverlay hookSet firstFrameQueued : Bool)
    (board : Option (List LeaderboardEntry)),
    R s .passed
      { s with
        input := input, services := services, overlay := overlay
        pausedForOverlay := pausedForOverlay, hookSet := hookSet
        firstFrameQueued := firstFrameQueued, board := board }
  followed : ∀ {s t u : Session} {e : Event}, R s e t → R t .passed u → R s e u
  acquire : ∀ s : Session, R s .passed s.acquire.session
  withdraw : ∀ (s : Session) (name : String), R s .passed (s.withdraw name)
  load : ∀ (s : Session) (c : Guest.Cartridge), R s (s.loadEvent c) (s.load c).session
  startAt : ∀ (s : Session) (now : Int), R s .passed (s.startAt now).session
  stop : ∀ s : Session, R s .passed s.stop.session
  pause : ∀ s : Session, R s .passed s.pause.session
  unpause : ∀ s : Session, R s .passed s.unpause.session
  reset : ∀ s : Session, R s .began s.reset.session
  dispose : ∀ s : Session, R s .disposed s.dispose.session
  poll : ∀ (s : Session) (now : Int), R s (.polled now (s.updateTick? now)) (s.poll now).session

namespace Rule

variable {R : Session → Event → Session → Prop}

/-- Nothing happens. -/
theorem same (h : Rule R) (s : Session) : R s .passed s :=
  h.aside s s.input s.services s.overlay s.pausedForOverlay s.hookSet s.firstFrameQueued s.board

theorem closeLeaderboard (h : Rule R) (s : Session) :
    R s .passed s.closeLeaderboard.session := by
  have huncovered : R s .passed s.uncovered :=
    h.aside s s.input s.services none false s.hookSet s.firstFrameQueued s.board
  unfold Session.closeLeaderboard
  split
  · exact h.followed huncovered (h.unpause s.uncovered)
  · exact huncovered

theorem pausedFor (h : Rule R) (s : Session) : R s .passed s.pausedFor.1 := by
  unfold Session.pausedFor
  split
  · let t := s.pause.session
    exact h.followed (h.pause s)
      (h.aside t t.input t.services t.overlay true t.hookSet t.firstFrameQueued t.board)
  · exact h.same s

theorem openLeaderboard (h : Rule R) (s : Session) :
    R s .passed s.openLeaderboard.session := by
  have hpaused := h.pausedFor s
  unfold Session.openLeaderboard
  generalize s.pausedFor = p at hpaused ⊢
  obtain ⟨t, told⟩ := p
  simp only at hpaused ⊢
  split
  · rename_i entries _
    exact h.followed hpaused
      (h.aside t t.input t.services (some entries) t.pausedForOverlay t.hookSet
        t.firstFrameQueued (some entries))
  · exact h.followed hpaused (h.closeLeaderboard t)

theorem loadBundled (h : Rule R) (s : Session) (name : String) :
    R s (s.offerEvent ((Guest.Bundled.ofName? name).map Guest.Bundled.cartridge))
      (s.loadBundled name).session := by
  unfold Session.loadBundled
  cases Guest.Bundled.ofName? name with
  | none => exact h.same s
  | some g => exact h.load s g.cartridge

theorem create (h : Rule R) (s : Session) (description : String) :
    R s (s.offerEvent s.services.generate.toOption) (s.create description).session := by
  unfold Session.create
  cases s.services.generate with
  | error cause => exact h.same s
  | ok c => exact h.load s c

theorem restart (h : Rule R) (s : Session) (clock : Int) :
    R s (s.offerEvent s.cartridge?) (s.restart clock).session := by
  unfold Session.restart
  cases s.cartridge? with
  | none => exact h.same s
  | some c =>
    simp only
    split
    · exact h.load s c
    · exact h.followed (h.load s c) (h.startAt (s.load c).session clock)

theorem press (h : Rule R) (s : Session) (x : Button) : R s .passed (s.press x) :=
  h.aside s (s.input.press x) s.services s.overlay s.pausedForOverlay s.hookSet
    s.firstFrameQueued s.board

theorem release (h : Rule R) (s : Session) (x : Button) : R s .passed (s.release x) :=
  h.aside s (s.input.release x) s.services s.overlay s.pausedForOverlay s.hookSet
    s.firstFrameQueued s.board

theorem keyDown (h : Rule R) (s : Session) (code : String) : R s .passed (s.keyDown code).2 := by
  unfold Session.keyDown
  split
  · rename_i x _
    exact h.press s x
  · exact h.same s

theorem keyUp (h : Rule R) (s : Session) (code : String) : R s .passed (s.keyUp code).2 := by
  unfold Session.keyUp
  split
  · rename_i x _
    exact h.release s x
  · exact h.same s

/-- What every primitive operation keeps, every operation keeps. -/
theorem step (h : Rule R) (s : Session) (op : Operation) :
    R s (s.event op) (s.step op).session := by
  cases op with
  | acquire => exact h.acquire s
  | load c => exact h.load s c
  | loadBundled name => exact h.loadBundled s name
  | create description => exact h.create s description
  | restart clock => exact h.restart s clock
  | startAt now => exact h.startAt s now
  | stop => exact h.stop s
  | pause => exact h.pause s
  | unpause => exact h.unpause s
  | reset => exact h.reset s
  | press x => exact h.press s x
  | release x => exact h.release s x
  | keyDown code => exact h.keyDown s code
  | keyUp code => exact h.keyUp s code
  | poll now => exact h.poll s now
  | openLeaderboard => exact h.openLeaderboard s
  | closeLeaderboard => exact h.closeLeaderboard s
  | setHook =>
    exact h.aside s s.input s.services s.overlay s.pausedForOverlay true false s.board
  | dispose => exact h.dispose s
  | arrange services =>
    exact h.aside s s.input services s.overlay s.pausedForOverlay s.hookSet s.firstFrameQueued
      s.board
  | withdraw name => exact h.withdraw s name

/-- An invariant of the primitive operations is one of all runs. -/
theorem run {P : Session → Prop} (h : Rule fun s _ t => P s → P t) {s : Session} (hs : P s)
    (ops : List Operation) : P (s.run ops).session := by
  induction ops generalizing s with
  | nil => exact hs
  | cons op ops ih => exact ih (h.step s op hs)

end Rule

end Handheld.Session
