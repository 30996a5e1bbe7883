import Handheld.Proofs.Session.Effects

/-!
# Sessions side by side

Some of what a session holds has no influence on what it does: nobody who watches it can tell two
sessions apart that differ in nothing else. This file gives the rule by which such statements are
proved. Two sessions stand in a relation; every primitive operation answers the same in both and
keeps the relation. Then so does every operation, and every run: the two sessions go on in
lockstep. Of the primitive operations only a poll does something to be seen apart from writing to
the log, and the log is never looked at.

* `Alike`, `Together`: replies of two sessions that go on in lockstep;
* `Front`: what an operation that is made of others decides by;
* `Lockstep`: what has to be shown of the primitive operations;
* `Lockstep.step`, `Lockstep.run`: then it holds of all operations, and of all runs.
-/

namespace Handheld.Session

/-! ### Replies -/

section Replies

variable {P Q : Session → Session → Prop} {seen : Effect → Bool} {α : Type} {r r' : Reply α}

/-- Two replies answer the same and leave sessions in a relation. -/
structure Alike (P : Session → Session → Prop) (r r' : Reply α) : Prop where
  value : r'.value = r.value
  session : P r.session r'.session

/-- They have the same effects, too, among those that are seen. -/
structure Together (P : Session → Session → Prop) (seen : Effect → Bool) (r r' : Reply α) : Prop
    extends Alike P r r' where
  acts : r'.effects.filter seen = r.effects.filter seen

theorem Together.answering (h : Together P seen r r') (f : α → Outcome) :
    Together P seen (answering r f) (answering r' f) :=
  ⟨⟨congrArg f h.value, h.session⟩, h.acts⟩

/-- Replies without effects that are seen. -/
theorem Alike.together (h : Alike P r r') (hr : r.effects.filter seen = [])
    (hr' : r'.effects.filter seen = []) : Together P seen r r' :=
  ⟨h, hr'.trans hr.symm⟩

theorem Together.quiet {s t : Session} (h : P s t) (value : α) :
    Together P seen (quiet value s) (quiet value t) :=
  ⟨⟨rfl, h⟩, rfl⟩

end Replies

/-- What operations that are made of others look at. -/
structure Front (s t : Session) : Prop where
  input : t.input = s.input
  services : t.services = s.services
  state : t.scheduler.state = s.scheduler.state
  game : t.game = s.game
  mark : t.pausedForOverlay = s.pausedForOverlay

/-- A relation that every primitive operation keeps between two sessions, with the same answers
and with the same effects among those that are seen. -/
structure Lockstep (P : Session → Session → Prop) (seen : Effect → Bool) : Prop where
  unlogged : ∀ notice loading, seen (.told notice loading) = false
  front : ∀ {s t : Session}, P s t → Front s t
  input : ∀ {s t : Session}, P s t → ∀ input, P { s with input := input } { t with input := input }
  services : ∀ {s t : Session}, P s t → ∀ services,
    P { s with services := services } { t with services := services }
  overlay : ∀ {s t : Session}, P s t → ∀ overlay,
    P { s with overlay := overlay } { t with overlay := overlay }
  mark : ∀ {s t : Session}, P s t → ∀ pausedForOverlay,
    P { s with pausedForOverlay := pausedForOverlay } { t with pausedForOverlay := pausedForOverlay }
  board : ∀ {s t : Session}, P s t → ∀ board, P { s with board := board } { t with board := board }
  setHook : ∀ {s t : Session}, P s t → P s.setHook t.setHook
  acquire : ∀ {s t : Session}, P s t → P s.acquire.session t.acquire.session
  withdraw : ∀ {s t : Session}, P s t → ∀ name, P (s.withdraw name) (t.withdraw name)
  load : ∀ {s t : Session}, P s t → ∀ c, Alike P (s.load c) (t.load c)
  startAt : ∀ {s t : Session}, P s t → ∀ now, Alike P (s.startAt now) (t.startAt now)
  stop : ∀ {s t : Session}, P s t → Alike P s.stop t.stop
  pause : ∀ {s t : Session}, P s t → Alike P s.pause t.pause
  unpause : ∀ {s t : Session}, P s t → Alike P s.unpause t.unpause
  reset : ∀ {s t : Session}, P s t → P s.reset.session t.reset.session
  dispose : ∀ {s t : Session}, P s t → P s.dispose.session t.dispose.session
  poll : ∀ {s t : Session}, P s t → ∀ now, Together P seen (s.poll now) (t.poll now)

namespace Lockstep

variable {P : Session → Session → Prop} {seen : Effect → Bool} {s t : Session}

/-! ### The log is not looked at -/

theorem filter_tell (h : Lockstep P seen) (ns : List Notice) :
    (Effect.tell ns).filter seen = [] := by
  rw [List.filter_eq_nil_iff]
  intro e he
  obtain ⟨n, _, rfl⟩ := List.mem_map.mp he
  exact ne_true_of_eq_false (h.unlogged n none)

theorem filter_tellLoading (h : Lockstep P seen) (size : Nat) (ns : List Notice) :
    (Effect.tellLoading size ns).filter seen = [] := by
  rw [List.filter_eq_nil_iff]
  intro e he
  obtain ⟨n, _, rfl⟩ := List.mem_map.mp he
  exact ne_true_of_eq_false (h.unlogged n (some size))

theorem filter_load (h : Lockstep P seen) (s : Session) (c : Guest.Cartridge) :
    (s.load c).effects.filter seen = [] := by
  unfold Session.load
  split <;> exact h.filter_tellLoading _ _

theorem filter_startAt (h : Lockstep P seen) (s : Session) (now : Int) :
    (s.startAt now).effects.filter seen = [] := by
  unfold Session.startAt
  split <;> exact h.filter_tell _

theorem filter_pausedFor (h : Lockstep P seen) (s : Session) :
    s.pausedFor.2.filter seen = [] := by
  unfold Session.pausedFor
  split
  · exact h.filter_tell _
  · rfl

theorem filter_closeLeaderboard (h : Lockstep P seen) (s : Session) :
    s.closeLeaderboard.effects.filter seen = [] := by
  unfold Session.closeLeaderboard
  split
  · exact h.filter_tell _
  · rfl

/-! ### Operations that are made of others -/

theorem uncovered (h : Lockstep P seen) (hs : P s t) : P s.uncovered t.uncovered :=
  h.mark (h.overlay hs none) false

theorem closeLeaderboard (h : Lockstep P seen) (hs : P s t) :
    Together P seen s.closeLeaderboard t.closeLeaderboard := by
  refine Alike.together ?_ (h.filter_closeLeaderboard s) (h.filter_closeLeaderboard t)
  unfold Session.closeLeaderboard
  rw [(h.front hs).mark]
  split
  · exact ⟨rfl, (h.unpause (h.uncovered hs)).session⟩
  · exact ⟨rfl, h.uncovered hs⟩

theorem pausedFor (h : Lockstep P seen) (hs : P s t) : P s.pausedFor.1 t.pausedFor.1 := by
  unfold Session.pausedFor
  rw [(h.front hs).state]
  split
  · exact h.mark (h.pause hs).session true
  · exact hs

theorem openLeaderboard (h : Lockstep P seen) (hs : P s t) :
    Together P seen s.openLeaderboard t.openLeaderboard := by
  have hpaused := h.pausedFor hs
  have htold := h.filter_pausedFor s
  have htold' := h.filter_pausedFor t
  unfold Session.openLeaderboard
  generalize s.pausedFor = p at hpaused htold ⊢
  generalize t.pausedFor = q at hpaused htold' ⊢
  obtain ⟨u, told⟩ := p
  obtain ⟨v, told'⟩ := q
  simp only at hpaused htold htold' ⊢
  have hfetch : v.services.fetch = u.services.fetch :=
    congrArg Services.fetch (h.front hpaused).services
  have hnotices : v.services.fetchNotices = u.services.fetchNotices :=
    congrArg Services.fetchNotices (h.front hpaused).services
  rw [hfetch, hnotices]
  -- both ask the same leaderboard, and what they tell about it is not looked at
  have hasked : (told' ++ [Effect.fetched] ++ Effect.tell u.services.fetchNotices).filter seen
      = (told ++ [Effect.fetched] ++ Effect.tell u.services.fetchNotices).filter seen := by
    rw [List.filter_append, List.filter_append, htold', ← htold, ← List.filter_append,
      ← List.filter_append]
  cases u.services.fetch with
  | ok entries =>
    exact ⟨⟨rfl, h.board (h.overlay hpaused (some entries)) (some entries)⟩, hasked⟩
  | error cause =>
    have hclosed := h.closeLeaderboard hpaused
    refine ⟨⟨rfl, hclosed.session⟩, ?_⟩
    simp only
    rw [List.filter_append, List.filter_append, hasked, hclosed.acts, ← List.filter_append,
      ← List.filter_append]

theorem loadTogether (h : Lockstep P seen) (hs : P s t) (c : Guest.Cartridge) :
    Together P seen (s.load c) (t.load c) :=
  (h.load hs c).together (h.filter_load s c) (h.filter_load t c)

theorem loadBundled (h : Lockstep P seen) (hs : P s t) (name : String) :
    Together P seen (s.loadBundled name) (t.loadBundled name) := by
  unfold Session.loadBundled
  cases Guest.Bundled.ofName? name with
  | none => exact .quiet hs _
  | some g => exact h.loadTogether hs g.cartridge

theorem create (h : Lockstep P seen) (hs : P s t) (description : String) :
    Together P seen (s.create description) (t.create description) := by
  have hcartridge : t.cartridge? = s.cartridge? :=
    congrArg (Option.map LoadedGame.cartridge) (h.front hs).game
  unfold Session.create
  rw [(h.front hs).services, (h.front hs).game, hcartridge]
  cases s.services.generate with
  | error cause => exact ⟨⟨rfl, hs⟩, rfl⟩
  | ok c =>
    have hload := h.loadTogether hs c
    refine ⟨⟨hload.value, hload.session⟩, ?_⟩
    simp only
    rw [List.filter_append, hload.acts, ← List.filter_append]

theorem restart (h : Lockstep P seen) (hs : P s t) (clock : Int) :
    Together P seen (s.restart clock) (t.restart clock) := by
  have hcartridge : t.cartridge? = s.cartridge? :=
    congrArg (Option.map LoadedGame.cartridge) (h.front hs).game
  unfold Session.restart
  rw [hcartridge]
  cases s.cartridge? with
  | none => exact .quiet hs _
  | some c =>
    have hload := h.loadTogether hs c
    simp only
    rw [hload.value]
    cases (s.load c).value with
    | error cause => exact ⟨⟨rfl, hload.session⟩, hload.acts⟩
    | ok d =>
      refine Alike.together ⟨rfl, (h.startAt hload.session clock).session⟩ ?_ ?_
      · rw [List.filter_append, h.filter_load, h.filter_startAt]
        rfl
      · rw [List.filter_append, h.filter_load, h.filter_startAt]
        rfl

theorem press (h : Lockstep P seen) (hs : P s t) (x : Button) : P (s.press x) (t.press x) := by
  unfold Session.press
  rw [(h.front hs).input]
  exact h.input hs (s.input.press x)

theorem release (h : Lockstep P seen) (hs : P s t) (x : Button) :
    P (s.release x) (t.release x) := by
  unfold Session.release
  rw [(h.front hs).input]
  exact h.input hs (s.input.release x)

theorem keyDown (h : Lockstep P seen) (hs : P s t) (code : String) :
    (t.keyDown code).1 = (s.keyDown code).1 ∧ P (s.keyDown code).2 (t.keyDown code).2 := by
  unfold Session.keyDown
  cases Button.ofKey? code with
  | none => exact ⟨rfl, hs⟩
  | some x => exact ⟨rfl, h.press hs x⟩

theorem keyUp (h : Lockstep P seen) (hs : P s t) (code : String) :
    (t.keyUp code).1 = (s.keyUp code).1 ∧ P (s.keyUp code).2 (t.keyUp code).2 := by
  unfold Session.keyUp
  cases Button.ofKey? code with
  | none => exact ⟨rfl, hs⟩
  | some x => exact ⟨rfl, h.release hs x⟩

/-! ### All operations -/

/-- Every operation answers the same, is seen to do the same, and keeps the relation. -/
theorem step (h : Lockstep P seen) (hs : P s t) (op : Operation) :
    Together P seen (s.step op) (t.step op) := by
  cases op with
  | acquire => exact ⟨⟨rfl, h.acquire hs⟩, (h.filter_tell _).trans (h.filter_tell _).symm⟩
  | load c => exact (h.loadTogether hs c).answering .loaded
  | loadBundled name => exact (h.loadBundled hs name).answering .loaded
  | create description => exact (h.create hs description).answering .loaded
  | restart clock => exact (h.restart hs clock).answering .restarted
  | startAt now =>
    exact ((h.startAt hs now).together (h.filter_startAt s now) (h.filter_startAt t now)).answering
      .accepted
  | stop => exact ((h.stop hs).together (h.filter_tell _) (h.filter_tell _)).answering .accepted
  | pause => exact ((h.pause hs).together (h.filter_tell _) (h.filter_tell _)).answering .accepted
  | unpause =>
    exact ((h.unpause hs).together (h.filter_tell _) (h.filter_tell _)).answering .accepted
  | reset => exact ⟨⟨rfl, h.reset hs⟩, (h.filter_tell _).trans (h.filter_tell _).symm⟩
  | press x => exact .quiet (h.press hs x) Outcome.done
  | release x => exact .quiet (h.release hs x) Outcome.done
  | keyDown code =>
    obtain ⟨hvalue, hsession⟩ := h.keyDown hs code
    exact ⟨⟨congrArg Outcome.accepted hvalue, hsession⟩, rfl⟩
  | keyUp code =>
    obtain ⟨hvalue, hsession⟩ := h.keyUp hs code
    exact ⟨⟨congrArg Outcome.accepted hvalue, hsession⟩, rfl⟩
  | poll now => exact (h.poll hs now).answering .polled
  | openLeaderboard => exact (h.openLeaderboard hs).answering .opened
  | closeLeaderboard => exact (h.closeLeaderboard hs).answering fun _ => .done
  | setHook => exact .quiet (h.setHook hs) Outcome.done
  | dispose => exact ⟨⟨rfl, h.dispose hs⟩, (h.filter_tell _).trans (h.filter_tell _).symm⟩
  | arrange services => exact .quiet (h.services hs services) Outcome.done
  | withdraw name => exact .quiet (h.withdraw hs name) Outcome.done

/-- Two sessions in the relation go on in lockstep. -/
theorem run (h : Lockstep P seen) (hs : P s t) (ops : List Operation) :
    Together P seen (s.run ops) (t.run ops) := by
  induction ops generalizing s t with
  | nil => exact .quiet hs []
  | cons op ops ih =>
    have hfirst := h.step hs op
    have hlater := ih hfirst.session
    refine ⟨⟨?_, hlater.session⟩, ?_⟩
    · show (t.step op).value :: ((t.step op).session.run ops).value
        = (s.step op).value :: ((s.step op).session.run ops).value
      rw [hfirst.value, hlater.value]
    · show ((t.step op).effects ++ ((t.step op).session.run ops).effects).filter seen
        = ((s.step op).effects ++ ((s.step op).session.run ops).effects).filter seen
      rw [List.filter_append, hfirst.acts, hlater.acts, ← List.filter_append]

end Lockstep

end Handheld.Session
