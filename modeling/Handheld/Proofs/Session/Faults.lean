import Handheld.Proofs.Session.Coherence
import Handheld.Proofs.Session.Reports
import Handheld.Proofs.Session.Swap

/-!
# Faults leave no trace

A fault of the game leaves nothing behind but the count of faults: not on the display, not in the
timing, not in the input, and not in what others are called with. To say this, calls of the game
are made to end in ways of our choosing. A session takes turns. A turn is an operation as it is,
or a poll with a cue, in which the call of the game, if there is one, ends as the cue says, while
the game itself goes on as if it had been called. Two runs with the same turns, one with faults for
its cues and one in which the cued calls return nothing, are the same apart from the count, and the
counts differ by one for every update tick that had a cue.

Nothing is assumed about the game. With a cue that ends the call as the game would have ended it
the poll is the one without the cue, so the faults of the game itself are covered.

* `pollCued`: polls with a cue;
* `Turn`, `take`, `play`, `play_free`: sessions that take turns;
* `Staffed`, `rule_staffed`: whenever a tick can be due there is a game to be called;
* `pollCued_own`, `pollCued_faulty`: a single poll with a cue that the game would have given, and
  with a fault for its cue;
* `play_silenced`: faults leave no trace.
-/

namespace Handheld.Session

open Guest (Completion)

/-! ### Turns -/

/-- The session with another game in its sandbox. -/
def withGame (s : Session) (game : Option Realm) : Session :=
  s.withSandbox { s.sandbox with realm := game }

/-- A poll in which the call of the game, if there is one, ends in a given way. The game goes on
as if it had been called. -/
def pollCued (s : Session) (now : Int) (ending : Completion) : Reply (Option Tick) :=
  let cued := (s.withSandbox (s.sandbox.cueing ending)).poll now
  { cued with session := cued.session.withGame (s.poll now).session.sandbox.realm }

/-- What a session does next. -/
inductive Turn
  | free (op : Operation)
  | cued (now : Int) (ending : Completion)

/-- Whether a turn, if it is cued, is cued with a fault. -/
def Turn.Faulty : Turn → Prop
  | .free _ => True
  | .cued _ ending => ending.Faulty

/-- The turn with a call that returns nothing. -/
def Turn.silenced : Turn → Turn
  | .free op => .free op
  | .cued now _ => .cued now (.returned .undefined)

def take (s : Session) : Turn → Reply Outcome
  | .free op => s.step op
  | .cued now ending => answering (s.pollCued now ending) .polled

/-- Takes turns in order. -/
def play (s : Session) : List Turn → Reply (List Outcome)
  | [] => quiet [] s
  | turn :: turns =>
    let first := s.take turn
    let later := first.session.play turns
    ⟨first.value :: later.value, later.session, first.effects ++ later.effects⟩

/-- How many updates a poll ran. -/
def updates : Option Tick → Nat
  | some (.update _) => 1
  | some .renderOnly | none => 0

/-- How many updates a turn with a cue ran. -/
def Turn.cues : Turn → Outcome → Nat
  | .cued _ _, .polled tick => updates tick
  | _, _ => 0

/-- How many updates with a cue the turns ran that had these outcomes. -/
def cues : List Turn → List Outcome → Nat
  | turn :: turns, outcome :: outcomes => turn.cues outcome + cues turns outcomes
  | _, _ => 0

variable {s : Session}

/-- Turns without cues are a run. -/
theorem play_free (s : Session) (ops : List Operation) : s.play (ops.map .free) = s.run ops := by
  induction ops generalizing s with
  | nil => rfl
  | cons op ops ih =>
    have hlater := ih (s.step op).session
    rw [List.map_cons, play, run, ← hlater]
    rfl

theorem pollCued_eq (s : Session) (now : Int) (ending : Completion) :
    s.pollCued now ending =
      let cued := (s.withSandbox (s.sandbox.cueing ending)).poll now
      ⟨cued.value, cued.session.withGame (s.poll now).session.sandbox.realm, cued.effects⟩ := rfl

theorem value_pollCued (s : Session) (now : Int) (ending : Completion) :
    (s.pollCued now ending).value = (s.poll now).value := by
  rw [pollCued_eq]
  simp only
  rw [value_poll, value_poll]
  rfl

/-! ### Whoever can be called is there -/

/-- There is an engine for the game, and a game while ticks can be due. -/
structure Staffed (s : Session) : Prop where
  engine : s.sandbox.isLoaded = true → s.sandbox.ready = true
  active : s.scheduler.isActive = true → s.sandbox.isLoaded = true

theorem Staffed.isPlayable (h : Staffed s) (hactive : s.scheduler.isActive = true) :
    s.sandbox.isPlayable = true := by
  have hloaded := h.active hactive
  rw [Sandbox.isPlayable, hloaded, h.engine hloaded]
  rfl

theorem isActive_pause (sch : Scheduler) : sch.pause.2.isActive = sch.isActive := by
  unfold Scheduler.pause
  split
  · rename_i hrunning
    rw [Scheduler.isActive, Scheduler.isActive, hrunning]
    rfl
  · rfl

theorem isActive_unpause (sch : Scheduler) : sch.unpause.2.isActive = sch.isActive := by
  unfold Scheduler.unpause
  split
  · rename_i hpaused
    rw [Scheduler.isActive, Scheduler.isActive, hpaused]
    rfl
  · rfl

/-- A game that was just loaded has an engine. -/
theorem ready_of_load {x y : Sandbox} {c : Guest.Cartridge} {d : Definition} {told : List Notice}
    (h : x.load c = (.ok d, y, told)) : y.ready = true := by
  have hready := Sandbox.ready_of_ok h
  obtain ⟨p, _, hsandbox⟩ := Sandbox.load_of_ok h
  rw [hsandbox]
  exact hready

theorem staffed_load {t : Session} {c : Guest.Cartridge} {e : Event}
    (hends : LoadLeaves s c e t) : Staffed t := by
  have hstopped := not_isActive_stop s.scheduler
  cases hends with
  | loaded hload => exact ⟨fun _ => ready_of_load hload, fun hactive => absurd hactive hstopped⟩
  | refused hload =>
    rw [Sandbox.load_of_error hload]
    exact ⟨nofun, fun hactive => absurd hactive hstopped⟩
  | restored _ _ hagain =>
    exact ⟨fun _ => ready_of_load hagain, fun hactive => absurd hactive hstopped⟩
  | lost _ _ hagain =>
    rw [Sandbox.load_of_error hagain]
    exact ⟨nofun, fun hactive => absurd hactive hstopped⟩

theorem Staffed.poll {t : Session} {now : Int} {tick : Option UpdateTick} (h : Staffed s)
    (hends : PollLeaves s now tick t) : Staffed t := by
  cases hends with
  | idle => exact ⟨h.engine, h.active⟩
  | drawn hactive => exact ⟨h.engine, fun _ => h.active hactive⟩
  | updated tick delta snapshot promised hactive =>
    have hloaded := s.sandbox.isLoaded_invoke delta snapshot
    have hready := s.sandbox.ready_invoke delta snapshot
    exact ⟨fun hafter => hready.trans (h.engine (hloaded.symm.trans hafter)),
      fun _ => hloaded.trans (h.active hactive)⟩

theorem rule_staffed : Rule fun s _ t => Staffed s → Staffed t where
  aside _ _ _ _ _ _ _ _ h := ⟨h.engine, h.active⟩
  followed hst htu h := htu (hst h)
  acquire s h := by
    have hacquired := s.sandbox.acquire_fst
    refine ⟨fun _ => ?_, fun hactive => ?_⟩
    · show s.sandbox.acquire.1.ready = true
      rw [hacquired]
    · show s.sandbox.acquire.1.isLoaded = true
      rw [hacquired]
      exact h.active hactive
  withdraw _ _ h := ⟨h.engine, h.active⟩
  load s c _ := staffed_load (s.loadLeaves_load c)
  startAt s now h := by
    unfold startAt
    cases hplayable : s.isPlayable with
    | false => exact h
    | true => exact ⟨h.engine, fun _ => ((Bool.and_eq_true _ _).mp hplayable).2⟩
  stop s h := ⟨h.engine, fun hactive => absurd hactive (not_isActive_stop s.scheduler)⟩
  pause s h :=
    ⟨h.engine, fun hactive => h.active ((isActive_pause s.scheduler).symm.trans hactive)⟩
  unpause s h :=
    ⟨h.engine, fun hactive => h.active ((isActive_unpause s.scheduler).symm.trans hactive)⟩
  reset _ h := ⟨h.engine, h.active⟩
  dispose s _ := by
    have hrealm := realm_release s.sandbox
    have hgone : ¬ s.sandbox.release.1.isLoaded = true := by
      rw [Sandbox.isLoaded, hrealm]
      exact Bool.false_ne_true
    exact ⟨fun hloaded => absurd hloaded hgone,
      fun hactive => absurd hactive (not_isActive_stop s.scheduler)⟩
  poll s now h := h.poll (s.pollLeaves_poll now)

theorem isLoaded_poll (s : Session) (now : Int) :
    (s.poll now).session.sandbox.isLoaded = s.sandbox.isLoaded := by
  rw [sandbox_poll]
  rcases (s.poll now).value with _ | (delta | _)
  · rfl
  · exact s.sandbox.isLoaded_invoke _ _
  · rfl

theorem Staffed.withGame (h : Staffed s) {game : Option Realm}
    (hgame : game.isSome = s.sandbox.isLoaded) : Staffed (s.withGame game) :=
  ⟨fun hyes => h.engine (hgame.symm.trans hyes), fun hactive => hgame.trans (h.active hactive)⟩

theorem Staffed.pollCued (h : Staffed s) (now : Int) (ending : Completion) :
    Staffed (s.pollCued now ending).session := by
  let t := s.withSandbox (s.sandbox.cueing ending)
  have hloaded : t.sandbox.isLoaded = s.sandbox.isLoaded := Option.isSome_map
  have ht : Staffed t :=
    ⟨fun hyes => h.engine (hloaded.symm.trans hyes), fun hactive =>
      hloaded.trans (h.active hactive)⟩
  -- the game itself is there after the poll exactly if the one that was cued is
  have hsame : (s.poll now).session.sandbox.isLoaded = (t.poll now).session.sandbox.isLoaded := by
    rw [isLoaded_poll, isLoaded_poll, hloaded]
  rw [pollCued_eq]
  exact (rule_staffed.poll t now ht).withGame hsame

theorem Staffed.take (h : Staffed s) (turn : Turn) : Staffed (s.take turn).session := by
  cases turn with
  | free op => exact rule_staffed.step s op h
  | cued now ending => exact h.pollCued now ending

theorem Staffed.play (h : Staffed s) (turns : List Turn) : Staffed (s.play turns).session := by
  induction turns generalizing s with
  | nil => exact h
  | cons turn turns ih => exact ih (h.take turn)

/-! ### A poll with a cue -/

/-- What a cued tick leaves of the sandbox, apart from the game. -/
theorem sandboxAfter_cueing {x : Sandbox} {input : InputSnapshot} {tick : Option Tick}
    (h : ∀ delta, tick = some (.update delta) → x.isPlayable = true) (ending : Completion)
    (game : Option Realm) :
    { sandboxAfter (x.cueing ending) input tick with realm := game }
      = { x with
          realm := game
          faults := x.faults + updates tick * Sandbox.blame (Sandbox.outcome ending) } := by
  rcases tick with _ | (delta | _)
  · show _ = { x with realm := game, faults := x.faults + 0 * _ }
    rw [Nat.zero_mul]
    rfl
  · show { ((x.cueing ending).invoke _ input).2.1 with realm := game } = _
    rw [Sandbox.invoke_snd, Sandbox.answer_cueing (h delta rfl)]
    show _ = { x with realm := game, faults := x.faults + 1 * _ }
    rw [Nat.one_mul]
    rfl
  · show _ = { x with realm := game, faults := x.faults + 0 * _ }
    rw [Nat.zero_mul]
    rfl

theorem Staffed.isPlayable_of_update (h : Staffed s) {now : Int} {delta : Nat}
    (htick : (s.scheduler.beginTick now).1 = some (.update delta)) :
    s.sandbox.isPlayable = true :=
  h.isPlayable (isActive_of_beginTick (Prod.ext htick rfl))

/-- A poll with a cue does what a poll with any sandbox does in which the frame has the result of
the cue, and counts the fault of the cue. -/
theorem pollCued_together (h : Staffed s) (x : Sandbox) (now : Int) (ending : Completion)
    (hresult : ∀ delta, (s.scheduler.beginTick now).1 = some (.update delta) →
      ((s.sandbox.cueing ending).invoke (Duration.seconds delta) s.input.snapshot.1).1
        = (x.invoke (Duration.seconds delta) s.input.snapshot.1).1) :
    Together
      (fun u v => v = u.withSandbox
        { s.sandbox with
          realm := (s.poll now).session.sandbox.realm
          faults := s.sandbox.faults
            + updates (s.poll now).value * Sandbox.blame (Sandbox.outcome ending) })
      Effect.isAct ((s.withSandbox x).poll now) (s.pollCued now ending) := by
  have hpoll := (s.withSandbox x).poll_withSandbox (s.sandbox.cueing ending) now hresult
  rw [withSandbox_withSandbox] at hpoll
  rw [pollCued_eq]
  refine ⟨⟨hpoll.value, ?_⟩, hpoll.acts⟩
  simp only
  rw [hpoll.session, withGame, withSandbox_withSandbox]
  refine congrArg ((s.withSandbox x).poll now).session.withSandbox ?_
  rw [value_poll]
  exact sandboxAfter_cueing (fun delta htick => h.isPlayable_of_update htick) ending _

/-- A cue that ends the call as the game would have ended it makes no difference. -/
theorem pollCued_own (h : Staffed s) {now : Int} {delta : Nat} {ending : Completion}
    (htick : (s.poll now).value = some (.update delta))
    (hown : s.sandbox.answer (Duration.seconds delta) s.input.snapshot.1
      = Sandbox.outcome ending) :
    Together Eq Effect.isAct (s.poll now) (s.pollCued now ending) := by
  have hbegun : (s.scheduler.beginTick now).1 = some (.update delta) := by
    rw [← value_poll]
    exact htick
  have hplayable := h.isPlayable_of_update hbegun
  have htogether := pollCued_together h s.sandbox now ending fun other hother => by
    obtain rfl : delta = other := Tick.update.inj (Option.some.inj (hbegun.symm.trans hother))
    rw [Sandbox.invoke_result, Sandbox.invoke_result, Sandbox.answer_cueing hplayable, hown]
  have hleft : (s.poll now).session.sandbox
      = { s.sandbox with
          realm := (s.poll now).session.sandbox.realm
          faults := s.sandbox.faults
            + updates (s.poll now).value * Sandbox.blame (Sandbox.outcome ending) } := by
    have hinvoke := s.sandbox.invoke_snd (Duration.seconds delta) s.input.snapshot.1
    rw [hown] at hinvoke
    rw [sandbox_poll, htick, sandboxAfter, hinvoke, updates, Nat.one_mul]
  refine ⟨⟨htogether.value, ?_⟩, htogether.acts⟩
  rw [htogether.session, ← hleft]
  rfl

/-- A fault for a cue counts one update more than no answer for a cue, and that is all. -/
theorem pollCued_faulty (h : Staffed s) (now : Int) {ending : Completion}
    (hfaulty : ending.Faulty) :
    Together (fun u v => v = u.faulting (updates (s.poll now).value)) Effect.isAct
      (s.pollCued now (.returned .undefined)) (s.pollCued now ending) := by
  let x := s.sandbox.cueing (.returned .undefined)
  have hsilent := pollCued_together h x now (.returned .undefined) fun _ _ => rfl
  have hfaulted := pollCued_together h x now ending fun delta _ => by
    rw [s.sandbox.result_cueing (Sandbox.resultOf_faulty hfaulty), s.sandbox.result_cueing rfl]
  refine ⟨⟨hfaulted.value.trans hsilent.value.symm, ?_⟩, hfaulted.acts.trans hsilent.acts.symm⟩
  rw [hfaulted.session, hsilent.session, Sandbox.blame_faulty hfaulty, Nat.mul_one]
  rfl

theorem withGame_faulting (s : Session) (n : Nat) (game : Option Realm) :
    (s.faulting n).withGame game = (s.withGame game).faulting n := rfl

theorem pollCued_faulting (s : Session) (n : Nat) (now : Int) (ending : Completion) :
    Together (fun u v => v = u.faulting n) Effect.isAct (s.pollCued now ending)
      ((s.faulting n).pollCued now ending) := by
  have hcued := (s.withSandbox (s.sandbox.cueing ending)).together_poll_faulting n now
  have hgame : ((s.faulting n).poll now).session.sandbox.realm
      = (s.poll now).session.sandbox.realm := by
    rw [(s.together_poll_faulting n now).session]
    rfl
  have hcues : (s.faulting n).withSandbox ((s.faulting n).sandbox.cueing ending)
      = (s.withSandbox (s.sandbox.cueing ending)).faulting n := rfl
  rw [pollCued_eq, pollCued_eq, hgame, hcues]
  refine ⟨⟨hcued.value, ?_⟩, hcued.acts⟩
  simp only
  rw [hcued.session, withGame_faulting]

/-! ### Runs -/

theorem take_faulting (s : Session) (n : Nat) (turn : Turn) :
    Together (fun u v => v = u.faulting n) Effect.isAct (s.take turn)
      ((s.faulting n).take turn) := by
  cases turn with
  | free op => exact (lockstep_faulting n).step rfl op
  | cued now ending => exact (s.pollCued_faulting n now ending).answering .polled

theorem take_silenced (h : Staffed s) {turn : Turn} (hfaulty : turn.Faulty) :
    Together (fun u v => v = u.faulting (turn.cues (s.take turn.silenced).value)) Effect.isAct
      (s.take turn.silenced) (s.take turn) := by
  cases turn with
  | free op => exact ⟨⟨rfl, rfl⟩, rfl⟩
  | cued now ending =>
    show Together (fun u v => v = u.faulting (updates (s.pollCued now (.returned .undefined)).value))
      Effect.isAct _ _
    rw [value_pollCued]
    exact (pollCued_faulty h now hfaulty).answering .polled

theorem faulting_faulting (s : Session) (m n : Nat) :
    (s.faulting m).faulting n = s.faulting (n + m) := by
  show s.withSandbox { s.sandbox with faults := s.sandbox.faults + m + n } = _
  rw [Nat.add_assoc, Nat.add_comm m n]
  rfl

theorem cues_cons (turn : Turn) (turns : List Turn) (outcome : Outcome) (outcomes : List Outcome) :
    cues (turn :: turns) (outcome :: outcomes) = turn.cues outcome + cues turns outcomes := rfl

/-- Turns with faults for their cues, taken by a session that counted some faults more, differ
from the same turns without faults in the count alone. -/
theorem play_faulting (h : Staffed s) (n : Nat) {turns : List Turn}
    (hfaulty : ∀ turn ∈ turns, turn.Faulty) :
    Together
      (fun u v => v = u.faulting (n + cues turns (s.play (turns.map Turn.silenced)).value))
      Effect.isAct (s.play (turns.map Turn.silenced)) ((s.faulting n).play turns) := by
  induction turns generalizing s n with
  | nil => exact ⟨⟨rfl, rfl⟩, rfl⟩
  | cons turn turns ih =>
    have hturn := hfaulty turn List.mem_cons_self
    have hmore := s.take_faulting n turn
    have hsilent := take_silenced h hturn
    let k := turn.cues (s.take turn.silenced).value
    have hsession : ((s.faulting n).take turn).session
        = (s.take turn.silenced).session.faulting (n + k) := by
      rw [hmore.session, hsilent.session, faulting_faulting]
    have hlater := ih (h.take turn.silenced) (n + k) fun other hother =>
      hfaulty other (List.mem_cons_of_mem turn hother)
    rw [← hsession] at hlater
    refine ⟨⟨?_, ?_⟩, ?_⟩
    · show ((s.faulting n).take turn).value :: _ = (s.take turn.silenced).value :: _
      rw [hmore.value, hsilent.value, hlater.value]
    · show (((s.faulting n).take turn).session.play turns).session = _
      rw [hlater.session, Nat.add_assoc, ← cues_cons]
      rfl
    · show (((s.faulting n).take turn).effects ++ _).filter Effect.isAct
        = ((s.take turn.silenced).effects ++ _).filter Effect.isAct
      rw [List.filter_append, hmore.acts, hsilent.acts, hlater.acts, ← List.filter_append]

/-- Turns with faults for their cues answer the same, are observed to do the same and leave the
same as turns in which the cued calls return nothing. Only the count of faults is higher, by one
for each update that had a cue. Turns without cues are a run, and a cue that ends a call as the game
would have ended it makes no difference to a poll. -/
theorem play_silenced (settings : Settings) (period : Nat) (renderer : Renderer)
    (services : Services) {turns : List Turn} (hfaulty : ∀ turn ∈ turns, turn.Faulty) :
    let s := newWith settings (.new period) renderer services
    let faulted := s.play turns
    let silent := s.play (turns.map Turn.silenced)
    faulted.value = silent.value ∧
      faulted.effects.filter Effect.isAct = silent.effects.filter Effect.isAct ∧
      faulted.session = silent.session.faulting (cues turns silent.value) ∧
      (∀ ops, s.play (ops.map .free) = s.run ops) ∧
      ∀ before now delta ending,
        let t := (s.play before).session
        (t.poll now).value = some (.update delta) →
          t.sandbox.answer (Duration.seconds delta) t.input.snapshot.1 = Sandbox.outcome ending →
          Together Eq Effect.isAct (t.poll now) (t.pollCued now ending) := by
  intro s faulted silent
  have hstaffed : Staffed s := ⟨nofun, nofun⟩
  have htogether := play_faulting hstaffed 0 hfaulty
  refine ⟨htogether.value, htogether.acts, ?_, s.play_free, ?_⟩
  · have hsession := htogether.session
    rw [Nat.zero_add] at hsession
    exact hsession
  · intro before now delta ending t htick hown
    exact pollCued_own (hstaffed.play before) htick hown

/-- A game whose first updates are faults, one with a report of its end in it, and whose last
update ends it. -/
def faultyTurns : List Turn :=
  [.free .acquire, .free (.load endingCartridge), .free (.startAt 0),
    .cued 0 (.thrown (.error "TypeError" "not a function")), .cued 10000000 .endless,
    .cued 20000000 (.returned (.object [("gameOver", .bool true), ("error", .text "lost")])),
    .free (.poll 40000000)]

theorem faulty_faultyTurns : ∀ turn ∈ faultyTurns, turn.Faulty := by
  simp only [faultyTurns, List.forall_mem_cons]
  refine ⟨trivial, trivial, trivial, .thrown _, .endless, ?_, trivial, List.forall_mem_nil _⟩
  exact .reported rfl rfl

theorem play_silenced_ending :
    let s := newWith {} (.new standardPeriod) .blind .offline
    let silent := s.play (faultyTurns.map Turn.silenced)
    (∀ turn ∈ faultyTurns, turn.Faulty) ∧
      (s.play faultyTurns).value = silent.value ∧
      (s.play faultyTurns).effects.filter Effect.isAct = silent.effects.filter Effect.isAct ∧
      (s.play faultyTurns).session = silent.session.faulting (cues faultyTurns silent.value) ∧
      cues faultyTurns silent.value = 2 ∧
      silent.session.display.gameOver = true := by
  obtain ⟨hvalue, hacts, hsession, -⟩ :=
    play_silenced {} standardPeriod .blind .offline faulty_faultyTurns
  exact ⟨faulty_faultyTurns, hvalue, hacts, hsession, by decide +kernel, by decide +kernel⟩

end Handheld.Session
