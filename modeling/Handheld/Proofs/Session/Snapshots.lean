import Handheld.Proofs.Session.Faults
import Handheld.Proofs.Session.FreshStart
import Handheld.Proofs.Session.Ticks

/-!
# The input that a game sees

Buttons go down and up at any time. A game only sees one snapshot of them for each update tick: the
buttons that are held then, and those of them that were not held in the snapshot before. What was
held in between does not matter, and neither does what else was done: no load, no stop, no reset and
no fault takes a snapshot or forgets one.

* `Effect.call?`: the calls of the game among the effects of a run;
* `Holds`: the button was pressed, and not released since;
* `mem_fields_iff`, `fields_withheld`: what a cartridge sees of a snapshot;
* `CallStep`, `callStep`: which operations call the game, and what they do to the input;
* `Recalls`, `recalls_run`: what the input remembers of a run;
* `exists_poll_of_calls`: each call is one of a poll in the run;
* `Called`, `Seen`: what is handed over in a call;
* `snapshots_run`: what is handed over in each call of a run.
-/

namespace Handheld

/-! ### The fields of a snapshot -/

namespace InputSnapshot

/-- The names of the fields of the system buttons. -/
def systemFields : List String := ["start", "startPressed", "select", "selectPressed"]

theorem mem_exposed_iff (system : Bool) (x : Button) :
    x ∈ exposed system ↔ x = .start ∨ x = .select → system = true := by
  cases system <;> cases x <;> decide

/-- Of each exposed button a cartridge sees two fields, and it sees no others. -/
theorem mem_fields_iff (snap : InputSnapshot) (system : Bool) (f : String × Bool) :
    f ∈ snap.fields system ↔ ∃ x ∈ exposed system,
      f = (x.name, snap.isHeld x) ∨ f = (x.pressedName, snap.justPressed x) := by
  unfold fields
  rw [List.mem_append, List.mem_map, List.mem_map]
  constructor
  · rintro (⟨x, hx, rfl⟩ | ⟨x, hx, rfl⟩)
    · exact ⟨x, hx, Or.inl rfl⟩
    · exact ⟨x, hx, Or.inr rfl⟩
  · rintro ⟨x, hx, rfl | rfl⟩
    · exact Or.inl ⟨x, hx, rfl⟩
    · exact Or.inr ⟨x, hx, rfl⟩

theorem nodup_fields (snap : InputSnapshot) (system : Bool) :
    ((snap.fields system).map Prod.fst).Nodup := by
  have hnames : (snap.fields system).map Prod.fst
      = (exposed system).map Button.name ++ (exposed system).map Button.pressedName := by
    rw [fields, List.map_append, List.map_map, List.map_map]
    rfl
  rw [hnames]
  cases system <;> decide

/-- Withholding the system buttons takes their fields away, and leaves the others as they are. -/
theorem fields_withheld (snap : InputSnapshot) :
    snap.fields false = (snap.fields true).filter fun f => !systemFields.contains f.1 := by
  rfl

end InputSnapshot

/-! ### Calls of the game -/

/-- The call of the game that an effect is: the time and the input that it is called with. -/
def Effect.call? : Effect → Option (Nat × InputSnapshot)
  | .invoked delta input => some (delta, input)
  | _ => none

theorem Effect.calls_of_isControl {es : List Effect} (h : ∀ e ∈ es, e.isControl = true) :
    es.filterMap call? = [] := by
  rw [List.filterMap_eq_nil_iff]
  intro e he
  have hcontrol := h e he
  cases e <;> first | rfl | cases hcontrol

theorem Effect.calls_filter_isPlay (es : List Effect) :
    (es.filter isPlay).filterMap call? = es.filterMap call? := by
  rw [List.filterMap_filter]
  refine List.filterMap_congr fun e _ => ?_
  cases e <;> rfl

namespace Session

/-- The time that an update tick carried, if a poll answered with one. -/
def Outcome.update? : Outcome → Option Nat
  | .polled (some (.update delta)) => some delta
  | _ => none

/-- The button that an operation presses. -/
def Operation.pressed? : Operation → Option Button
  | .press x => some x
  | .keyDown code => Button.ofKey? code
  | _ => none

/-- The button that an operation releases. -/
def Operation.released? : Operation → Option Button
  | .release x => some x
  | .keyUp code => Button.ofKey? code
  | _ => none

/-- Whether a button was pressed and not released since. -/
def Holds (ops : List Operation) (x : Button) : Prop :=
  ∃ before op after, ops = before ++ op :: after ∧ op.pressed? = some x ∧
    ∀ e ∈ after, e.released? ≠ some x

theorem holds_concat (ops : List Operation) (op : Operation) (x : Button) :
    Holds (ops ++ [op]) x ↔ op.pressed? = some x ∨ Holds ops x ∧ op.released? ≠ some x := by
  constructor
  · rintro ⟨before, e, after, hops, hpressed, hsince⟩
    rcases List.eq_nil_or_concat after with rfl | ⟨after, last, rfl⟩
    · obtain ⟨-, hlast⟩ := List.append_inj' hops rfl
      rw [List.singleton_inj.mp hlast]
      exact Or.inl hpressed
    · rw [List.concat_eq_append, ← List.cons_append, ← List.append_assoc] at hops
      obtain ⟨hbefore, hlast⟩ := List.append_inj' hops rfl
      rw [List.singleton_inj.mp hlast]
      refine Or.inr ⟨⟨before, e, after, hbefore, hpressed, fun f hf => ?_⟩, ?_⟩
      · exact hsince f (by simp [hf])
      · exact hsince last (by simp)
  · rintro (hpressed | ⟨⟨before, e, after, rfl, hpressed, hsince⟩, hnot⟩)
    · exact ⟨ops, op, [], rfl, hpressed, fun f hf => absurd hf List.not_mem_nil⟩
    · refine ⟨before, e, after ++ [op], by rw [List.append_assoc]; rfl, hpressed, fun f hf => ?_⟩
      rcases List.mem_append.mp hf with hf | hf
      · exact hsince f hf
      · rw [List.mem_singleton.mp hf]
        exact hnot

variable {s : Session} {now : Int} {delta : Nat}

/-! ### Single operations -/

theorem calls_runDeferred (s : Session) (now : Int) :
    (s.runDeferred now).2.filterMap Effect.call? = [] := by
  rw [← Effect.calls_filter_isPlay, filter_isPlay_runDeferred]
  rfl

/-- A poll calls the game once if it runs an update, with a snapshot of the input of now, and does
not call it otherwise. -/
theorem calls_poll (s : Session) (now : Int) :
    (s.poll now).effects.filterMap Effect.call? =
      match (s.poll now).value with
      | some (.update delta) => [(delta, s.input.snapshot.1)]
      | _ => [] := by
  have hacts : ∀ es : List Effect, es.filterMap Effect.call?
      = (es.filter Effect.isAct).filterMap Effect.call? := fun es =>
    (Effect.filterMap_filter_isAct (fun _ _ => rfl) es).symm
  rcases htick : s.scheduler.beginTick now with ⟨_ | tick, begun⟩
  · obtain ⟨board, submission, hpoll⟩ := poll_of_none htick
    rw [hpoll]
    exact s.calls_runDeferred now
  · obtain ⟨board, submission, hpoll⟩ := poll_of_some htick
    rw [hpoll]
    simp only
    rw [List.filterMap_append, calls_runDeferred, List.nil_append, hacts, tick_acts]
    cases tick with
    | renderOnly =>
      show (Effect.ticked :: (render _).2.filter Effect.isAct).filterMap Effect.call? = []
      rw [render_acts]
      rfl
    | update delta =>
      show (Effect.ticked :: ((update _ now delta).2 ++ (render _).2).filter
        Effect.isAct).filterMap Effect.call? = _
      rw [List.filter_append, update_acts, render_acts]
      rfl

/-- What an operation does to the input, and whether it calls the game. -/
inductive CallStep (s : Session) (r : Reply Outcome) : Operation → Prop
  /-- The game is called with the buttons that are held, and they are remembered. -/
  | called (now : Int) (delta : Nat) (hvalue : r.value = .polled (some (.update delta)))
      (hcalls : r.effects.filterMap Effect.call? = [(delta, s.input.snapshot.1)])
      (hinput : r.session.input = s.input.snapshot.2) : CallStep s r (.poll now)
  /-- Buttons go down or up, and that is all. -/
  | aside {op : Operation} (hvalue : Outcome.update? r.value = none)
      (hcalls : r.effects.filterMap Effect.call? = [])
      (hheld : ∀ x, r.session.input.isHeld x = true ↔
        op.pressed? = some x ∨ s.input.isHeld x = true ∧ op.released? ≠ some x)
      (hprevious : r.session.input.previous = s.input.previous) : CallStep s r op

theorem CallStep.untouched {op : Operation} {r : Reply Outcome}
    (hvalue : Outcome.update? r.value = none) (hcalls : r.effects.filterMap Effect.call? = [])
    (hpressed : op.pressed? = none) (hreleased : op.released? = none)
    (hinput : r.session.input = s.input) : CallStep s r op := by
  refine .aside hvalue hcalls (fun x => ?_) (congrArg InputState.previous hinput)
  rw [hinput, hpressed, hreleased]
  simp

theorem CallStep.down {op : Operation} {r : Reply Outcome} {x : Button}
    (hvalue : Outcome.update? r.value = none) (hcalls : r.effects.filterMap Effect.call? = [])
    (hpressed : op.pressed? = some x) (hreleased : op.released? = none)
    (hinput : r.session.input = s.input.press x) : CallStep s r op := by
  have hprevious : r.session.input.previous = s.input.previous := by
    rw [hinput]
    rfl
  refine .aside hvalue hcalls (fun y => ?_) hprevious
  rw [hinput, hpressed, hreleased, InputState.isHeld_press, Bool.or_eq_true, decide_eq_true_iff,
    or_comm]
  simp

theorem CallStep.up {op : Operation} {r : Reply Outcome} {x : Button}
    (hvalue : Outcome.update? r.value = none) (hcalls : r.effects.filterMap Effect.call? = [])
    (hpressed : op.pressed? = none) (hreleased : op.released? = some x)
    (hinput : r.session.input = s.input.release x) : CallStep s r op := by
  have hprevious : r.session.input.previous = s.input.previous := by
    rw [hinput]
    rfl
  refine .aside hvalue hcalls (fun y => ?_) hprevious
  rw [hinput, hpressed, hreleased, InputState.isHeld_release, Bool.and_eq_true,
    decide_eq_true_iff]
  simp

theorem callStep_poll (s : Session) (now : Int) : CallStep s (s.step (.poll now)) (.poll now) := by
  have hinput := s.input_poll now
  have hcalls := s.calls_poll now
  cases htick : (s.poll now).value with
  | none =>
    rw [htick] at hinput hcalls
    exact .untouched (congrArg (fun tick => Outcome.update? (.polled tick)) htick) hcalls rfl rfl
      hinput
  | some tick =>
    rw [htick] at hinput hcalls
    cases tick with
    | update delta => exact .called now delta (congrArg Outcome.polled htick) hcalls hinput
    | renderOnly =>
      exact .untouched (congrArg (fun tick => Outcome.update? (.polled tick)) htick) hcalls rfl
        rfl hinput

theorem input_load (s : Session) (c : Guest.Cartridge) :
    (s.load c).session.input = s.input := by
  have hends := s.loadLeaves_load c
  generalize s.loadEvent c = e at hends
  generalize (s.load c).session = t at hends
  cases hends <;> rfl

theorem input_startAt (s : Session) (now : Int) : (s.startAt now).session.input = s.input := by
  unfold startAt
  split <;> rfl

theorem input_closeLeaderboard (s : Session) : s.closeLeaderboard.session.input = s.input := by
  unfold closeLeaderboard
  split <;> rfl

theorem input_openLeaderboard (s : Session) : s.openLeaderboard.session.input = s.input := by
  have hpaused : s.pausedFor.1.input = s.input := by
    unfold pausedFor
    split <;> rfl
  unfold openLeaderboard
  generalize s.pausedFor = p at hpaused ⊢
  obtain ⟨t, told⟩ := p
  simp only at hpaused ⊢
  split
  · exact hpaused
  · exact t.input_closeLeaderboard.trans hpaused

theorem input_loadBundled (s : Session) (name : String) :
    (s.loadBundled name).session.input = s.input := by
  unfold loadBundled
  cases Guest.Bundled.ofName? name with
  | none => rfl
  | some g => exact s.input_load g.cartridge

theorem input_create (s : Session) (description : String) :
    (s.create description).session.input = s.input := by
  unfold create
  cases s.services.generate with
  | error cause => rfl
  | ok c => exact s.input_load c

theorem input_restart (s : Session) (clock : Int) :
    (s.restart clock).session.input = s.input := by
  unfold restart
  cases s.cartridge? with
  | none => rfl
  | some c =>
    simp only
    split
    · exact s.input_load c
    · exact ((s.load c).session.input_startAt clock).trans (s.input_load c)

theorem callStep (s : Session) (op : Operation) : CallStep s (s.step op) op := by
  have hcalls : (∀ now, op ≠ .poll now) → (s.step op).effects.filterMap Effect.call? = [] :=
    fun h => Effect.calls_of_isControl (s.control_step h)
  cases op with
  | poll now => exact s.callStep_poll now
  | press x => exact .down rfl (hcalls nofun) rfl rfl rfl
  | release x => exact .up rfl (hcalls nofun) rfl rfl rfl
  | keyDown code =>
    cases hkey : Button.ofKey? code with
    | none =>
      have hinput : (s.keyDown code).2.input = s.input := by rw [keyDown, hkey]
      exact .untouched rfl (hcalls nofun) hkey rfl hinput
    | some x =>
      have hinput : (s.keyDown code).2.input = s.input.press x := by
        rw [keyDown, hkey]
        rfl
      exact .down rfl (hcalls nofun) hkey rfl hinput
  | keyUp code =>
    cases hkey : Button.ofKey? code with
    | none =>
      have hinput : (s.keyUp code).2.input = s.input := by rw [keyUp, hkey]
      exact .untouched rfl (hcalls nofun) rfl hkey hinput
    | some x =>
      have hinput : (s.keyUp code).2.input = s.input.release x := by
        rw [keyUp, hkey]
        rfl
      exact .up rfl (hcalls nofun) rfl hkey hinput
  | load c => exact .untouched rfl (hcalls nofun) rfl rfl (s.input_load c)
  | loadBundled name => exact .untouched rfl (hcalls nofun) rfl rfl (s.input_loadBundled name)
  | create description => exact .untouched rfl (hcalls nofun) rfl rfl (s.input_create description)
  | restart clock => exact .untouched rfl (hcalls nofun) rfl rfl (s.input_restart clock)
  | startAt now => exact .untouched rfl (hcalls nofun) rfl rfl (s.input_startAt now)
  | openLeaderboard => exact .untouched rfl (hcalls nofun) rfl rfl s.input_openLeaderboard
  | closeLeaderboard => exact .untouched rfl (hcalls nofun) rfl rfl s.input_closeLeaderboard
  | acquire | stop | pause | unpause | reset | setHook | dispose | arrange | withdraw =>
    exact .untouched rfl (hcalls nofun) rfl rfl rfl

/-! ### Runs -/

/-- What the input of a session remembers of the operations and of the calls that led to it: the
buttons that are held, and those of the last call. -/
structure Recalls (ops : List Operation) (calls : List (Nat × InputSnapshot)) (s : Session) :
    Prop where
  held : ∀ x, s.input.isHeld x = true ↔ Holds ops x
  previous : ∀ x, s.input.previous.contains x = true ↔
    ∃ call ∈ calls.getLast?, call.2.isHeld x = true

variable {ops : List Operation} {calls : List (Nat × InputSnapshot)}

theorem recalls_step (h : Recalls ops calls s) (op : Operation) :
    Recalls (ops ++ [op]) (calls ++ (s.step op).effects.filterMap Effect.call?)
      (s.step op).session := by
  cases s.callStep op with
  | called now delta _ hcalls hinput =>
    rw [hcalls]
    constructor
    case held =>
      intro x
      have hnothing : Holds (ops ++ [.poll now]) x ↔ Holds ops x := by
        rw [holds_concat]
        exact ⟨fun h => h.elim nofun And.left, fun h => Or.inr ⟨h, nofun⟩⟩
      rw [hinput, hnothing]
      exact h.held x
    case previous =>
      intro x
      rw [hinput, List.getLast?_concat]
      constructor
      · intro hx
        exact ⟨_, rfl, hx⟩
      · rintro ⟨last, hlast, hx⟩
        obtain rfl := Option.some.inj hlast
        exact hx
  | aside _ hcalls hheld hprevious =>
    rw [hcalls, List.append_nil]
    constructor
    case held =>
      intro x
      rw [hheld, h.held, holds_concat]
    case previous =>
      rw [hprevious]
      exact h.previous

theorem recalls_run (h : Recalls ops calls s) (more : List Operation) :
    Recalls (ops ++ more) (calls ++ (s.run more).effects.filterMap Effect.call?)
      (s.run more).session := by
  induction more generalizing s ops calls with
  | nil =>
    rw [List.append_nil]
    show Recalls ops (calls ++ []) s
    rw [List.append_nil]
    exact h
  | cons op more ih =>
    have hlater := ih (recalls_step h op)
    rw [List.append_assoc, List.append_assoc, ← List.filterMap_append] at hlater
    exact hlater

/-- At the beginning no button is held, and nothing was called. -/
theorem recalls_newWith (settings : Settings) (scheduler : Scheduler) (renderer : Renderer)
    (services : Services) : Recalls [] [] (newWith settings scheduler renderer services) where
  held x := by
    have hnone : ¬ Holds [] x := by
      rintro ⟨before, op, after, hops, -⟩
      exact absurd hops.symm (by simp)
    exact iff_of_false (by simp [newWith, new, InputState.isHeld]) hnone
  previous x := iff_of_false (by simp [newWith, new]) nofun

theorem calls_cons (s : Session) (op : Operation) (ops : List Operation) :
    (s.run (op :: ops)).effects.filterMap Effect.call? =
      (s.step op).effects.filterMap Effect.call?
        ++ ((s.step op).session.run ops).effects.filterMap Effect.call? :=
  List.filterMap_append

theorem calls_append (s : Session) (xs ys : List Operation) :
    (s.run (xs ++ ys)).effects.filterMap Effect.call? =
      (s.run xs).effects.filterMap Effect.call?
        ++ ((s.run xs).session.run ys).effects.filterMap Effect.call? := by
  rw [effects_append, List.filterMap_append]

/-- The game is called once for each update tick, with the time that the tick carries. -/
theorem deltas_run (s : Session) (ops : List Operation) :
    ((s.run ops).effects.filterMap Effect.call?).map Prod.fst =
      (s.run ops).value.filterMap Outcome.update? := by
  induction ops generalizing s with
  | nil => rfl
  | cons op ops ih =>
    have hvalue : (s.run (op :: ops)).value
        = (s.step op).value :: ((s.step op).session.run ops).value := rfl
    rw [calls_cons, List.map_append, ih, hvalue]
    cases s.callStep op with
    | called now delta hanswer hcalls _ =>
      rw [hcalls, hanswer]
      rfl
    | aside hanswer hcalls _ _ =>
      rw [hcalls, List.filterMap_cons, hanswer]
      rfl

/-- Each call is one of a poll in the run. -/
theorem exists_poll_of_calls {call : Nat × InputSnapshot} {earlier later}
    (h : (s.run ops).effects.filterMap Effect.call? = earlier ++ call :: later) :
    ∃ before now after, ops = before ++ .poll now :: after ∧
      (s.run before).effects.filterMap Effect.call? = earlier ∧
      ((s.run before).session.poll now).value = some (.update call.1) ∧
      call.2 = (s.run before).session.input.snapshot.1 := by
  induction ops generalizing s earlier with
  | nil => exact absurd h (by simp [run, quiet])
  | cons op ops ih =>
    -- a call of the rest of the run, behind what the operation itself called
    have hlater : ∀ {rest}, ((s.step op).session.run ops).effects.filterMap Effect.call?
          = rest ++ call :: later →
        (s.step op).effects.filterMap Effect.call? ++ rest = earlier →
        ∃ before now after, op :: ops = before ++ .poll now :: after ∧
          (s.run before).effects.filterMap Effect.call? = earlier ∧
          ((s.run before).session.poll now).value = some (.update call.1) ∧
          call.2 = (s.run before).session.input.snapshot.1 := by
      intro rest hrest hearlier
      obtain ⟨before, now, after, rfl, hcalls, hvalue, hseen⟩ := ih hrest
      refine ⟨op :: before, now, after, rfl, ?_, hvalue, hseen⟩
      rw [calls_cons, hcalls, hearlier]
    rw [calls_cons] at h
    cases s.callStep op with
    | called now delta hvalue hcalls _ =>
      rw [hcalls] at h hlater
      cases earlier with
      | nil =>
        obtain ⟨rfl, -⟩ := List.cons.inj h
        exact ⟨[], now, ops, rfl, rfl, Outcome.polled.inj hvalue, rfl⟩
      | cons first rest =>
        obtain ⟨rfl, hrest⟩ := List.cons.inj h
        exact hlater hrest rfl
    | aside _ hcalls _ _ =>
      rw [hcalls] at h hlater
      exact hlater h rfl

/-! ### What is handed over -/

theorem updateTick?_eq (s : Session) (now : Int) :
    s.updateTick? now =
      match (s.poll now).value with
      | some (.update delta) =>
        some ⟨s.sandbox.answer (Duration.seconds delta) s.input.snapshot.1,
          (s.poll now).session.display.score⟩
      | _ => none := by
  rw [updateTick?, value_poll]
  rcases (s.scheduler.beginTick now).1 with _ | (delta | _) <;> rfl

/-- The display after an update tick is what the game's answer makes of it. -/
theorem display_poll (h : (s.poll now).value = some (.update delta)) :
    (s.poll now).session.display
      = s.display.after (s.sandbox.answer (Duration.seconds delta) s.input.snapshot.1) := by
  have hleaves := s.pollLeaves_poll now
  rw [updateTick?_eq, h] at hleaves
  generalize hscore : (s.poll now).session.display.score = score at hleaves
  generalize (s.poll now).session = t at hleaves ⊢
  cases hleaves with
  | updated => rfl

/-- Between two sessions the game is called once, with a time and with the fields of an input, and
what it answers is put on the display. -/
structure Called (s t : Session) (delta : Nat) (fields : List (String × Bool)) (realm : Realm) :
    Prop where
  before : s.sandbox.realm = some realm
  after : t.sandbox.realm =
    some { realm with process := (realm.process.call (Duration.seconds delta) fields).2 }
  display : t.display = s.display.after
    (Sandbox.outcome (realm.process.call (Duration.seconds delta) fields).1.completion)

theorem called_poll (hstaffed : Staffed s) (h : (s.poll now).value = some (.update delta)) :
    ∃ realm, Called s (s.poll now).session delta
      (s.input.snapshot.1.fields s.sandbox.limits.systemButtons) realm := by
  have hplayable := hstaffed.isPlayable_of_update ((s.value_poll now).symm.trans h)
  obtain ⟨hready, hloaded⟩ := (Bool.and_eq_true _ _).mp hplayable
  obtain ⟨realm, hrealm⟩ := Option.isSome_iff_exists.mp hloaded
  refine ⟨realm, hrealm, ?_, ?_⟩
  · rw [sandbox_poll, h]
    show (s.sandbox.invoke _ _).2.1.realm = _
    rw [Sandbox.invoke_snd]
    show s.sandbox.realmAfter _ _ = _
    rw [Sandbox.realmAfter, hready, hrealm]
  · rw [display_poll h, Sandbox.answer, hready, hrealm]

/-- What the game is handed in a call: the run before the call, the calls before it, and how it is
called by the poll that comes next. -/
structure Seen (limits : Limits) (s : Session) (before : List Operation) (now : Int)
    (earlier : List (Nat × InputSnapshot)) (call : Nat × InputSnapshot) : Prop where
  sofar : (s.run before).effects.filterMap Effect.call? = earlier
  tick : ((s.run before).session.poll now).value = some (.update call.1)
  held : ∀ x, call.2.isHeld x = true ↔ Holds before x
  /-- For the first call nothing was held before. -/
  pressed : ∀ x, call.2.justPressed x = true ↔
    Holds before x ∧ ∀ last ∈ earlier.getLast?, last.2.isHeld x = false
  called : ∃ realm, Called (s.run before).session ((s.run before).session.poll now).session call.1
    (call.2.fields limits.systemButtons) realm

theorem Recalls.justPressed (h : Recalls ops calls s) (x : Button) :
    s.input.snapshot.1.justPressed x = true ↔
      Holds ops x ∧ ∀ last ∈ calls.getLast?, last.2.isHeld x = false := by
  have hprevious : (!s.input.previous.contains x) = true ↔
      ∀ last ∈ calls.getLast?, last.2.isHeld x = false := by
    rw [Bool.not_eq_true', ← Bool.not_eq_true, h.previous]
    simp
  show (s.input.snapshot.1.pressed.contains x) = true ↔ _
  rw [InputState.snapshot_pressed, Bool.and_eq_true, h.held, hprevious]

theorem seen_poll (settings : Settings) (period : Nat) (renderer : Renderer) (services : Services)
    (before : List Operation) {now : Int} {delta : Nat} :
    let s := newWith settings (.new period) renderer services
    let t := (s.run before).session
    (t.poll now).value = some (.update delta) →
      Seen settings.limits s before now ((s.run before).effects.filterMap Effect.call?)
        (delta, t.input.snapshot.1) := by
  intro s t htick
  have hnew : Staffed s := ⟨nofun, nofun⟩
  have hrecalls : Recalls before ((s.run before).effects.filterMap Effect.call?) t :=
    recalls_run (recalls_newWith settings (.new period) renderer services) before
  have hlimits := (steady_run settings period renderer services before).limits
  refine ⟨rfl, htick, hrecalls.held, hrecalls.justPressed, ?_⟩
  rw [← hlimits]
  exact called_poll (rule_staffed.run hnew before) htick

/-- In each update tick of a run the game is called once. It is handed the buttons that are held,
those of them that it was not handed as held in the call before as just pressed, and both as the
fields of the exposed buttons. Withholding the system buttons takes away their fields. -/
theorem snapshots_run (settings : Settings) (period : Nat) (renderer : Renderer)
    (services : Services) (ops : List Operation) :
    let s := newWith settings (.new period) renderer services
    let calls := (s.run ops).effects.filterMap Effect.call?
    calls.map Prod.fst = (s.run ops).value.filterMap Outcome.update? ∧
      (∀ earlier call later, calls = earlier ++ call :: later →
        ∃ before now after, ops = before ++ .poll now :: after ∧
          Seen settings.limits s before now earlier call) ∧
      ∀ snap : InputSnapshot,
        (∀ system f, f ∈ snap.fields system ↔
          ∃ x : Button, (x = .start ∨ x = .select → system = true) ∧
            (f = (x.name, snap.isHeld x) ∨ f = (x.pressedName, snap.justPressed x))) ∧
        (∀ system, ((snap.fields system).map Prod.fst).Nodup) ∧
        snap.fields false
          = (snap.fields true).filter fun f => !InputSnapshot.systemFields.contains f.1 := by
  intro s calls
  refine ⟨s.deltas_run ops, ?_, fun snap => ⟨fun system f => ?_, snap.nodup_fields,
    snap.fields_withheld⟩⟩
  · rintro earlier ⟨delta, snapshot⟩ later hcalls
    obtain ⟨before, now, after, hops, rfl, htick, rfl⟩ := exists_poll_of_calls hcalls
    exact ⟨before, now, after, hops, seen_poll settings period renderer services before htick⟩
  · rw [snap.mem_fields_iff]
    simp only [InputSnapshot.mem_exposed_iff]

/-- A key that goes up again before the next tick, a key and a button that stay down, and an end of
the game between the two ticks. -/
def endingPresses : List Operation :=
  [.acquire, .load endingCartridge, .startAt 0, .keyDown "KeyZ", .keyUp "KeyZ",
    .keyDown "ArrowUp", .poll 0, .press .start, .startAt 5, .poll 20000000]

/-- The first key is never seen, and the second is seen as just pressed only once. A game from which
the system buttons are withheld does not see that `start` is held. -/
theorem snapshots_run_ending :
    let limits : Limits := { systemButtons := false }
    let s := newWith { limits := limits } (.new standardPeriod) .blind .offline
    let first : Nat × InputSnapshot := (0, ⟨.insert .empty .up, .insert .empty .up⟩)
    let second : Nat × InputSnapshot :=
      (20000000, ⟨.insert (.insert .empty .up) .start, .insert .empty .start⟩)
    (s.run endingPresses).effects.filterMap Effect.call? = [first, second] ∧
      (∃ before now after, endingPresses = before ++ .poll now :: after ∧
        Seen limits s before now [first] second) ∧
      ("start", true) ∈ second.2.fields true ∧ ("start", true) ∉ second.2.fields false := by
  intro limits s first second
  have hcalls : (s.run endingPresses).effects.filterMap Effect.call? = [first, second] := by
    decide +kernel
  obtain ⟨-, hseen, hfields⟩ :=
    snapshots_run { limits := limits } standardPeriod .blind .offline endingPresses
  obtain ⟨hmem, -, hwithheld⟩ := hfields second.2
  refine ⟨hcalls, hseen [first] second [] hcalls, ?_, ?_⟩
  · exact (hmem true _).mpr ⟨.start, fun _ => rfl, Or.inl (by decide)⟩
  · rw [hwithheld, List.mem_filter]
    exact fun h => absurd h.2 (by decide)

end Session

end Handheld
