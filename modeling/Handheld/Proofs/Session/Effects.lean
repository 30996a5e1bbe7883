import Handheld.Session.Play

/-!
# What others observe of an operation

Apart from the log, an operation is observed through calls of the leaderboard and of the source
of games, calls of the game, frames, and the hook. Only a poll submits a score, calls the game,
draws or runs the hook. All that another operation does besides writing to the log is to fetch the
leaderboard or to ask for a game.

* `Effect.isAct`, `Effect.isReport`, `Effect.isControl`, `Effect.submission?`: kinds of effects;
* `poll_acts`: a poll acts out the work that is due, in order, and reports nothing after it;
* `control_step`: what any other operation is observed as;
* `submissions_step`: it submits nothing;
* `effects_append`: a run has the effects of its parts.
-/

namespace Handheld

namespace Effect

/-- Whether an effect is more than a line of the log. -/
def isAct : Effect → Bool
  | .told _ _ => false
  | _ => true

/-- Whether an effect is a call of the leaderboard. -/
def isReport : Effect → Bool
  | .submitted _ => true
  | .fetched => true
  | _ => false

/-- Whether an effect can be one of an operation that is no poll. -/
def isControl : Effect → Bool
  | .told _ _ | .fetched | .generated _ _ => true
  | .ticked | .invoked _ _ | .submitted _ | .hooked _ | .rendered _ => false

/-- The score that an effect submits. -/
def submission? : Effect → Option Int
  | .submitted score => some score
  | _ => none

@[simp] theorem filter_isAct_tell (ns : List Notice) : (tell ns).filter isAct = [] := by
  rw [List.filter_eq_nil_iff]
  intro e he
  obtain ⟨n, _, rfl⟩ := List.mem_map.mp he
  exact Bool.false_ne_true

/-- Who looks for something other than lines of the log finds nothing among them. -/
theorem filterMap_told {β : Type} {f : Effect → Option β}
    (hf : ∀ n loading, f (.told n loading) = none) (loading : Option Nat) (ns : List Notice) :
    (ns.map fun n => told n loading).filterMap f = [] := by
  rw [List.filterMap_eq_nil_iff]
  intro e he
  obtain ⟨n, _, rfl⟩ := List.mem_map.mp he
  exact hf n loading

theorem isControl_of_mem_tell {ns : List Notice} {e : Effect} (h : e ∈ tell ns) :
    e.isControl = true := by
  obtain ⟨n, _, rfl⟩ := List.mem_map.mp h
  rfl

theorem isControl_of_mem_tellLoading {size : Nat} {ns : List Notice} {e : Effect}
    (h : e ∈ tellLoading size ns) : e.isControl = true := by
  obtain ⟨n, _, rfl⟩ := List.mem_map.mp h
  rfl

theorem isReport_of_mem_tell {ns : List Notice} {e : Effect} (h : e ∈ tell ns) :
    e.isReport = false := by
  obtain ⟨n, _, rfl⟩ := List.mem_map.mp h
  rfl

theorem submissions_of_not_isReport {es : List Effect} (h : ∀ e ∈ es, e.isReport = false) :
    es.filterMap submission? = [] := by
  rw [List.filterMap_eq_nil_iff]
  intro e he
  have hno := h e he
  cases e <;> first | rfl | exact absurd hno nofun

theorem submissions_of_isControl {es : List Effect} (h : ∀ e ∈ es, e.isControl = true) :
    es.filterMap submission? = [] := by
  rw [List.filterMap_eq_nil_iff]
  intro e he
  have hcontrol := h e he
  cases e <;> first | rfl | cases hcontrol

/-- Who looks for something other than lines of the log finds the same without them. -/
theorem filterMap_filter_isAct {β : Type} {f : Effect → Option β}
    (hf : ∀ n loading, f (.told n loading) = none) (es : List Effect) :
    (es.filter isAct).filterMap f = es.filterMap f := by
  induction es with
  | nil => rfl
  | cons e es ih =>
    cases e with
    | told n loading =>
      rw [List.filter_cons_of_neg Bool.false_ne_true, List.filterMap_cons, hf, ih]
    | _ => rw [List.filter_cons_of_pos rfl, List.filterMap_cons, List.filterMap_cons, ih]

theorem submissions_filter_isAct (es : List Effect) :
    (es.filter isAct).filterMap submission? = es.filterMap submission? :=
  filterMap_filter_isAct (fun _ _ => rfl) es

end Effect

namespace Session

/-! ### Polls -/

/-- What a piece of deferred work is observed as. -/
def actsOf (s : Session) : DeferredTask → List Effect
  | .submitScore score => [.submitted score]
  | .fetchLeaderboard => [.fetched]
  | .firstFrame => s.showFirstFrame.filter Effect.isAct

theorem runTask_acts (s : Session) (task : DeferredTask) :
    (s.runTask task).2.filter Effect.isAct = s.actsOf task := by
  cases task with
  | submitScore score =>
    unfold runTask submitScore
    cases s.services.submit <;>
      simp [actsOf, Effect.isAct, List.filter_cons]
  | fetchLeaderboard =>
    unfold runTask fetchLeaderboard
    cases s.services.fetch <;>
      simp [actsOf, Effect.isAct, List.filter_cons]
  | firstFrame => rfl

/-- A piece of work does not change what another is observed as. -/
theorem actsOf_runTask (s : Session) (task : DeferredTask) :
    (s.runTask task).1.actsOf = s.actsOf := by
  funext other
  cases other with
  | submitScore score => rfl
  | fetchLeaderboard => rfl
  | firstFrame =>
    cases task with
    | submitScore score =>
      unfold runTask submitScore
      cases s.services.submit <;> rfl
    | fetchLeaderboard =>
      unfold runTask fetchLeaderboard
      cases s.services.fetch <;> rfl
    | firstFrame => rfl

theorem runTasks_acts (s : Session) (tasks : List DeferredTask) :
    (s.runTasks tasks).2.filter Effect.isAct = tasks.flatMap s.actsOf := by
  induction tasks generalizing s with
  | nil => rfl
  | cons task tasks ih =>
    show ((s.runTask task).2 ++ ((s.runTask task).1.runTasks tasks).2).filter Effect.isAct = _
    rw [List.filter_append, runTask_acts, ih, actsOf_runTask, List.flatMap_cons]

theorem isReport_of_mem_render {s : Session} {e : Effect} (h : e ∈ s.render.2) :
    e.isReport = false := by
  rcases List.mem_append.mp h with h | h
  · exact Effect.isReport_of_mem_tell h
  · rw [List.mem_singleton.mp h]
    rfl

theorem isReport_of_mem_update {s : Session} {now : Int} {delta : Nat} {e : Effect}
    (h : e ∈ (s.update now delta).2) : e.isReport = false := by
  unfold update at h
  simp only at h
  split at h
  · rcases List.mem_append.mp h with h | h
    · rcases List.mem_cons.mp h with rfl | h
      · rfl
      · exact Effect.isReport_of_mem_tell h
    · exact Effect.isReport_of_mem_tell h
  · rcases List.mem_cons.mp h with rfl | h
    · rfl
    · exact Effect.isReport_of_mem_tell h

/-- A tick calls the game and renders, and leaves the leaderboard alone. -/
theorem isReport_of_mem_runTick {s : Session} {now : Int} {e : Effect}
    (h : e ∈ (s.runTick now).effects) : e.isReport = false := by
  unfold runTick at h
  split at h
  · exact absurd h List.not_mem_nil
  · rename_i tick begun _
    rcases List.mem_cons.mp h with rfl | h
    · rfl
    · rcases List.mem_append.mp h with h | h
      · cases tick with
        | renderOnly => exact isReport_of_mem_render h
        | update delta =>
          rcases List.mem_append.mp h with h | h
          · exact isReport_of_mem_update h
          · exact isReport_of_mem_render h
      · exact Effect.isReport_of_mem_tell h

/-- A poll acts out the work that is due, in the order of queueing, and nothing that comes after
it is a call of the leaderboard. -/
theorem poll_acts (s : Session) (now : Int) :
    ∃ later, (s.poll now).effects.filter Effect.isAct
        = (s.deferred.due now).flatMap s.actsOf ++ later ∧
      ∀ e ∈ later, e.isReport = false := by
  refine ⟨((s.runDeferred now).1.runTick now).effects.filter Effect.isAct, ?_, ?_⟩
  · show ((s.runDeferred now).2 ++ ((s.runDeferred now).1.runTick now).effects).filter
      Effect.isAct = _
    rw [List.filter_append]
    congr 1
    have hacts : { s with deferred := s.deferred.rest now }.actsOf = s.actsOf := by
      funext task
      cases task <;> rfl
    rw [← hacts]
    exact runTasks_acts { s with deferred := s.deferred.rest now } (s.deferred.due now)
  · intro e he
    exact isReport_of_mem_runTick (List.mem_filter.mp he).1

/-! ### Other operations -/

theorem control_load (s : Session) (c : Guest.Cartridge) :
    ∀ e ∈ (s.load c).effects, e.isControl = true := by
  intro e he
  unfold load at he
  split at he <;> exact Effect.isControl_of_mem_tellLoading he

theorem control_startAt (s : Session) (now : Int) :
    ∀ e ∈ (s.startAt now).effects, e.isControl = true := by
  intro e he
  unfold startAt at he
  split at he <;> exact Effect.isControl_of_mem_tell he

theorem control_pausedFor (s : Session) : ∀ e ∈ s.pausedFor.2, e.isControl = true := by
  intro e he
  unfold pausedFor at he
  split at he
  · exact Effect.isControl_of_mem_tell he
  · exact absurd he List.not_mem_nil

theorem control_closeLeaderboard (s : Session) :
    ∀ e ∈ s.closeLeaderboard.effects, e.isControl = true := by
  intro e he
  unfold closeLeaderboard at he
  split at he
  · exact Effect.isControl_of_mem_tell he
  · exact absurd he List.not_mem_nil

theorem control_openLeaderboard (s : Session) :
    ∀ e ∈ s.openLeaderboard.effects, e.isControl = true := by
  have hpaused := s.control_pausedFor
  unfold openLeaderboard
  generalize s.pausedFor = p at hpaused ⊢
  obtain ⟨t, told⟩ := p
  simp only at hpaused ⊢
  have hasked : ∀ e ∈ told ++ [Effect.fetched] ++ Effect.tell t.services.fetchNotices,
      e.isControl = true := by
    intro e he
    rcases List.mem_append.mp he with he | he
    · rcases List.mem_append.mp he with he | he
      · exact hpaused e he
      · rw [List.mem_singleton.mp he]
        rfl
    · exact Effect.isControl_of_mem_tell he
  split
  · exact hasked
  · intro e he
    rcases List.mem_append.mp he with he | he
    · rcases List.mem_append.mp he with he | he
      · exact hasked e he
      · exact Effect.isControl_of_mem_tell he
    · exact t.control_closeLeaderboard e he

theorem control_loadBundled (s : Session) (name : String) :
    ∀ e ∈ (s.loadBundled name).effects, e.isControl = true := by
  unfold loadBundled
  cases Guest.Bundled.ofName? name with
  | none => exact fun e he => absurd he List.not_mem_nil
  | some g => exact s.control_load g.cartridge

theorem control_create (s : Session) (description : String) :
    ∀ e ∈ (s.create description).effects, e.isControl = true := by
  have hasked : ∀ e ∈ Effect.tell [.generating description s.game.isSome]
      ++ [Effect.generated description s.cartridge?], e.isControl = true := by
    intro e he
    rcases List.mem_append.mp he with he | he
    · exact Effect.isControl_of_mem_tell he
    · rw [List.mem_singleton.mp he]
      rfl
  unfold create
  cases s.services.generate with
  | error cause => exact hasked
  | ok c =>
    intro e he
    rcases List.mem_append.mp he with he | he
    · exact hasked e he
    · exact s.control_load c e he

theorem control_restart (s : Session) (clock : Int) :
    ∀ e ∈ (s.restart clock).effects, e.isControl = true := by
  unfold restart
  cases s.cartridge? with
  | none => exact fun e he => absurd he List.not_mem_nil
  | some c =>
    simp only
    split
    · exact s.control_load c
    · intro e he
      rcases List.mem_append.mp he with he | he
      · exact s.control_load c e he
      · exact control_startAt _ clock e he

/-- An operation that is no poll writes to the log, fetches the leaderboard and asks for games, and
does nothing else that others observe. -/
theorem control_step (s : Session) {op : Operation} (h : ∀ now, op ≠ .poll now) :
    ∀ e ∈ (s.step op).effects, e.isControl = true := by
  cases op with
  | poll now => exact absurd rfl (h now)
  | load c => exact s.control_load c
  | loadBundled name => exact s.control_loadBundled name
  | create description => exact s.control_create description
  | restart clock => exact s.control_restart clock
  | startAt now => exact s.control_startAt now
  | openLeaderboard => exact s.control_openLeaderboard
  | closeLeaderboard => exact s.control_closeLeaderboard
  | acquire | stop | pause | unpause | reset | dispose =>
    exact fun e he => Effect.isControl_of_mem_tell he
  | press | release | keyDown | keyUp | setHook | arrange | withdraw =>
    exact fun e he => absurd he List.not_mem_nil

/-- An operation that is no poll submits nothing. -/
theorem submissions_step (s : Session) {op : Operation} (h : ∀ now, op ≠ .poll now) :
    (s.step op).effects.filterMap Effect.submission? = [] :=
  Effect.submissions_of_isControl (s.control_step h)

/-! ### Runs -/

/-- A run has the effects of its parts, one after the other. -/
theorem effects_append (s : Session) (xs ys : List Operation) :
    (s.run (xs ++ ys)).effects = (s.run xs).effects ++ ((s.run xs).session.run ys).effects := by
  induction xs generalizing s with
  | nil => rfl
  | cons x xs ih =>
    show (s.step x).effects ++ ((s.step x).session.run (xs ++ ys)).effects
      = ((s.step x).effects ++ ((s.step x).session.run xs).effects) ++ _
    rw [ih, List.append_assoc]
    rfl

end Session

end Handheld
