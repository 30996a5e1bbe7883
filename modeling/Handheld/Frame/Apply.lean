import Handheld.Frame.Command

/-!
# Applying frames

Applying a frame is the only way in which a game changes the display. Commands run in order;
what lies outside the display is dropped by the display itself. The game's end is raised once:
a frame that reports it again changes nothing.

## Main statements

* `gameOver_apply`, `raises_iff`: a frame marks the game's end exactly if it has the command to,
  and raises it exactly if it was not marked before.
* `raises_eq`: command by command or as a whole, the same frames raise the game's end.
* `paused_apply`, `grid_apply`: the pause mark and the grid are no business of a frame.
-/

namespace Handheld

def greatestIndex : Int := 4294967295

/-- The sprite or tile of a number, if there can be one. -/
def indexOf? (n : Int) : Option Nat :=
  if 0 ≤ n ∧ n ≤ greatestIndex then some n.toNat else none

def Command.run (d : Display) : Command → Display
  | .placeSprite slot sprite x y =>
    d.putSlot slot ((indexOf? sprite).map fun n => ⟨n, x, y⟩)
  | .clearSprite slot => d.clearSprite slot
  | .placeTile x y tile => d.putCell x y (indexOf? tile)
  | .clearTile x y => d.clearTile x y
  | .setBackground index => { d with background := index }
  | .setScore score => { d with score := score }
  | .gameOver => d.setGameOver true

/-- Whether a command is the first to report the game's end. -/
def Command.raises (d : Display) : Command → Bool
  | .gameOver => !d.gameOver
  | _ => false

/-- Whether one of some commands is the first to report the game's end, each of them run on the
display that those before it left. -/
def Command.raisesAmong (d : Display) : List Command → Bool
  | [] => false
  | c :: cs => c.raises d || raisesAmong (c.run d) cs

namespace Frame

/-- The display before the commands of a frame run. -/
def prepare (f : Frame) (d : Display) : Display :=
  if f.clearSprites then d.clearSprites else d

/-- The display after a frame. -/
def apply (f : Frame) (d : Display) : Display :=
  f.commands.foldl Command.run (f.prepare d)

/-- Whether a frame is the first to report the game's end. -/
def raises (f : Frame) (d : Display) : Bool :=
  Command.raisesAmong (f.prepare d) f.commands

/-- Whether a frame reports the game's end once more. -/
def repeatsGameOver (f : Frame) (d : Display) : Bool :=
  d.gameOver && f.commands.any fun c => match c with
    | .gameOver => true
    | _ => false

@[simp] theorem grid_run (d : Display) (c : Command) : (c.run d).grid = d.grid := by
  cases c <;> simp [Command.run, Display.clearSprite, Display.clearTile, Display.setGameOver]

@[simp] theorem paused_run (d : Display) (c : Command) : (c.run d).paused = d.paused := by
  cases c <;>
    simp only [Command.run, Display.clearSprite, Display.clearTile, Display.setGameOver,
      Display.putSlot, Display.putCell] <;> split <;> rfl

/-- A frame does not change the grid. -/
@[simp] theorem grid_apply (f : Frame) (d : Display) : (f.apply d).grid = d.grid := by
  unfold apply prepare
  have : ∀ (cs : List Command) (e : Display), (cs.foldl Command.run e).grid = e.grid := by
    intro cs
    induction cs with
    | nil => intro e; rfl
    | cons c cs ih => intro e; simp [ih]
  rw [this]
  split <;> rfl

/-- A command that does not end the game leaves the mark as it is. -/
theorem gameOver_run (d : Display) (c : Command) (h : c ≠ .gameOver) :
    (c.run d).gameOver = d.gameOver := by
  cases c <;>
    simp_all only [Command.run, Display.clearSprite, Display.clearTile, Display.putSlot,
      Display.putCell, ne_eq, not_true_eq_false, reduceCtorEq, not_false_eq_true] <;>
    split <;> rfl

/-- The game's end stays marked, and is marked by the command to. -/
theorem gameOver_foldl_run (cs : List Command) (d : Display) :
    (cs.foldl Command.run d).gameOver = true ↔ d.gameOver = true ∨ .gameOver ∈ cs := by
  induction cs generalizing d with
  | nil => simp
  | cons c cs ih =>
    rw [List.foldl_cons, ih]
    by_cases h : c = .gameOver
    · subst h
      simp [Command.run, Display.setGameOver]
    · simp [gameOver_run d c h, Ne.symm h]

/-- After a frame the game's end is marked if it was before or if the frame has the command. -/
theorem gameOver_apply (f : Frame) (d : Display) :
    (f.apply d).gameOver = true ↔ d.gameOver = true ∨ .gameOver ∈ f.commands := by
  unfold apply
  rw [gameOver_foldl_run]
  unfold prepare
  split <;> rfl

/-- Running commands raises the game's end exactly if they mark what was not marked. -/
theorem raisesAmong_eq (cs : List Command) (d : Display) :
    Command.raisesAmong d cs = (!d.gameOver && (cs.foldl Command.run d).gameOver) := by
  induction cs generalizing d with
  | nil => simp [Command.raisesAmong]
  | cons c cs ih =>
    rw [Command.raisesAmong, ih, List.foldl_cons]
    by_cases h : c = .gameOver
    · subst h
      -- the command marks the end, and the commands after it do not take the mark away
      have hover : (Command.run d .gameOver).gameOver = true := rfl
      have hstays := (gameOver_foldl_run cs (Command.run d .gameOver)).mpr (Or.inl hover)
      rw [hstays, hover]
      simp [Command.raises]
    · have hquiet : c.raises d = false := by
        cases c <;> first | rfl | exact absurd rfl h
      rw [hquiet, gameOver_run d c h, Bool.false_or]

/-- A frame raises the game's end exactly if it leaves it marked and it was not marked before. -/
theorem raises_eq (f : Frame) (d : Display) :
    f.raises d = (!d.gameOver && (f.apply d).gameOver) := by
  have hprepare : (f.prepare d).gameOver = d.gameOver := by
    unfold prepare
    split <;> rfl
  rw [raises, raisesAmong_eq, hprepare]
  rfl

/-- A frame raises the game's end exactly if it has the command and nothing was marked before. -/
theorem raises_iff (f : Frame) (d : Display) :
    f.raises d = true ↔ d.gameOver = false ∧ .gameOver ∈ f.commands := by
  rw [raises_eq]
  cases h : d.gameOver
  · simpa [h] using gameOver_apply f d
  · simp

/-- A frame does not change the pause mark. -/
@[simp] theorem paused_apply (f : Frame) (d : Display) : (f.apply d).paused = d.paused := by
  unfold apply prepare
  have : ∀ (cs : List Command) (e : Display), (cs.foldl Command.run e).paused = e.paused := by
    intro cs
    induction cs with
    | nil => intro e; rfl
    | cons c cs ih => intro e; simp [ih]
  rw [this]
  split <;> rfl

end Frame

end Handheld
