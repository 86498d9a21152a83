import GridRobot.Board.Update
import Mathlib.Tactic.Lemma

/-! What each command does to a board, with a robot on it and without one, and when the board after it
is valid. -/
namespace GridRobot.Board

variable {b : Board} {r : Robot} {p : Cell}

@[simp] lemma after_place (b : Board) (p : Cell) (h : Heading) :
    b.after (.place p h) = b.withRobot (some ⟨p, h⟩) := rfl

@[simp] lemma after_report (b : Board) : b.after .report = b := by
  cases present : b.robot <;> simp only [after, present]

@[simp] lemma after_map (b : Board) : b.after .map = b := by
  cases present : b.robot <;> simp only [after, present]

lemma after_move (present : b.robot = some r) :
    b.after .move = b.withRobot (some ⟨r.ahead, r.heading⟩) := by
  simp only [after, present]

lemma after_rotate (present : b.robot = some r) (t : Turn) :
    b.after (.rotate t) = b.withRobot (some ⟨r.location, r.heading.turned t⟩) := by
  simp only [after, present]

lemma after_placeObject (present : b.robot = some r) :
    b.after .placeObject = b.withObstacle r.ahead := by
  simp only [after, present]

/-- Without a robot every command but a placement leaves the board as it is. -/
lemma after_of_absent (absent : b.robot = none) {k : Command} (other : ∀ p h, k ≠ .place p h) :
    b.after k = b := by
  cases k with
  | place p h => exact absurd rfl (other p h)
  | move | rotate | report | placeObject | map => simp only [after, absent]

/-- Only an object that a robot puts down makes a difference to anything but the robot. -/
lemma withRobot_after {k : Command} (other : k = .placeObject → b.robot = none) (o : Option Robot) :
    (b.after k).withRobot o = b.withRobot o := by
  cases present : b.robot with
  | none =>
    cases k with
    | place p h => rfl
    | move | rotate | report | placeObject | map => rw [after_of_absent present (by simp)]
  | some r =>
    cases k with
    | place p h => rfl
    | move =>
      rw [after_move present]
      rfl
    | rotate t =>
      rw [after_rotate present]
      rfl
    | report => rw [after_report]
    | map => rw [after_map]
    | placeObject =>
      rw [other rfl] at present
      cases present

lemma withRobot_self (present : b.robot = some r) : b.withRobot (some r) = b := by
  rw [withRobot, ← present]

/-- A robot may stand on the cell. -/
def IsFree (b : Board) (p : Cell) : Prop := b.bounds.Contains p ∧ p ∉ b.obstacles

instance (b : Board) (p : Cell) : Decidable (b.IsFree p) := by unfold IsFree; infer_instance

lemma valid_of_absent (absent : b.robot = none) : b.Valid := by
  simp [Valid, absent]

lemma valid_iff_isFree (present : b.robot = some r) : b.Valid ↔ b.IsFree r.location := by
  simp [Valid, IsFree, present]

@[simp] lemma valid_withRobot_iff : (b.withRobot (some r)).Valid ↔ b.IsFree r.location :=
  valid_iff_isFree rfl

lemma ahead_ne (r : Robot) : r.ahead ≠ r.location := by
  intro same
  obtain ⟨⟨x, y⟩, h⟩ := r
  cases h <;> simp only [Robot.ahead, Cell.neighbour, Heading.dx, Heading.dy,
    Cell.mk.injEq] at same <;> omega

/-- An object is never put where the robot stands. -/
lemma valid_withObstacle_ahead (valid : b.Valid) (present : b.robot = some r) :
    (b.withObstacle r.ahead).Valid := by
  obtain ⟨inside, free⟩ := (valid_iff_isFree present).mp valid
  rw [valid_iff_isFree (b := b.withObstacle r.ahead) present]
  refine ⟨inside, fun blocked => ?_⟩
  rcases CellSet.mem_insert.mp blocked with same | old
  · exact ahead_ne r same.symm
  · exact free old

end GridRobot.Board
