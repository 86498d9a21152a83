import GridRobot.Proofs.Grid.Symmetry
import GridRobot.Proofs.Simulator.Step
import Mathlib.Tactic.Lemma

/-! Boards and commands under the symmetries of the grid: what a command does, which boards are
valid, and so which commands of a run are carried out, does not depend on where the board lies and
which way it faces. -/
namespace GridRobot

namespace Symmetry

def robot (g : Symmetry) (r : Robot) : Robot := ⟨g.cell r.location, g.heading r.heading⟩

def board (g : Symmetry) (b : Board) : Board :=
  ⟨g.box b.bounds, b.robot.map g.robot, g.cells b.obstacles⟩

def command (g : Symmetry) : Command → Command
  | .place p h => .place (g.cell p) (g.heading h)
  | .rotate t => .rotate (g.turn t)
  | k => k

lemma ahead_robot (g : Symmetry) (r : Robot) : (g.robot r).ahead = g.cell r.ahead :=
  (g.cell_neighbour r.location r.heading).symm

/-- The image of a command does to the image of a board what the command does to the board. -/
theorem after_board (g : Symmetry) (b : Board) (k : Command) :
    (g.board b).after (g.command k) = g.board (b.after k) := by
  obtain ⟨bounds, robot, obstacles⟩ := b
  cases robot with
  | none => cases k <;> rfl
  | some r =>
    cases k with
    | place p h => rfl
    | move =>
      simp only [Board.after, Board.withRobot, board, command, Option.map_some, ahead_robot]
      rfl
    | rotate t =>
      simp only [Board.after, Board.withRobot, board, command, Option.map_some, robot,
        heading_turned]
    | report | map => rfl
    | placeObject =>
      simp only [Board.after, Board.withObstacle, board, command, Option.map_some, ahead_robot,
        cells_insert]

theorem valid_board_iff (g : Symmetry) (b : Board) : (g.board b).Valid ↔ b.Valid := by
  cases present : b.robot with
  | none => simp [Board.Valid, board, present]
  | some r => simp [Board.Valid, board, present, robot, box_contains_cell]

end Symmetry

namespace Board

/-- Whether a command is carried out, and the board after it. -/
def attempt (b : Board) (k : Command) : Bool × Board :=
  if (b.after k).Valid then (true, b.after k) else (false, b)

/-- Whether each command is carried out, and the board after all of them. -/
def attemptAll (b : Board) : List Command → List Bool × Board
  | [] => ([], b)
  | k :: ks =>
    let rest := (b.attempt k).2.attemptAll ks
    ((b.attempt k).1 :: rest.1, rest.2)

end Board

/-- The simulator carries out a command exactly if it succeeds as an attempt. -/
theorem Simulator.perform_eq_attempt (s : Simulator) (b : Board) (line : String) (k : Command) :
    s.perform b line k = (b.answer k s.glyphs).map fun output =>
      ⟨(b.attempt k).2, .ran k output (b.attempt k).1,
        if (b.attempt k).1 then none else some (.boardRejected k.kind line)⟩ := by
  cases answered : b.answer k s.glyphs with
  | error e => rw [perform_of_unanswered answered]; rfl
  | ok output =>
    rw [perform_of_answered answered, Board.attempt]
    by_cases valid : (b.after k).Valid
    · simp only [if_pos valid]; rfl
    · simp only [if_neg valid]; rfl

namespace Symmetry

theorem attempt_board (g : Symmetry) (b : Board) (k : Command) :
    (g.board b).attempt (g.command k) = ((b.attempt k).1, g.board (b.attempt k).2) := by
  simp only [Board.attempt, after_board, valid_board_iff]
  split <;> rfl

theorem attemptAll_board (g : Symmetry) (b : Board) (ks : List Command) :
    (g.board b).attemptAll (ks.map g.command) =
      ((b.attemptAll ks).1, g.board (b.attemptAll ks).2) := by
  induction ks generalizing b with
  | nil => rfl
  | cons k ks ih => simp only [List.map_cons, Board.attemptAll, attempt_board, ih]

/-- Every symmetry commutes with every command and keeps boards valid or invalid, so that a run of
attempts, which is how a simulator carries out commands, goes the same way on the image of a board. -/
theorem dynamics_symmetric (g : Symmetry) :
    (∀ b k, (g.board b).after (g.command k) = g.board (b.after k)) ∧
    (∀ b, (g.board b).Valid ↔ b.Valid) ∧
    (∀ b ks, (g.board b).attemptAll (ks.map g.command) =
      ((b.attemptAll ks).1, g.board (b.attemptAll ks).2)) ∧
    ∀ (s : Simulator) b line k, s.perform b line k = (b.answer k s.glyphs).map fun output =>
      ⟨(b.attempt k).2, .ran k output (b.attempt k).1,
        if (b.attempt k).1 then none else some (.boardRejected k.kind line)⟩ :=
  ⟨g.after_board, g.valid_board_iff, g.attemptAll_board, Simulator.perform_eq_attempt⟩

end Symmetry
end GridRobot
