import GridRobot.Grid.Box
import GridRobot.Grid.CellSet

/-! The robot's pose and the board it stands on. -/
namespace GridRobot

structure Robot where
  location : Cell
  heading : Heading
  deriving DecidableEq, Repr

/-- The cell directly in front. -/
def Robot.ahead (r : Robot) : Cell := r.location.neighbour r.heading

/-- Bounds, a robot once one has been placed, and the cells it may not occupy. -/
@[ext] structure Board where
  bounds : Box
  robot : Option Robot
  obstacles : CellSet
  deriving DecidableEq, Repr

namespace Board

def emptyWithin (bounds : Box) : Board := ⟨bounds, none, .empty⟩

/-- An empty board from the origin to a corner in any quadrant. -/
def emptyTo (corner : Cell) : Board := emptyWithin (.between .origin corner)

/-- An empty board of so many columns and rows, anchored at the origin. -/
def emptyOfSize (width height : Int) : Board := emptyTo ⟨width - 1, height - 1⟩

def withRobot (b : Board) (r : Option Robot) : Board := { b with robot := r }

def withObstacle (b : Board) (c : Cell) : Board := { b with obstacles := b.obstacles.insert c }

/-- A robot, if there is one, stands inside the bounds and on no obstacle. -/
def Valid (b : Board) : Prop :=
  ∀ r ∈ b.robot, b.bounds.Contains r.location ∧ r.location ∉ b.obstacles

instance (b : Board) : Decidable b.Valid :=
  match h : b.robot with
  | none => isTrue (by simp [Valid, h])
  | some r =>
    decidable_of_iff (b.bounds.Contains r.location ∧ r.location ∉ b.obstacles)
      (by simp [Valid, h])

end Board
end GridRobot
