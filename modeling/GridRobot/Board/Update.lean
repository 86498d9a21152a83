import GridRobot.Board
import GridRobot.Command

/-! The board a command leads to, whether or not a robot may stand there. -/
namespace GridRobot

/-- Without a robot only a placement changes anything. -/
def Board.after (b : Board) (c : Command) : Board :=
  match c, b.robot with
  | .place p h, _ => b.withRobot (some ⟨p, h⟩)
  | _, none => b
  | .move, some r => b.withRobot (some { r with location := r.ahead })
  | .rotate t, some r => b.withRobot (some { r with heading := r.heading.turned t })
  | .placeObject, some r => b.withObstacle r.ahead
  | .report, some _ => b
  | .map, some _ => b

end GridRobot
