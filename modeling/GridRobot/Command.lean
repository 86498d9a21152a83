import GridRobot.Grid.Cell

/-! The closed set of robot commands. -/
namespace GridRobot

inductive Command where
  | place (location : Cell) (heading : Heading)
  | move
  | rotate (turn : Turn)
  | report
  | placeObject
  | map
  deriving DecidableEq, Repr

namespace Command

/-- The tag that names a command's variant wherever commands are written down. -/
def kind : Command → String
  | place _ _ => "place"
  | move => "move"
  | rotate _ => "rotate"
  | report => "report"
  | placeObject => "place_object"
  | map => "map"

end Command
end GridRobot
