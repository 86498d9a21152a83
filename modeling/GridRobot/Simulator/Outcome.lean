import GridRobot.Command.Record
import GridRobot.Outcome
import GridRobot.Simulator

/-! The outcomes of reading a line and of running it. -/
namespace GridRobot

/-- The text that was at fault is kept beside the message. -/
def LineError.failure (e : LineError) : Failure := ⟨e.code, e.message, [("raw", .text e.raw)]⟩

namespace LineReading

/-- The outcome of reading a line without running it. -/
def outcome : LineReading → Outcome
  | .ok c => .success "parse" c.toMembers
  | .error e => .failed "parse" e.failure

end LineReading

namespace StepReport

def outcome : StepReport → Outcome
  | failed e => .failed "step" e.failure
  | ran c output committed =>
    .success "step" [
      ("command", c.toData),
      ("output", (output.map Data.text).getD .null),
      ("committed", .bool committed)]

/-- The outcome of a line of a run, with the line's number. -/
def outcomeAt (r : StepReport) (line : Nat) : Outcome :=
  { r.outcome with context := some [("line", .int line)] }

end StepReport

namespace Simulator

/-- Lines are numbered from one. -/
def outcomes (reports : List StepReport) : List Outcome :=
  reports.mapIdx fun i r => r.outcomeAt (i + 1)

end Simulator
end GridRobot
