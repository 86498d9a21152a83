import GridRobot.Board
import GridRobot.Grid.Record

/-! Robots and boards as records. -/
namespace GridRobot

namespace Robot

def recordName : String := "Robot"

def ofData (k : Decimal.Counting) (d : Data) : Checked Robot := do
  let ms ← Schema.members recordName d
  (Checked.both (Schema.required ms "location" (Cell.ofData k))
    (Schema.required ms "facing" Heading.ofData)).map fun p => ⟨p.1, p.2⟩

def toData (r : Robot) : Data :=
  .object [("location", r.location.toData), ("facing", r.heading.toData)]

end Robot

namespace CellSet

/-- Cells in any order, with repetitions. -/
def ofData (k : Decimal.Counting) : Data → Checked CellSet
  | .list ds => (Checked.items (Cell.ofData k) 0 ds).map ofList
  | _ => .fail .notSet

end CellSet

namespace Board

def recordName : String := "Board"

def ofData (k : Decimal.Counting) (d : Data) : Checked Board := do
  let ms ← Schema.members recordName d
  (Checked.both (Schema.required ms "bounds" (Box.ofData k))
    (Checked.both (Schema.withDefault ms "robot" none (Schema.nullable (Robot.ofData k)))
      (Schema.withDefault ms "obstacles" .empty (CellSet.ofData k)))).map
    fun p => ⟨p.1, p.2.1, p.2.2⟩

end Board

end GridRobot
